import Mathlib.Data.Finset.Card
import OtlpClient.Client.Protocol
import OtlpClient.Credentials.Minting
import OtlpClient.Retry.Schedule
import OtlpClient.Support.Refinement

/-!
# Credentials — exports that share a provider

Any number of exports of any clients, with one `OAuth2ClientCredentials` among them.  A history of
all of them is one of which the provider sees a run of its own, and each export what an export does:
`OTLPClient._headers` awaits `headers`, and a refused export calls `invalidate`.

* `sends_renewed`: no export sends a token that was minted before its credentials were refused.
* `mints_le_refusals`: a burst of refusals, while every token is usable, costs at most one mint for
  each of them, and one.
-/

namespace OtlpClient

/-- An export of a client that has the provider. -/
structure SharedExport (K Data : Type) where
  client : OTLPClient K Data
  kind : SignalKind
  data : List Data
  shares : client.hasCredentials = true

/-- What happens to the provider, or in the export of a number. -/
inductive Shared (T K : Type) where
  | provider (e : OAuth2ClientCredentials.Event T)
  | client (n : Nat) (e : Event K)

namespace Shared

variable {T K : Type}

/-- What the provider sees of it: each export that invalidates calls `invalidate`. -/
def toProvider : Shared T K → Option (OAuth2ClientCredentials.Event T)
  | .provider e => some e
  | .client _ (.invalidate ..) => some .invalidated
  | _ => none

/-- What an export sees of it: its own calls of `headers` return or raise. -/
def toClient (kind : SignalKind) (n : Nat) : Shared T K → Option (Event K)
  | .provider (.returned n' header _) =>
      if n' = n then some (.headers kind (.ok [("authorization", header)])) else none
  | .provider (.raised n' e) => if n' = n then some (.headers kind (.error e)) else none
  | .client n' e => if n' = n then some e else none
  | _ => none

/-- The export that invalidates. -/
def teller? : Shared T K → Option Nat
  | .client n (.invalidate ..) => some n
  | _ => none

theorem toClient_self (kind : SignalKind) (n : Nat) (e : Event K) :
    (.client n e : Shared T K).toClient kind n = some e := if_pos rfl

/-- What an export can see. -/
theorem toClient_cases {kind : SignalKind} {n : Nat} {e : Shared T K} {f : Event K}
    (h : e.toClient kind n = some f) : e = .client n f ∨
      (∃ header now, e = .provider (.returned n header now) ∧
        f = .headers kind (.ok [("authorization", header)])) ∨
      ∃ exn, e = .provider (.raised n exn) ∧ f = .headers kind (.error exn) := by
  cases e with
  | provider e =>
      cases e with
      | returned n' header now =>
          obtain ⟨rfl, heq⟩ := Option.ite_none_right_eq_some.mp h
          exact Or.inr (Or.inl ⟨header, now, rfl, (Option.some.inj heq).symm⟩)
      | raised n' exn =>
          obtain ⟨rfl, heq⟩ := Option.ite_none_right_eq_some.mp h
          exact Or.inr (Or.inr ⟨exn, rfl, (Option.some.inj heq).symm⟩)
      | _ => cases h
  | client n' e =>
      obtain ⟨rfl, heq⟩ := Option.ite_none_right_eq_some.mp h
      exact Or.inl (congrArg _ (Option.some.inj heq))

end Shared

section Together

variable {T K Data : Type} [Zero T] [Add T] [Sub T] [LT T] [DecidableLT T] [Seconds K]
  {c : OAuth2ClientCredentials T} {now : T} {exports : Nat → SharedExport K Data}
  {tr : List (Shared T K)}

/-- A history of the provider and the exports, in which each does what it does. -/
structure Together (c : OAuth2ClientCredentials T) (now : T) (exports : Nat → SharedExport K Data)
    (tr : List (Shared T K)) : Prop where
  /-- An export is given headers by the provider. -/
  answered : ∀ n k r, .client n (.headers k r) ∉ tr
  /-- Whoever invalidates is one of the exports. -/
  told : .provider .invalidated ∉ tr
  provider : ∃ s, c.Run now s (tr.filterMap Shared.toProvider)
  client : ∀ n, ∃ world rounds, tr.filterMap (Shared.toClient (exports n).kind n) <+:
    ((exports n).client.exportSignal world (exports n).kind (exports n).data rounds {}).2.trace

/-- What an export does is permitted when it is done. -/
theorem Together.permitted (h : Together c now exports tr) (n : Nat) :
    ∃ payload, Always ((exports n).client.Permitted (exports n).kind payload)
      (tr.filterMap (Shared.toClient (exports n).kind n)) := by
  obtain ⟨world, rounds, rest, hrest⟩ := h.client n
  cases hp : (exports n).client.encode (exports n).kind (exports n).data with
  | ok payload =>
      have hconforms : Always ((exports n).client.Permitted (exports n).kind payload)
          ((exports n).client.exportSignal world (exports n).kind (exports n).data rounds
            {}).2.trace :=
        OTLPClient.exportSignal_permitted (exports n).data rounds hp
      rw [← hrest] at hconforms
      exact ⟨payload, hconforms.of_append⟩
  | error e =>
      rw [OTLPClient.exportSignal_unencoded _ rounds hp] at hrest
      rw [(List.append_eq_nil_iff.mp hrest).1]
      exact ⟨[], always_nil⟩

omit [Seconds K] in
/-- What the provider returns is fresh. -/
theorem OAuth2ClientCredentials.run_honest {s : OAuth2ClientCredentials.State T}
    {es : List (OAuth2ClientCredentials.Event T)} (hr : c.Run now s es) :
    OAuth2ClientCredentials.Honest c s es :=
  Machine.Run.invariant (I := OAuth2ClientCredentials.Honest c) hr ⟨nofun, always_nil⟩
    fun _ _ _ _ _ _ h hs => OAuth2ClientCredentials.honest_step hs h

/-! ### The token of a send -/

/-- A send carries a token that nobody had invalidated since it was minted when its export was given
it, that had not expired or was minted by the export itself, and since when the export has neither
sent nor invalidated. -/
def Renewed (c : OAuth2ClientCredentials T) (exports : Nat → SharedExport K Data)
    (pre : List (Shared T K)) : Shared T K → Prop
  | .client n (.send _ _ hs _) => ∃ before i token at_ ttl after now since,
      pre = before ++ .provider (.minted i token at_ ttl) ::
        (after ++ .provider (.returned n ("Bearer " ++ token) now) :: since) ∧
      hs = Dict.update ((exports n).client.headersFor (exports n).kind)
        [("authorization", "Bearer " ++ token)] ∧
      (∀ n' k r, .client n' (.invalidate k r) ∉ after) ∧
      (now < at_ + ttl - c.expirySkew ∨ i = n) ∧ ∀ e, .client n e ∈ since → e.IsQuiet
  | _ => True

/-- **A refused token is not sent again.**  However many exports share the provider, and however
their calls, its mints and their cancellations interleave: each send carries a token that no
invalidation had followed when the export was given it, after the last send and the last
invalidation of the export itself. -/
theorem sends_renewed (h : Together c now exports tr) : Always (Renewed c exports) tr := by
  intro pre e post htr
  cases e with
  | provider e => trivial
  | client n e =>
      cases e with
      | send k p hs r =>
          obtain ⟨s, hrun⟩ := h.provider
          obtain ⟨payload, hpermitted⟩ := h.permitted n
          -- The export resolved its headers after its last send and its last invalidation.
          obtain ⟨-, -, hfresh, -⟩ := hpermitted.shared pre _ post htr _ (Shared.toClient_self ..)
          rw [OTLPClient.Fresh, if_pos (exports n).shares] at hfresh
          obtain ⟨given, pre', post', hhs, hpre, hquiet⟩ := hfresh
          obtain ⟨upTo, e, since, rfl, he, -, hsince⟩ := exists_of_filterMap_eq hpre
          obtain ⟨header, now', rfl, rfl⟩ : ∃ header now, e = .provider (.returned n header now) ∧
              given = [("authorization", header)] := by
            rcases Shared.toClient_cases he with rfl | ⟨header, now', rfl, hgiven⟩ | ⟨_, -, hraised⟩
            · exact absurd (by rw [htr]; simp) (h.answered n (exports n).kind (.ok given))
            · cases hgiven
              exact ⟨header, now', rfl, rfl⟩
            · cases hraised
          -- The provider returned them fresh.
          obtain ⟨before, i, token, at_, ttl, after, hupTo, rfl, hafter, hlive⟩ :=
            (OAuth2ClientCredentials.run_honest hrun).returns.shared upTo
              (.provider (.returned n header now')) (since ++ .client n (.send k p hs r) :: post)
              (by rw [htr, List.append_assoc, List.cons_append]) _ rfl
          obtain ⟨before', e, after', rfl, he, -, hafter'⟩ := exists_of_filterMap_eq hupTo
          have hmint : e = .provider (.minted i token at_ ttl) := by
            cases e with
            | provider e =>
                cases he
                rfl
            | client n' e => cases e <;> cases he
          subst hmint
          refine ⟨before', i, token, at_, ttl, after', now', since, by simp, hhs, ?_,
            hlive.imp_right And.left, ?_⟩
          · intro n' k' r' hm
            have hinv : OAuth2ClientCredentials.Event.invalidated ∈ after := by
              rw [← hafter']
              exact List.mem_filterMap.mpr ⟨_, hm, rfl⟩
            cases hafter _ hinv
          · intro e hm
            refine hquiet e ?_
            rw [← hsince]
            exact List.mem_filterMap.mpr ⟨_, hm, if_pos rfl⟩
      | _ => trivial

/-! ### How many tokens are minted -/

/-- A call of `invalidate`. -/
def Event.isInvalidation : Event K → Bool
  | .invalidate .. => true
  | _ => false

omit [Seconds K] in
/-- An export invalidates once at most. -/
theorem invalidations_le_one {client : OTLPClient K Data} {kind : SignalKind} {payload : Bytes}
    {es : List (Event K)} (h : Always (client.Permitted kind payload) es) :
    es.countP Event.isInvalidation ≤ 1 := by
  induction es using List.reverseRecOn with
  | nil => exact Nat.zero_le 1
  | append_singleton es e ih =>
      obtain ⟨hes, he⟩ := always_snoc.mp h
      rw [List.countP_append, List.countP_singleton]
      cases e with
      | invalidate k r =>
          have hnone : es.countP Event.isInvalidation = 0 := by
            rw [List.countP_eq_zero]
            rintro (_ | ⟨k', r'⟩) hm
            all_goals first | exact absurd hm (he.2.2.1 _ _) | exact Bool.false_ne_true
          rw [hnone]
          exact Nat.le_refl 1
      | _ => exact ih hes

omit [Zero T] [Add T] [Sub T] [LT T] [DecidableLT T] [Seconds K] in
/-- The provider is told as often as exports tell it. -/
theorem invalidations_eq (h : .provider .invalidated ∉ tr) :
    OAuth2ClientCredentials.invalidations (tr.filterMap Shared.toProvider) =
      (tr.filterMap Shared.teller?).length := by
  rw [OAuth2ClientCredentials.invalidations, List.countP_filterMap,
    List.length_filterMap_eq_countP]
  refine List.countP_congr fun e he => ?_
  cases e with
  | provider e =>
      cases e with
      | invalidated => exact absurd he h
      | _ => exact Iff.rfl
  | client n e => cases e <;> exact Iff.rfl

omit [Zero T] [Add T] [Sub T] [LT T] [DecidableLT T] [Seconds K] in
/-- An export tells the provider as often as it sees itself do so. -/
theorem count_tellers (kind : SignalKind) (n : Nat) (tr : List (Shared T K)) :
    (tr.filterMap Shared.teller?).count n =
      (tr.filterMap (Shared.toClient kind n)).countP Event.isInvalidation := by
  rw [List.count, List.countP_filterMap, List.countP_filterMap]
  refine List.countP_congr fun e _ => ?_
  cases hsee : e.toClient kind n with
  | some f =>
      rcases Shared.toClient_cases hsee with rfl | ⟨header, now, rfl, rfl⟩ | ⟨exn, rfl, rfl⟩
      · cases f with
        | invalidate k r => exact iff_of_true (beq_self_eq_true n) rfl
        | _ => exact Iff.rfl
      · exact Iff.rfl
      · exact Iff.rfl
  | none =>
      -- An export that invalidates sees it.
      refine iff_of_false (fun hteller => ?_) Bool.false_ne_true
      cases e with
      | provider e => cases hteller
      | client n' e =>
          cases e with
          | invalidate k r =>
              rw [Shared.toClient, if_pos (beq_iff_eq.mp hteller)] at hsee
              cases hsee
          | _ => cases hteller

/-- **A burst of refusals costs no more mints than there are.**  Where the clock passes no token's
expiry less the skew, there are at most as many mints as exports whose credentials were refused, and
one. -/
theorem mints_le_refusals (h : Together c now exports tr)
    (hw : Always (OAuth2ClientCredentials.Within (OAuth2ClientCredentials.Unexpired c))
      (tr.filterMap Shared.toProvider)) :
    ∃ refused : Finset Nat,
      (∀ n ∈ refused, ∃ k p hs o, .client n (.send k p hs (.ok o)) ∈ tr ∧
        o.isCredentialRejection = true) ∧
      OAuth2ClientCredentials.mints (tr.filterMap Shared.toProvider) ≤ 1 + refused.card := by
  obtain ⟨s, hrun⟩ := h.provider
  have hnodup : (tr.filterMap Shared.teller?).Nodup := by
    rw [List.nodup_iff_count_le_one]
    intro n
    obtain ⟨payload, hpermitted⟩ := h.permitted n
    rw [count_tellers (exports n).kind n]
    exact invalidations_le_one hpermitted
  refine ⟨(tr.filterMap Shared.teller?).toFinset, fun n hn => ?_, ?_⟩
  · obtain ⟨e, he, hteller⟩ := List.mem_filterMap.mp (List.mem_toFinset.mp hn)
    cases e with
    | provider e => cases hteller
    | client n' e =>
        cases e with
        | invalidate k r =>
            cases hteller
            obtain ⟨pre, post, htr⟩ := List.append_of_mem he
            obtain ⟨payload, hpermitted⟩ := h.permitted n
            obtain ⟨-, -, -, pre', hs, o, hpre, ho, -⟩ :=
              hpermitted.shared pre _ post htr _ (Shared.toClient_self ..)
            -- The last thing the export saw was that its credentials were refused.
            obtain ⟨upTo, e, since, rfl, hsend, -, -⟩ := exists_of_filterMap_eq hpre
            rcases Shared.toClient_cases hsend with rfl | ⟨_, _, -, hf⟩ | ⟨_, -, hf⟩
            · exact ⟨(exports n).kind, payload, hs, o, by rw [htr]; simp, ho⟩
            · cases hf
            · cases hf
        | _ => cases hteller
  · rw [List.toFinset_card_of_nodup hnodup, ← invalidations_eq h.told]
    exact OAuth2ClientCredentials.mints_le .start hrun hw

end Together

/-! ### One refusal -/

/-- An export with a header of its own. -/
def teamExport : SharedExport ℚ Nat where
  client := {
    headersFor := fun _ => [("x-scope", "team")]
    encode := fun _ _ => .ok []
    policy := .defaults
    hasCredentials := true }
  kind := .metrics
  data := [0]
  shares := rfl

/-- A collector that refuses the first token. -/
def refusing : World ℚ where
  headers _ _ := .ok [("authorization", "Bearer t")]
  invalidate _ _ := .ok ()
  send tr _ _ _ :=
    .ok (if tr.any Event.isInvalidation then .success else .permanent (some 401) "expired")
  sleep _ _ := .ok ()
  monotonic _ := 0
  jitter _ := 0

/-- The export is given a token, is refused, and is given another. -/
def refusedOnce : List (Shared Int ℚ) :=
  let headers := [("x-scope", "team"), ("authorization", "Bearer t")]
  [.client 0 (.monotonic 0), .provider (.requested 0), .provider (.minted 0 "t" 100 300),
    .provider (.returned 0 "Bearer t" 100),
    .client 0 (.send .metrics [] headers (.ok (.permanent (some 401) "expired"))),
    .client 0 (.invalidate .metrics (.ok ())), .provider (.requested 0),
    .provider (.minted 0 "t" 100 300), .provider (.returned 0 "Bearer t" 100),
    .client 0 (.send .metrics [] headers (.ok .success))]

theorem refusedOnce_together :
    Together OAuth2ClientCredentials.provider 100 (fun _ => teamExport) refusedOnce where
  answered n k r := by simp [refusedOnce]
  told := by simp [refusedOnce]
  provider := by
    have h₁ := OAuth2ClientCredentials.mintedOne_run
    have h₂ := h₁.next .invalidate
    have h₃ := h₂.next (.headers (n := 0) rfl)
    have h₄ := h₃.next (.acquire (n := 0) rfl rfl)
    exact ⟨_, h₄.next (@OAuth2ClientCredentials.Step.respond _ _ _ _ _ _ _ _ 0
      OAuth2ClientCredentials.tokenReply rfl)⟩
  client
    | 0 => ⟨refusing, 1, [], rfl⟩
    | _ + 1 => ⟨refusing, 1, _, rfl⟩

theorem sends_renewed_refusedOnce :
    Always (Renewed OAuth2ClientCredentials.provider fun _ => teamExport) refusedOnce :=
  sends_renewed refusedOnce_together

theorem mints_le_refusals_refusedOnce : ∃ refused : Finset Nat,
    (∀ n ∈ refused, ∃ k p hs o, .client n (.send k p hs (.ok o)) ∈ refusedOnce ∧
      o.isCredentialRejection = true) ∧
    OAuth2ClientCredentials.mints (refusedOnce.filterMap Shared.toProvider) ≤
      1 + refused.card := by
  have hlive : OAuth2ClientCredentials.Unexpired OAuth2ClientCredentials.provider 100 300 100 :=
    show (100 : Int) < 100 + 300 - 30 by decide
  have hwithin : Always (OAuth2ClientCredentials.Within OAuth2ClientCredentials.provider.Unexpired)
      [.requested 0, .minted 0 "t" 100 300, .returned 0 "Bearer t" 100, .invalidated,
        .requested 0, .minted 0 "t" 100 300, .returned 0 "Bearer t" 100] :=
    ((((((always_nil.snoc trivial).snoc hlive).snoc trivial).snoc trivial).snoc trivial).snoc
      hlive).snoc trivial
  exact mints_le_refusals refusedOnce_together hwithin

end OtlpClient
