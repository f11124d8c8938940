import OtlpClient.Credentials.Minting
import OtlpClient.Credentials.Replies

/-!
# Credentials — a mint is all or nothing

* `Step.inFlight`: while a token is requested, only an invalidation acts on the one that is kept.
* `respond_mints`, `respond_fails`: what the reply does to it.
* `mint_all_or_nothing`: the token that is kept is paired with its own expiry, in every run.
-/

namespace OtlpClient.OAuth2ClientCredentials

variable {T : Type}

/-- The `_refresh` of a call ends: its reply comes, or its await is cancelled. -/
def Action.Ends (n : Nat) : Action T → Prop
  | .respond n' _ | .cancel n' => n' = n
  | _ => False

/-- Since a state, nothing but the invalidations has acted on the token and its expiry. -/
structure Untouched (s s' : State T) (tr : List (Event T)) : Prop where
  token : s'.token = if invalidations tr = 0 then s.token else none
  expiresAt : s'.expiresAt = s.expiresAt

theorem Untouched.refl (s : State T) : Untouched s s [] := ⟨rfl, rfl⟩

theorem invalidations_append (tr es : List (Event T)) :
    invalidations (tr ++ es) = invalidations tr + invalidations es :=
  List.countP_append

theorem Untouched.trans {s s' s'' : State T} {tr es : List (Event T)} (h : Untouched s s' tr)
    (h' : Untouched s' s'' es) : Untouched s s'' (tr ++ es) := by
  refine ⟨?_, h'.expiresAt.trans h.expiresAt⟩
  rw [h'.token, h.token, invalidations_append]
  by_cases hes : invalidations es = 0
  · rw [if_pos hes, hes, Nat.add_zero]
  · rw [if_neg hes, if_neg (by omega)]

/-- Events among which there is no invalidation. -/
theorem Untouched.of_eq {s s' : State T} {es : List (Event T)} (htoken : s'.token = s.token)
    (hexpiresAt : s'.expiresAt = s.expiresAt) (hes : invalidations es = 0) : Untouched s s' es :=
  ⟨by rw [if_pos hes, htoken], hexpiresAt⟩

section Step

variable [Zero T] [Add T] [Sub T] [LT T] [DecidableLT T] {c : OAuth2ClientCredentials T}

/-- While a call requests a token, a step of another leaves it requesting and the token alone. -/
theorem Step.inFlight {s s' : State T} {a : Action T} {es : List (Event T)} {n : Nat}
    (hs : c.Step s a s' es) (hc : Coherent s) (hn : s.call n = .requesting) (ha : ¬ a.Ends n) :
    s'.call n = .requesting ∧ Untouched s s' es := by
  cases hs with
  | @headers _ n' hn' =>
      have hne : n ≠ n' := fun he => by
        rw [← he, hn] at hn'
        cases hn'
      unfold OAuth2ClientCredentials.headers
      by_cases hu : c.Usable s
      · rw [if_pos hu]
        exact ⟨hn, .of_eq rfl rfl rfl⟩
      · rw [if_neg hu]
        refine ⟨?_, .of_eq rfl rfl rfl⟩
        dsimp only
        rw [Function.update_of_ne hne, hn]
  | @acquire _ n' hn' hl =>
      -- The lock is taken.
      rw [(hc n).mpr hn] at hl
      cases hl
  | @respond _ n' reply hn' =>
      have he : some n = some n' := ((hc n).mpr hn).symm.trans ((hc n').mpr hn')
      exact absurd (Option.some.inj he).symm ha
  | @cancel _ n' hn' =>
      have hne : n ≠ n' := fun he => ha he.symm
      refine ⟨?_, .of_eq rfl rfl rfl⟩
      unfold leave
      dsimp only
      rw [Function.update_of_ne hne, hn]
  | invalidate => exact ⟨hn, rfl, rfl⟩
  | tick _ => exact ⟨hn, .of_eq rfl rfl rfl⟩

/-- Until its `_refresh` ends, a call requests and the token is left alone. -/
theorem run_inFlight {s s' : State T} {tr : List (Event T)} {n : Nat} (hc : Coherent s)
    (hn : s.call n = .requesting)
    (hr : Machine.Run (c.Step.onlyIf fun _ a => ¬ a.Ends n) s s' tr) :
    Coherent s' ∧ s'.call n = .requesting ∧ Untouched s s' tr := by
  refine Machine.Run.invariant
    (I := fun s' tr => Coherent s' ∧ s'.call n = .requesting ∧ Untouched s s' tr) hr
    ⟨hc, hn, .refl s⟩ ?_
  rintro s₁ a s₂ tr es - ⟨hc₁, hn₁, hu⟩ ⟨hs, ha⟩
  obtain ⟨hn₂, hu'⟩ := hs.inFlight hc₁ hn₁ ha
  exact ⟨hs.coherent hc₁, hn₂, hu.trans hu'⟩

omit [Sub T] in
/-- A reply that grants a token sets the token and its expiry. -/
theorem respond_mints {s : State T} {n : Nat} {r : Response} {token : String} {ttl : T}
    (h : c.Grants r token ttl) :
    c.respond s n (.response r) =
      (leave { s with token := some token, expiresAt := s.now + ttl } n,
        [.minted n token s.now ttl, .returned n (bearer (some token)) s.now]) := by
  rw [respond, refresh_ok_iff.mpr ⟨r, rfl, h⟩]

omit [Sub T] in
/-- Any other sets neither. -/
theorem respond_fails {s : State T} {n : Nat} {reply : Reply}
    (h : ∀ r token ttl, reply = .response r → ¬ c.Grants r token ttl) :
    ∃ e, c.respond s n reply = (leave s n, [.raised n e]) := by
  cases he : c.refresh reply with
  | ok minted =>
      obtain ⟨r, hr, hg⟩ := refresh_ok_iff.mp he
      exact absurd hg (h r _ _ hr)
  | error e => exact ⟨e, by rw [respond, he]⟩

/-- What is minted was granted by a response. -/
def Granted (c : OAuth2ClientCredentials T) (_ : List (Event T)) : Event T → Prop
  | .minted _ token _ ttl => ∃ r, c.Grants r token ttl
  | _ => True

theorem granted_step {s s' : State T} {a : Action T} {tr es : List (Event T)}
    (hs : c.Step s a s' es) (h : Always (Granted c) tr) : Always (Granted c) (tr ++ es) := by
  cases hs with
  | @respond _ n reply hn =>
      by_cases hg : ∃ r token ttl, reply = .response r ∧ c.Grants r token ttl
      · obtain ⟨r, token, ttl, rfl, hg⟩ := hg
        rw [respond_mints hg, List.append_cons]
        exact (h.snoc (x := Event.minted n token s.now ttl) ⟨r, hg⟩).snoc trivial
      · obtain ⟨e, he⟩ := @respond_fails _ _ _ _ _ c s n reply
          fun r token ttl hr hg' => hg ⟨r, token, ttl, hr, hg'⟩
        rw [he]
        exact h.snoc trivial
  | @headers _ n hn =>
      unfold OAuth2ClientCredentials.headers
      split
      · exact h.snoc trivial
      · rwa [List.append_nil]
  | @acquire _ n hn hl =>
      unfold OAuth2ClientCredentials.recheck
      split <;> exact h.snoc trivial
  | _ => exact h.snoc trivial

/-- What holds of the token in a state with its history. -/
structure AllOrNothing (c : OAuth2ClientCredentials T) (s : State T) (tr : List (Event T)) :
    Prop where
  /-- The token is the last one minted, and the expiry is its own. -/
  stands : ∀ token, s.token = some token → Stands token s.expiresAt tr
  /-- Each mint stored what a response granted. -/
  granted : Always (Granted c) tr
  /-- A `_refresh` that is on its way, until its reply has come or its await is cancelled. -/
  refresh : ∀ n, s.call n = .requesting → ∀ s' tr',
    Machine.Run (c.Step.onlyIf fun _ a => ¬ a.Ends n) s s' tr' → Untouched s s' tr' ∧
      ∀ a s'' es, a.Ends n → c.Step s' a s'' es →
        (∃ r token ttl, a = .respond n (.response r) ∧ c.Grants r token ttl ∧
          s''.token = some token ∧ s''.expiresAt = s'.now + ttl) ∨
        ((∀ r token ttl, a = .respond n (.response r) → ¬ c.Grants r token ttl) ∧
          Untouched s s'' tr')

/-- The last step of a `_refresh` stores a token with its expiry, or leaves both alone. -/
theorem Step.ends {s s' : State T} {a : Action T} {es : List (Event T)} {n : Nat}
    (hs : c.Step s a s' es) (ha : a.Ends n) :
    (∃ r token ttl, a = .respond n (.response r) ∧ c.Grants r token ttl ∧
        s'.token = some token ∧ s'.expiresAt = s.now + ttl) ∨
      ((∀ r token ttl, a = .respond n (.response r) → ¬ c.Grants r token ttl) ∧
        s'.token = s.token ∧ s'.expiresAt = s.expiresAt) := by
  cases hs with
  | @respond _ n' reply hn =>
      obtain rfl : n' = n := ha
      by_cases hg : ∃ r token ttl, reply = .response r ∧ c.Grants r token ttl
      · obtain ⟨r, token, ttl, rfl, hg⟩ := hg
        refine Or.inl ⟨r, token, ttl, rfl, hg, ?_⟩
        rw [respond_mints hg]
        exact ⟨rfl, rfl⟩
      · have hno : ∀ r token ttl, reply = .response r → ¬ c.Grants r token ttl :=
          fun r token ttl hr hg' => hg ⟨r, token, ttl, hr, hg'⟩
        obtain ⟨e, he⟩ := respond_fails (s := s) (n := n') hno
        refine Or.inr ⟨fun r token ttl hr => hno r token ttl (Action.respond.inj hr).2, ?_⟩
        rw [he]
        exact ⟨rfl, rfl⟩
  | cancel hn => exact Or.inr ⟨nofun, rfl, rfl⟩
  | headers hn => cases ha
  | acquire hn hl => cases ha
  | invalidate => cases ha
  | tick h => cases ha

/-- **A mint is all or nothing.**  In every run, the token that is kept is the last one minted and
its expiry is its own; and from any state in which a call requests a token, whatever comes between,
nothing but the invalidations acts on the two until the reply comes, which sets both to what its
response grants or leaves both alone. -/
theorem mint_all_or_nothing {now : T} {s : State T} {tr : List (Event T)} (hr : c.Run now s tr) :
    AllOrNothing c s tr where
  stands := (Machine.Run.invariant (I := Honest c) hr ⟨nofun, always_nil⟩
    fun _ _ _ _ _ _ h hs => honest_step hs h).stands
  granted := Machine.Run.invariant (I := fun _ tr => Always (Granted c) tr) hr always_nil
    fun _ _ _ _ _ _ h hs => granted_step hs h
  refresh := by
    intro n hn s' tr' hr'
    obtain ⟨-, -, hu⟩ := run_inFlight (run_coherent hr) hn hr'
    refine ⟨hu, fun a s'' es ha hs => ?_⟩
    rcases hs.ends ha with hstored | ⟨hno, htoken, hexpiresAt⟩
    · exact Or.inl hstored
    · exact Or.inr ⟨hno, htoken.trans hu.token, hexpiresAt.trans hu.expiresAt⟩

/-- The first call has asked for a token. -/
def requestedOne : State Int := (provider.recheck (provider.headers (init 100) 0).1 0).1

theorem requestedOne_run : provider.Run 100 requestedOne [.requested 0] := by
  have h₀ : provider.Run 100 (init 100) [] := .start
  have h₁ := h₀.next (.headers (n := 0) rfl)
  exact h₁.next (.acquire (n := 0) rfl rfl)

theorem mint_all_or_nothing_requestedOne : AllOrNothing provider requestedOne [.requested 0] :=
  mint_all_or_nothing requestedOne_run

end Step

end OtlpClient.OAuth2ClientCredentials
