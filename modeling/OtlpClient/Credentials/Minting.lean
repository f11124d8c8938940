import Mathlib.Algebra.Order.Group.Int
import Mathlib.Algebra.Order.Group.Unbundled.Basic
import OtlpClient.Credentials.Machine
import OtlpClient.Support.History

/-!
# Credentials — one mint at a time

* `Step.cases`: what a step can do.
* `mints_le`: how many tokens are minted in a period, over any arithmetic.
* `single_flight`: one token request at a time, and one mint for each invalidation and one more.
* `headers_fresh`: what `headers` returns.
-/

namespace OtlpClient.OAuth2ClientCredentials

variable {T : Type}

/-- The token and the clock are untouched, and nobody starts to request. -/
structure Still (s s' : State T) : Prop where
  token : s'.token = s.token
  expiresAt : s'.expiresAt = s.expiresAt
  now : s'.now = s.now
  requesting : ∀ n, s'.call n = .requesting → s.call n = .requesting

theorem Still.refl (s : State T) : Still s s := ⟨rfl, rfl, rfl, fun _ h => h⟩

/-- Nobody but `n` requests who did not. -/
theorem requesting_update {call : Nat → CallPc} {n n' : Nat} (pc : CallPc)
    (hpc : pc ≠ .requesting) (h : Function.update call n pc n' = .requesting) :
    n' ≠ n ∧ call n' = .requesting := by
  by_cases hn : n' = n
  · subst hn
    rw [Function.update_self] at h
    exact absurd h hpc
  · rw [Function.update_of_ne hn] at h
    exact ⟨hn, h⟩

theorem leave_still (s : State T) (n : Nat) : Still s (leave s n) :=
  ⟨rfl, rfl, rfl, fun _ h => (requesting_update .idle nofun h).2⟩

variable [Zero T] [Add T] [Sub T] [LT T] [DecidableLT T] {c : OAuth2ClientCredentials T}

/-- What a step can do: leave the token alone, and return it only where it is usable; start a request
where it is not; mint; invalidate; let the clock go on. -/
theorem Step.cases {s s' : State T} {a : Action T} {es : List (Event T)} (hs : c.Step s a s' es) :
    (Still s s' ∧ ((c.Usable s ∧ ∃ n, es = [.returned n (bearer s.token) s.now]) ∨ es = [] ∨
        ∃ n e, es = [.raised n e])) ∨
      (∃ n, ¬ c.Usable s ∧ s' = { s with
        lock := some n, call := Function.update s.call n .requesting } ∧ es = [.requested n]) ∨
      (∃ n token ttl, s.call n = .requesting ∧
        s' = leave { s with token := some token, expiresAt := s.now + ttl } n ∧
        es = [.minted n token s.now ttl, .returned n (bearer (some token)) s.now]) ∨
      (s' = { s with token := none } ∧ es = [.invalidated]) ∨
      (∃ now, s' = { s with now := now } ∧ es = [.ticked now]) := by
  cases hs with
  | @headers _ n hn =>
      unfold OAuth2ClientCredentials.headers
      by_cases hu : c.Usable s
      · rw [if_pos hu]
        exact Or.inl ⟨.refl s, Or.inl ⟨hu, n, rfl⟩⟩
      · rw [if_neg hu]
        exact Or.inl ⟨⟨rfl, rfl, rfl, fun _ h => (requesting_update .acquiring nofun h).2⟩,
          Or.inr (Or.inl rfl)⟩
  | @acquire _ n hn hl =>
      unfold OAuth2ClientCredentials.recheck
      by_cases hu : c.Usable s
      · rw [if_pos hu]
        exact Or.inl ⟨leave_still s n, Or.inl ⟨hu, n, rfl⟩⟩
      · rw [if_neg hu]
        exact Or.inr (Or.inl ⟨n, hu, rfl, rfl⟩)
  | @respond _ n reply hn =>
      unfold OAuth2ClientCredentials.respond
      cases c.refresh reply with
      | ok minted => exact Or.inr (Or.inr (Or.inl ⟨n, minted.1, minted.2, hn, rfl, rfl⟩))
      | error e => exact Or.inl ⟨leave_still s n, Or.inr (Or.inr ⟨n, e, rfl⟩)⟩
  | @cancel _ n hn => exact Or.inl ⟨leave_still s n, Or.inr (Or.inr ⟨n, .cancelled, rfl⟩)⟩
  | invalidate => exact Or.inr (Or.inr (Or.inr (Or.inl ⟨rfl, rfl⟩)))
  | @tick _ now _ => exact Or.inr (Or.inr (Or.inr (Or.inr ⟨now, rfl, rfl⟩)))

omit [Zero T] [Sub T] [LT T] [DecidableLT T] in
/-- Whoever mints is the only one to request. -/
theorem minted_alone {s : State T} (h : Coherent s) {n n' : Nat} (hn : s.call n = .requesting)
    {token : String} {ttl : T} :
    (leave { s with token := some token, expiresAt := s.now + ttl } n).call n' ≠ .requesting := by
  intro hreq
  obtain ⟨hne, hreq'⟩ := requesting_update .idle nofun hreq
  have he : some n = some n' := ((h n).mpr hn).symm.trans ((h n').mpr hreq')
  exact hne (Option.some.inj he).symm

/-! ### How many tokens are minted -/

def Event.IsMint : Event T → Bool
  | .minted .. => true
  | _ => false

def Event.IsInvalidation : Event T → Bool
  | .invalidated => true
  | _ => false

/-- How many mints succeeded. -/
def mints (tr : List (Event T)) : Nat := tr.countP Event.IsMint

/-- How often the token was invalidated. -/
def invalidations (tr : List (Event T)) : Nat := tr.countP Event.IsInvalidation

/-- Whenever the clock is read, it has not gone past what `P` allows a token minted before. -/
def Within (P : T → T → T → Prop) (pre : List (Event T)) : Event T → Prop
  | .minted _ _ now ttl => P now ttl now
  | .ticked now => ∀ n token at_ ttl, Event.minted n token at_ ttl ∈ pre → P at_ ttl now
  | _ => True

/-- The clock has not passed the expiry of a token, less the skew. -/
def Unexpired (c : OAuth2ClientCredentials T) (at_ ttl now : T) : Prop :=
  now < at_ + ttl - c.expirySkew

/-- A token minted in the period is usable and nobody replaces it. -/
def Settled (c : OAuth2ClientCredentials T) (s : State T) (tr : List (Event T)) : Prop :=
  c.Usable s ∧ (∀ n, s.call n ≠ .requesting) ∧
    ∃ n token at_ ttl, Event.minted n token at_ ttl ∈ tr ∧ s.expiresAt = at_ + ttl

/-- Every mint of the period but the first was preceded by an invalidation of its own; where the
invalidations are all spent, the last token still stands. -/
def Paid (c : OAuth2ClientCredentials T) (s : State T) (tr : List (Event T)) : Prop :=
  mints tr = 0 ∨ mints tr ≤ invalidations tr ∨
    mints tr = invalidations tr + 1 ∧ Settled c s tr

omit [Zero T] [DecidableLT T] in
theorem Settled.still {s s' : State T} {tr es : List (Event T)} (h : Settled c s tr)
    (hs : Still s s') : Settled c s' (tr ++ es) := by
  obtain ⟨⟨htok, hexp⟩, hnone, n, token, at_, ttl, hm, he⟩ := h
  refine ⟨⟨?_, ?_⟩, fun n' hreq => hnone n' (hs.requesting n' hreq), n, token, at_, ttl, ?_, ?_⟩
  · rw [hs.token]
    exact htok
  · rw [hs.now, hs.expiresAt]
    exact hexp
  · exact List.mem_append_left es hm
  · rw [hs.expiresAt]
    exact he

theorem paid_step {s s' : State T} {a : Action T} {tr es : List (Event T)}
    (hs : c.Step s a s' es) (hc : Coherent s) (hw : Always (Within (Unexpired c)) (tr ++ es))
    (h : Paid c s tr) : Paid c s' (tr ++ es) := by
  unfold Paid mints invalidations at h ⊢
  rw [List.countP_append, List.countP_append]
  rcases hs.cases with ⟨hst, hes⟩ | ⟨n, hu, rfl, rfl⟩ | ⟨n, token, ttl, hn, rfl, rfl⟩ |
    ⟨rfl, rfl⟩ | ⟨now, rfl, rfl⟩
  · have hm : es.countP Event.IsMint = 0 ∧ es.countP Event.IsInvalidation = 0 := by
      rcases hes with ⟨-, n, rfl⟩ | rfl | ⟨n, e, rfl⟩ <;> exact ⟨rfl, rfl⟩
    rw [hm.1, hm.2]
    rcases h with h | h | ⟨h, hset⟩
    · exact Or.inl h
    · exact Or.inr (Or.inl h)
    · exact Or.inr (Or.inr ⟨h, hset.still hst⟩)
  · -- A request is only sent where no token stands.
    rcases h with h | h | ⟨-, hset⟩
    · exact Or.inl h
    · exact Or.inr (Or.inl h)
    · exact absurd hset.1 hu
  -- Whoever mints asked where no token stood, so the mint is the first or is paid for.
  · have hle : tr.countP Event.IsMint ≤ tr.countP Event.IsInvalidation ∨
        tr.countP Event.IsMint = 0 := by
      rcases h with h | h | ⟨-, hset⟩
      · exact Or.inr h
      · exact Or.inl h
      · exact absurd hn (hset.2.1 n)
    have hlive : s.now < s.now + ttl - c.expirySkew := hw tr (.minted n token s.now ttl) _ rfl
    have hset : Settled c (leave { s with token := some token, expiresAt := s.now + ttl } n)
        (tr ++ [.minted n token s.now ttl, .returned n (bearer (some token)) s.now]) :=
      ⟨⟨nofun, hlive⟩, fun n' => minted_alone hc hn, n, token, s.now, ttl, by simp, rfl⟩
    have hone : [Event.minted n token s.now ttl,
        .returned n (bearer (some token)) s.now].countP Event.IsMint = 1 := rfl
    have hzero : [Event.minted n token s.now ttl,
        .returned n (bearer (some token)) s.now].countP Event.IsInvalidation = 0 := rfl
    rw [hone, hzero]
    by_cases he : tr.countP Event.IsMint = tr.countP Event.IsInvalidation
    · exact Or.inr (Or.inr ⟨by omega, hset⟩)
    · exact Or.inr (Or.inl (by omega))
  · have hzero : [(Event.invalidated : Event T)].countP Event.IsMint = 0 := rfl
    have hone : [(Event.invalidated : Event T)].countP Event.IsInvalidation = 1 := rfl
    rw [hone, hzero]
    rcases h with h | h | ⟨h, -⟩
    · exact Or.inl h
    · exact Or.inr (Or.inl (by omega))
    · exact Or.inr (Or.inl (by omega))
  · rcases h with h | h | ⟨h, ⟨htok, -⟩, hnone, n, token, at_, ttl, hm, he⟩
    · exact Or.inl h
    · exact Or.inr (Or.inl h)
    -- The clock goes on, and past no expiry of the period.
    · have hlive : now < at_ + ttl - c.expirySkew :=
        hw tr (.ticked now) [] rfl n token at_ ttl hm
      rw [← he] at hlive
      exact Or.inr (Or.inr ⟨h, ⟨htok, hlive⟩, hnone, n, token, at_, ttl, by simp [hm], he⟩)

/-- At most one mint, and one more for each invalidation, in a period in which the clock passes the
expiry of no token minted in it. -/
theorem mints_le {now : T} {s₀ s : State T} {tr₀ tr : List (Event T)} (h₀ : c.Run now s₀ tr₀)
    (h : Machine.Run c.Step s₀ s tr) (hw : Always (Within (Unexpired c)) tr) :
    mints tr ≤ 1 + invalidations tr := by
  have hpaid : Coherent s ∧ (Always (Within (Unexpired c)) tr → Paid c s tr) := by
    refine Machine.Run.invariant
      (I := fun s tr => Coherent s ∧ (Always (Within (Unexpired c)) tr → Paid c s tr)) h
      ⟨run_coherent h₀, fun _ => Or.inl rfl⟩ ?_
    rintro s a s' tr es - ⟨hc, ih⟩ hs
    exact ⟨hs.coherent hc, fun hw => paid_step hs hc hw (ih hw.of_append)⟩
  rcases hpaid.2 hw with h | h | ⟨h, -⟩
  · omega
  · omega
  · omega

/-! ### Exact arithmetic -/

section Exact

variable {R : Type} [AddCommGroup R] [LinearOrder R] [IsOrderedAddMonoid R]
  {c : OAuth2ClientCredentials R}

theorem within_unexpired {tr : List (Event R)}
    (h : Always (Within fun at_ ttl now => now - at_ < ttl - c.expirySkew) tr) :
    Always (Within (Unexpired c)) tr := by
  have hexp : ∀ {at_ ttl now : R}, now - at_ < ttl - c.expirySkew → Unexpired c at_ ttl now := by
    intro at_ ttl now hlt
    rw [Unexpired, add_sub_assoc]
    exact sub_lt_iff_lt_add'.mp hlt
  intro pre e post htr
  have he := h pre e post htr
  cases e with
  | minted n token now ttl => exact hexp he
  | ticked now => exact fun n token at_ ttl hm => hexp (he n token at_ ttl hm)
  | _ => trivial

/-- **Minting is single-flight.**  At most one call requests a token at any time; and in any period,
from any state a run reaches, in which the clock goes on by less than a token's time to live less
the skew after each mint, there are no more mints than invalidations, and one. -/
theorem single_flight {now : R} {s₀ s : State R} {tr₀ tr : List (Event R)}
    (h₀ : c.Run now s₀ tr₀) (h : Machine.Run c.Step s₀ s tr) :
    (∀ n n', s.call n = .requesting → s.call n' = .requesting → n = n') ∧
      (Always (Within fun at_ ttl now => now - at_ < ttl - c.expirySkew) tr →
        mints tr ≤ 1 + invalidations tr) := by
  have hc : Coherent s := Machine.Run.invariant (I := fun s _ => Coherent s) h (run_coherent h₀)
    fun _ _ _ _ _ _ h hs => hs.coherent h
  refine ⟨fun n n' hn hn' => ?_, fun hw => mints_le h₀ h (within_unexpired hw)⟩
  have he : some n = some n' := ((hc n).mpr hn).symm.trans ((hc n').mpr hn')
  exact Option.some.inj he

end Exact

/-! ### A mint -/

/-- `{"access_token": "t", "expires_in": 300}`. -/
def tokenDoc : Proto.Json := .obj [("access_token", .str "t"), ("expires_in", .int 300)]

def tokenText : Bytes :=
  ascii "\x7b\"access_token\": \"t\", \"expires_in\": 300\x7d"

/-- A token endpoint that answers so, read in whole seconds. -/
def provider : OAuth2ClientCredentials Int where
  lib := {
    json := .only tokenText tokenDoc
    float := fun j => match j with
      | .int n => .ok n
      | _ => .error (.valueError "could not convert string to float") }
  expirySkew := 30
  defaultTtl := 300

def tokenReply : Reply := .response { status := 200, header := fun _ => none, body := tokenText }

/-- The first call has asked for a token, and the endpoint has answered. -/
def mintedOne : State Int :=
  (provider.respond (provider.recheck (provider.headers (init 100) 0).1 0).1 0 tokenReply).1

theorem mintedOne_run : Machine.Run provider.Step (init 100) mintedOne
    [.requested 0, .minted 0 "t" 100 300, .returned 0 "Bearer t" 100] := by
  have h₀ : provider.Run 100 (init 100) [] := .start
  have h₁ := h₀.next (.headers (n := 0) rfl)
  have h₂ := h₁.next (.acquire (n := 0) rfl rfl)
  exact h₂.next (@Step.respond _ _ _ _ _ _ _ _ 0 tokenReply rfl)

/-- Two calls share the token that one of them asks for; it is invalidated, and a third call asks
for another one. -/
def mintedTwice : State Int :=
  let s := (provider.headers (provider.recheck (provider.headers (init 100) 0).1 0).1 1).1
  let s := (provider.recheck (provider.respond s 0 tokenReply).1 1).1
  let s := { s with now := 200, token := none }
  (provider.respond (provider.recheck (provider.headers s 2).1 2).1 2 tokenReply).1

/-- What has happened until then. -/
def mintedTwiceTrace : List (Event Int) :=
  [.requested 0, .minted 0 "t" 100 300, .returned 0 "Bearer t" 100, .returned 1 "Bearer t" 100,
    .ticked 200, .invalidated, .requested 2, .minted 2 "t" 200 300, .returned 2 "Bearer t" 200]

theorem mintedTwice_run : provider.Run 100 mintedTwice mintedTwiceTrace := by
  have h₀ : provider.Run 100 (init 100) [] := .start
  have h₁ := h₀.next (.headers (n := 0) rfl)
  have h₂ := h₁.next (.acquire (n := 0) rfl rfl)
  have h₃ := h₂.next (.headers (n := 1) rfl)
  have h₄ := h₃.next (@Step.respond _ _ _ _ _ _ _ _ 0 tokenReply rfl)
  have h₅ := h₄.next (.acquire (n := 1) rfl rfl)
  have h₆ := h₅.next (@Step.tick _ _ _ _ _ _ _ _ 200 (by decide))
  have h₇ := (h₆.next .invalidate).next (.headers (n := 2) rfl)
  have h₈ := h₇.next (.acquire (n := 2) rfl rfl)
  exact h₈.next (@Step.respond _ _ _ _ _ _ _ _ 2 tokenReply rfl)

/-- No token of that run is kept beyond its time. -/
theorem mintedTwice_within :
    Always (Within fun at_ ttl now => now - at_ < ttl - provider.expirySkew) mintedTwiceTrace := by
  have hone : Always (Within fun at_ ttl now => now - at_ < ttl - provider.expirySkew)
      [Event.requested 0, .minted 0 "t" 100 300] :=
    (always_nil.snoc trivial).snoc (show (100 : Int) - 100 < 300 - 30 by decide)
  have hshared := (hone.snoc (x := Event.returned 0 "Bearer t" 100) trivial).snoc
    (x := Event.returned 1 "Bearer t" 100) trivial
  have htick := hshared.snoc (x := Event.ticked 200) fun n token at_ ttl hm => by
    obtain ⟨rfl, rfl, rfl, rfl⟩ : n = 0 ∧ token = "t" ∧ at_ = 100 ∧ ttl = 300 := by simpa using hm
    decide
  have hagain := (htick.snoc (x := Event.invalidated) trivial).snoc
    (x := Event.requested 2) trivial
  have htwo := hagain.snoc (x := Event.minted 2 "t" 200 300)
    (show (200 : Int) - 200 < 300 - 30 by decide)
  exact htwo.snoc trivial

theorem single_flight_mintedTwice :
    (∀ n n', mintedTwice.call n = .requesting → mintedTwice.call n' = .requesting → n = n') ∧
      mints mintedTwiceTrace ≤ 1 + invalidations mintedTwiceTrace := by
  have h := single_flight (c := provider) .start mintedTwice_run
  exact ⟨h.1, h.2 mintedTwice_within⟩

/-! ### What `headers` returns -/

/-- The token stands for the last mint of the history, and no invalidation has come since. -/
def Stands (token : String) (expiresAt : T) (tr : List (Event T)) : Prop :=
  ∃ before n now ttl after, tr = before ++ .minted n token now ttl :: after ∧
    expiresAt = now + ttl ∧ ∀ e ∈ after, e.IsMint = false ∧ e.IsInvalidation = false

/-- What `headers` may return: the token of a mint that no invalidation has followed, in time before
it expires or by the call that minted it. -/
def Fresh (c : OAuth2ClientCredentials T) (pre : List (Event T)) : Event T → Prop
  | .returned n header now => ∃ before n' token at_ ttl after,
      pre = before ++ .minted n' token at_ ttl :: after ∧ header = "Bearer " ++ token ∧
      (∀ e ∈ after, e.IsInvalidation = false) ∧
      (now < at_ + ttl - c.expirySkew ∨ n' = n ∧ after = [])
  | _ => True

/-- The token the provider keeps stands, and every return so far was fresh. -/
structure Honest (c : OAuth2ClientCredentials T) (s : State T) (tr : List (Event T)) : Prop where
  stands : ∀ token, s.token = some token → Stands token s.expiresAt tr
  returns : Always (Fresh c) tr

omit [Zero T] [Sub T] [LT T] [DecidableLT T] in
theorem Stands.append {token : String} {expiresAt : T} {tr es : List (Event T)}
    (h : Stands token expiresAt tr)
    (hes : ∀ e ∈ es, e.IsMint = false ∧ e.IsInvalidation = false) :
    Stands token expiresAt (tr ++ es) := by
  obtain ⟨before, n, now, ttl, after, rfl, he, hafter⟩ := h
  refine ⟨before, n, now, ttl, after ++ es, by rw [List.append_assoc, List.cons_append], he, ?_⟩
  intro e hm
  rcases List.mem_append.mp hm with hm | hm
  · exact hafter e hm
  · exact hes e hm

omit [Zero T] [DecidableLT T] in
/-- Where the token is usable it may be returned. -/
theorem Honest.fresh {s : State T} {tr : List (Event T)} (h : Honest c s tr) (hu : c.Usable s)
    (n : Nat) : Fresh c tr (.returned n (bearer s.token) s.now) := by
  obtain ⟨htok, hlive⟩ := hu
  cases ht : s.token with
  | none => exact absurd ht htok
  | some token =>
      obtain ⟨before, n', now, ttl, after, htr, he, hafter⟩ := h.stands token ht
      rw [he] at hlive
      exact ⟨before, n', token, now, ttl, after, htr, rfl, fun e hm => (hafter e hm).2,
        Or.inl hlive⟩

theorem honest_step {s s' : State T} {a : Action T} {tr es : List (Event T)}
    (hs : c.Step s a s' es) (h : Honest c s tr) : Honest c s' (tr ++ es) := by
  rcases hs.cases with ⟨hst, hes⟩ | ⟨n, -, rfl, rfl⟩ | ⟨n, token, ttl, -, rfl, rfl⟩ |
    ⟨rfl, rfl⟩ | ⟨now, rfl, rfl⟩
  · refine ⟨fun token ht => ?_, ?_⟩
    · rw [hst.token] at ht
      rw [hst.expiresAt]
      refine (h.stands token ht).append fun e he => ?_
      rcases hes with ⟨-, n, rfl⟩ | rfl | ⟨n, e', rfl⟩
      · rw [List.mem_singleton.mp he]
        exact ⟨rfl, rfl⟩
      · cases he
      · rw [List.mem_singleton.mp he]
        exact ⟨rfl, rfl⟩
    · rcases hes with ⟨hu, n, rfl⟩ | rfl | ⟨n, e', rfl⟩
      · exact h.returns.snoc (h.fresh hu n)
      · rw [List.append_nil]
        exact h.returns
      · exact h.returns.snoc trivial
  · refine ⟨fun token ht => (h.stands token ht).append fun e he => ?_, h.returns.snoc trivial⟩
    rw [List.mem_singleton.mp he]
    exact ⟨rfl, rfl⟩
  · refine ⟨fun token' ht => ?_, ?_⟩
    · have heq : token = token' := Option.some.inj ht
      subst heq
      refine ⟨tr, n, s.now, ttl, _, rfl, rfl, fun e he => ?_⟩
      rw [List.mem_singleton.mp he]
      exact ⟨rfl, rfl⟩
    · -- The call that mints returns what it minted.
      have hm : Always (Fresh c) (tr ++ [.minted n token s.now ttl]) := h.returns.snoc trivial
      rw [List.append_cons]
      refine hm.snoc ?_
      exact ⟨tr, n, token, s.now, ttl, [], rfl, rfl, nofun, Or.inr ⟨rfl, rfl⟩⟩
  · exact ⟨nofun, h.returns.snoc trivial⟩
  · refine ⟨fun token ht => (h.stands token ht).append fun e he => ?_, h.returns.snoc trivial⟩
    rw [List.mem_singleton.mp he]
    exact ⟨rfl, rfl⟩

/-- **`headers` returns a fresh token.**  In every run, each header that is returned is the token of a
mint; every invalidation so far came before that mint; and the token has not expired, unless the
call that returns it has just minted it. -/
theorem headers_fresh {now : T} {s : State T} {tr : List (Event T)} (hr : c.Run now s tr) :
    Always (Fresh c) tr :=
  (Machine.Run.invariant (I := Honest c) hr ⟨nofun, always_nil⟩
    fun _ _ _ _ _ _ h hs => honest_step hs h).returns

theorem headers_fresh_mintedOne : Always (Fresh provider)
    [.requested 0, .minted 0 "t" 100 300, .returned 0 "Bearer t" 100] :=
  headers_fresh mintedOne_run

end OtlpClient.OAuth2ClientCredentials
