import OtlpClient.Errors
import OtlpClient.Outcomes
import OtlpClient.Support.Binary64
import OtlpClient.Support.Effects
import OtlpClient.Support.Numerals

/-!
# Retry — the retry loop and the `Retry-After` header

`retry.py`.  The loop is over any type of seconds: the operations it makes on them are `Seconds`,
of which only `**` raises.

* `parseRetryAfter_ok`: the header is read as no number or as one at least zero, and never raises.
* `withRetry_spec`: the loop keeps what an attempt, a reading of the clock, a draw of the jitter and
  a sleep keep.
-/

namespace OtlpClient

/-- `RETRYABLE_STATUSES`. -/
def retryableStatuses : List Int := [429, 502, 503, 504]

/-- `RetryPolicy`. -/
structure RetryPolicy (T : Type) where
  initialBackoff : T
  maxBackoff : T
  multiplier : T
  maxElapsed : T

/-- The arithmetic and the comparisons of the loop. -/
class Seconds (T : Type) where
  sub : T → T → T
  mul : T → T → T
  /-- `x ** n` at an int `n`. -/
  pow : T → Nat → Except PyError T
  min : T → T → T
  /-- `x <= y`. -/
  le : T → T → Bool
  /-- `x < y`. -/
  lt : T → T → Bool

/-! ### `Retry-After` -/

/-- `float()` at a str, and the dates of `email.utils` and `datetime`. -/
structure DateLib where
  float : String → Except PyError Binary64
  DateTime : Type
  parsedateToDatetime : String → Except PyError DateTime
  timestamp : DateTime → Binary64
  sub : Binary64 → Binary64 → Binary64

/-- `float()` raises `ValueError` only, and a date `TypeError` or `ValueError`. -/
structure DateLib.Lawful (lib : DateLib) : Prop where
  float_error : ∀ {text e}, lib.float text = .error e → ∃ message, e = .valueError message
  date_error : ∀ {text e}, lib.parsedateToDatetime text = .error e →
    (∃ message, e = .typeError message) ∨ ∃ message, e = .valueError message

/-- `parse_retry_after`. -/
def parseRetryAfter (lib : DateLib) (value : String) (nowWall : Binary64) :
    Except PyError (Option Binary64) :=
  let text := strip value
  if text.isEmpty then .ok none
  else
    match lib.float text with
    | .ok x => .ok (some (Binary64.max .posZero x))
    | .error (.valueError _) =>
        -- No number, so an HTTP date.
        match lib.parsedateToDatetime text with
        | .error (.typeError _) | .error (.valueError _) => .ok none
        | .error e => .error e
        | .ok when_ => .ok (some (Binary64.max .posZero (lib.sub (lib.timestamp when_) nowWall)))
    | .error e => .error e

/-- Never negative, never a NaN, and never raised. -/
theorem parseRetryAfter_ok {lib : DateLib} (hl : lib.Lawful) (value : String)
    (nowWall : Binary64) : ∃ seconds, parseRetryAfter lib value nowWall = .ok seconds ∧
      ∀ x ∈ seconds, x.isNaN = false ∧ x.lt .posZero = false := by
  have hmax : ∀ x, ∀ y ∈ some (Binary64.max .posZero x), y.isNaN = false ∧
      y.lt .posZero = false := by
    rintro x y ⟨⟩
    exact Binary64.max_zero x
  unfold parseRetryAfter
  dsimp only
  split
  · exact ⟨none, rfl, nofun⟩
  · split
    · exact ⟨_, rfl, hmax _⟩
    · split
      · exact ⟨none, rfl, nofun⟩
      · exact ⟨none, rfl, nofun⟩
      · rename_i e htype hvalue he
        rcases hl.date_error he with ⟨m, rfl⟩ | ⟨m, rfl⟩
        · exact absurd rfl (htype m)
        · exact absurd rfl (hvalue m)
      · exact ⟨_, rfl, hmax _⟩
    · rename_i e hvalue he
      obtain ⟨m, rfl⟩ := hl.float_error he
      exact absurd rfl (hvalue m)

/-! ### The loop -/

section Loop

variable {T σ : Type} [Seconds T]

/-- `min(max_backoff, initial_backoff * multiplier**attempt)`. -/
def RetryPolicy.capped (policy : RetryPolicy T) (attempt : Nat) : Except PyError T := do
  return Seconds.min policy.maxBackoff
    (Seconds.mul policy.initialBackoff (← Seconds.pow policy.multiplier attempt))

/-- A computation that raises a built-in exception or does nothing to the state. -/
def raising {α : Type} : Except PyError α → Effect Exn σ α
  | .ok a => pure a
  | .error e => throw (.builtin e)

variable (op : Effect Exn σ (ExportOutcome T)) (policy : RetryPolicy T)
  (sleep : T → Effect Exn σ Unit) (monotonic jitter : Effect Exn σ T)

/-- `outcome.retry_after`, or `jitter() * capped`. -/
def retryDelay (retryAfter : Option T) (capped : T) : Effect Exn σ T :=
  match retryAfter with
  | some seconds => pure seconds
  | none => do return Seconds.mul (← jitter) capped

/-- Sleep and go on with the next attempt, or return the outcome where the delay would outlast what
remains of the budget. -/
def backOff (outcome : ExportOutcome T) (retryAfter : Option T) (attempt : Nat) (elapsed : T) :
    Effect Exn σ (ExportOutcome T ⊕ Nat) := do
  let capped ← raising (policy.capped attempt)
  let delay ← retryDelay jitter retryAfter capped
  let remaining := Seconds.sub policy.maxElapsed elapsed
  -- A sleep that would outlast the budget is not begun.
  if Seconds.lt remaining delay then pure (.inl outcome)
  else do
    sleep delay
    pure (.inr (attempt + 1))

/-- One round of the loop: the outcome to return, or the number of the next attempt. -/
def retryRound (started : T) (attempt : Nat) : Effect Exn σ (ExportOutcome T ⊕ Nat) := do
  match ← op with
  | .retryable status message retryAfter => do
      let elapsed := Seconds.sub (← monotonic) started
      let outcome := .retryable status message retryAfter
      if Seconds.le policy.maxElapsed elapsed then pure (.inl outcome)
      else backOff policy sleep jitter outcome retryAfter attempt elapsed
  | outcome => pure (.inl outcome)

/-- `with_retry`, for at most so many attempts. -/
def withRetry (rounds : Nat) : Effect Exn σ (Option (ExportOutcome T)) := do
  let started ← monotonic
  Effect.iterate (retryRound op policy sleep monotonic jitter started) rounds 0

/-! ### What a round does -/

variable {op policy sleep monotonic jitter}

/-- An outcome that is not to be retried is returned. -/
theorem retryRound_final {s s₁ : σ} {outcome : ExportOutcome T} (hop : op s = (.ok outcome, s₁))
    (ho : outcome.isRetryable = false) (started : T) (attempt : Nat) :
    retryRound op policy sleep monotonic jitter started attempt s = (.ok (.inl outcome), s₁) := by
  unfold retryRound
  rw [Effect.bind_apply, hop]
  cases outcome with
  | retryable status message retryAfter => cases ho
  | _ => rfl

theorem retryRound_retryable {s s₁ s₂ : σ} {status : Option Int} {message : String}
    {retryAfter : Option T} {now : T}
    (hop : op s = (.ok (.retryable status message retryAfter), s₁))
    (hclock : monotonic s₁ = (.ok now, s₂)) (started : T) (attempt : Nat) :
    retryRound op policy sleep monotonic jitter started attempt s =
      if Seconds.le policy.maxElapsed (Seconds.sub now started) = true then
        (.ok (.inl (.retryable status message retryAfter)), s₂)
      else backOff policy sleep jitter (.retryable status message retryAfter) retryAfter attempt
        (Seconds.sub now started) s₂ := by
  unfold retryRound
  rw [Effect.bind_apply, hop]
  dsimp only
  rw [Effect.bind_apply, hclock]
  dsimp only
  split <;> rfl

/-- What `**` raises escapes. -/
theorem backOff_error {s : σ} {outcome : ExportOutcome T} {retryAfter : Option T} {attempt : Nat}
    {elapsed : T} {e : PyError} (he : policy.capped attempt = .error e) :
    backOff policy sleep jitter outcome retryAfter attempt elapsed s =
      (.error (.builtin e), s) := by
  unfold backOff
  rw [he]
  rfl

theorem backOff_apply {s s₁ s₂ : σ} {outcome : ExportOutcome T} {retryAfter : Option T}
    {attempt : Nat} {elapsed capped delay : T} (hcapped : policy.capped attempt = .ok capped)
    (hdelay : retryDelay jitter retryAfter capped s = (.ok delay, s₁))
    (hsleep : sleep delay s₁ = (.ok (), s₂)) :
    backOff policy sleep jitter outcome retryAfter attempt elapsed s =
      if Seconds.lt (Seconds.sub policy.maxElapsed elapsed) delay = true then
        (.ok (.inl outcome), s₁)
      else (.ok (.inr (attempt + 1)), s₂) := by
  unfold backOff
  rw [hcapped]
  change (retryDelay jitter retryAfter capped >>= _) s = _
  rw [Effect.bind_apply, hdelay]
  dsimp only
  split
  · rfl
  · rw [Effect.bind_apply, hsleep]
    rfl

/-! ### What the loop keeps -/

variable {I : σ → Prop} {Q : ExportOutcome T → σ → Prop}
  {E : Exn → σ → Prop}

theorem backOff_spec {P : σ → Prop} {elapsed : T}
    (hsleep : ∀ d, ¬ Seconds.lt (Seconds.sub policy.maxElapsed elapsed) d = true →
      Effect.Spec P (sleep d) (fun _ => I) E)
    (hjitter : Effect.Spec P jitter (fun _ => P) E) (hraise : ∀ e s, P s → E (.builtin e) s)
    {outcome : ExportOutcome T} (hreturn : ∀ s, P s → Q outcome s) (retryAfter : Option T)
    (attempt : Nat) :
    Effect.Spec P (backOff policy sleep jitter outcome retryAfter attempt elapsed)
      (Sum.elim Q fun _ => I) E := by
  have hcapped : Effect.Spec P (raising (policy.capped attempt)) (fun _ => P) E := by
    cases policy.capped attempt with
    | ok x => exact .pure fun s hs => hs
    | error e => exact .throw (hraise e)
  have hdelay : ∀ capped, Effect.Spec P (retryDelay jitter retryAfter capped) (fun _ => P) E := by
    intro capped
    cases retryAfter with
    | some seconds => exact .pure fun s hs => hs
    | none => exact .bind hjitter fun x => .pure fun s hs => hs
  refine .bind hcapped fun capped => .bind (hdelay capped) fun delay => ?_
  by_cases hlt : Seconds.lt (Seconds.sub policy.maxElapsed elapsed) delay = true
  · rw [if_pos hlt]
    exact .pure hreturn
  · rw [if_neg hlt]
    exact .bind (hsleep delay hlt) fun _ => .pure fun s hs => hs

/-- One round, by what its attempt, the clock and the backoff keep. -/
theorem retryRound_rule {P R : σ → Prop} {C : T → σ → Prop} {started : T} {attempt : Nat}
    (hop : Effect.Spec P op (fun o s => if o.isRetryable = true then I s else Q o s) E)
    (hclock : Effect.Spec I monotonic C E)
    (hspent : ∀ o now s, o.isRetryable = true → C now s → Q o s)
    (hback : ∀ o retryAfter now, o.isRetryable = true →
      Effect.Spec (C now)
        (backOff policy sleep jitter o retryAfter attempt (Seconds.sub now started))
        (Sum.elim Q fun _ => R) E) :
    Effect.Spec P (retryRound op policy sleep monotonic jitter started attempt)
      (Sum.elim Q fun _ => R) E := by
  refine .bind hop fun o => ?_
  cases o with
  | retryable status message retryAfter =>
      refine .bind hclock fun now => ?_
      by_cases hle : Seconds.le policy.maxElapsed (Seconds.sub now started) = true
      · dsimp only
        rw [if_pos hle]
        exact .pure fun s hs => hspent _ now s rfl hs
      · dsimp only
        rw [if_neg hle]
        exact hback _ _ now rfl
  | success => exact .pure fun s hs => hs
  | partialSuccess p => exact .pure fun s hs => hs
  | permanent status message => exact .pure fun s hs => hs

/-- The loop keeps what an attempt that is to be retried, the clock, the jitter and a sleep keep,
and returns the outcome of its last attempt. -/
theorem withRetry_spec
    (hop : Effect.Spec I op (fun o s => if o.isRetryable = true then I s else Q o s) E)
    (hsleep : ∀ d, Effect.Spec I (sleep d) (fun _ => I) E)
    (hclock : Effect.Spec I monotonic (fun _ => I) E)
    (hjitter : Effect.Spec I jitter (fun _ => I) E) (hraise : ∀ e s, I s → E (.builtin e) s)
    (hreturn : ∀ o s, o.isRetryable = true → I s → Q o s) (rounds : Nat) :
    Effect.Spec I (withRetry op policy sleep monotonic jitter rounds)
      (fun result s => match result with
        | some o => Q o s
        | none => I s) E := by
  refine .bind hclock fun started => .iterate (I := fun _ => I) (fun attempt => ?_)
    (fun _ _ hs => hs) rounds 0
  exact retryRound_rule hop hclock (fun o _ s => hreturn o s) fun o _ _ ho =>
    backOff_spec (fun d _ => hsleep d) hjitter hraise (fun s => hreturn o s ho) _ _

end Loop

end OtlpClient
