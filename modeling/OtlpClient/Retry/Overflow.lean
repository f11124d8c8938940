import OtlpClient.Retry
import OtlpClient.Support.Exact

/-!
# Retry — what the loop raises

The loop on doubles, where nothing it calls raises: only `multiplier ** attempt` may.

* `run_fits`: the rounds whose delays fit into the budget are run.
* `returns_iff`: the loop raises nothing exactly where no power overflows.
-/

namespace OtlpClient

/-- What is assumed of `float ** int`: it raises `OverflowError` exactly where the result is beyond
the largest double. -/
structure PowLaw [Seconds Binary64] : Prop where
  ok : ∀ {x : Binary64} {n}, x.IsFinite → 1 ≤ x.toRat → x.toRat ^ n ≤ Binary64.largest →
    ∃ y, Seconds.pow x n = .ok y
  overflow : ∀ {x : Binary64} {n}, x.IsFinite → 1 ≤ x.toRat → Binary64.largest < x.toRat ^ n →
    ∃ message, Seconds.pow x n = .error (.overflowError message)

/-- What the loop is given: the outcome of each attempt, and what the clock and the jitter answer
when so many attempts have been made. -/
structure Inputs (T : Type) where
  outcome : Nat → ExportOutcome T
  clock : Nat → T
  jitter : Nat → T

namespace Inputs

variable {T : Type} (i : Inputs T) (policy : RetryPolicy T)

/-- A call that does not raise, on the number of attempts made. -/
def op : Effect Exn Nat (ExportOutcome T) := fun n => (.ok (i.outcome n), n + 1)

def sleep (_ : T) : Effect Exn Nat Unit := fun n => (.ok (), n)

def monotonic : Effect Exn Nat T := fun n => (.ok (i.clock n), n)

def draw : Effect Exn Nat T := fun n => (.ok (i.jitter n), n)

variable [Seconds T]

def withRetry (rounds : Nat) : Effect Exn Nat (Option (ExportOutcome T)) :=
  OtlpClient.withRetry i.op policy sleep i.monotonic i.draw rounds

def round (attempt : Nat) : Effect Exn Nat (ExportOutcome T ⊕ Nat) :=
  retryRound i.op policy sleep i.monotonic i.draw (i.clock 0) attempt

def elapsed (attempt : Nat) : T := Seconds.sub (i.clock (attempt + 1)) (i.clock 0)

/-- The outcome of the attempt is to be retried, and the budget is not spent. -/
def Asks (attempt : Nat) : Prop :=
  (i.outcome attempt).isRetryable = true ∧
    ¬ Seconds.le policy.maxElapsed (i.elapsed attempt) = true

/-- The delay after the attempt, from what the backoff is capped to. -/
def delay (attempt : Nat) (capped : T) : T :=
  match i.outcome attempt with
  | .retryable _ _ (some seconds) => seconds
  | _ => Seconds.mul (i.jitter (attempt + 1)) capped

/-- The outcome is to be retried, and its delay fits into what remains of the budget. -/
def Fits (attempt : Nat) : Prop :=
  i.Asks policy attempt ∧ ∃ capped, policy.capped attempt = .ok capped ∧
    ¬ Seconds.lt (Seconds.sub policy.maxElapsed (i.elapsed attempt)) (i.delay attempt capped) = true

instance (attempt : Nat) : Decidable (i.Asks policy attempt) := inferInstanceAs (Decidable (_ ∧ _))

instance (attempt : Nat) : Decidable (i.Fits policy attempt) :=
  match h : policy.capped attempt with
  | .ok capped => decidable_of_iff (i.Asks policy attempt ∧
      ¬ Seconds.lt (Seconds.sub policy.maxElapsed (i.elapsed attempt))
        (i.delay attempt capped) = true) (by simp [Fits, h])
  | .error _ => isFalse (by simp [Fits, h])

variable {i policy}

/-! ### One round -/

/-- An outcome that is to be retried while the budget lasts. -/
theorem Asks.cases {n : Nat} (h : i.Asks policy n) :
    ∃ status message retryAfter, i.outcome n = .retryable status message retryAfter ∧
      i.round policy n n =
        backOff policy sleep i.draw (i.outcome n) retryAfter n (i.elapsed n) (n + 1) := by
  obtain ⟨hretry, hbudget⟩ := h
  cases ho : i.outcome n with
  | retryable status message retryAfter =>
      have hop : i.op n = (.ok (.retryable status message retryAfter), n + 1) := by rw [op, ho]
      have hclock : i.monotonic (n + 1) = (.ok (i.clock (n + 1)), n + 1) := rfl
      refine ⟨status, message, retryAfter, rfl, ?_⟩
      unfold round
      rw [retryRound_retryable hop hclock]
      exact if_neg hbudget
  | _ =>
      rw [ho] at hretry
      cases hretry

theorem retryDelay_draw {n : Nat} {status : Option Int} {message : String} {retryAfter : Option T}
    (ho : i.outcome n = .retryable status message retryAfter) (capped : T) :
    retryDelay i.draw retryAfter capped (n + 1) = (.ok (i.delay n capped), n + 1) := by
  rw [delay, ho]
  cases retryAfter with
  | some seconds => rfl
  | none => rfl

theorem round_raises {n : Nat} {e : PyError} (h : i.Asks policy n)
    (he : policy.capped n = .error e) :
    i.round policy n n = (.error (.builtin e), n + 1) := by
  obtain ⟨status, message, retryAfter, -, hround⟩ := h.cases
  rw [hround, backOff_error he]

theorem round_fits {n : Nat} (h : i.Fits policy n) :
    i.round policy n n = (.ok (.inr (n + 1)), n + 1) := by
  obtain ⟨hasks, capped, hcapped, hfits⟩ := h
  obtain ⟨status, message, retryAfter, ho, hround⟩ := hasks.cases
  rw [hround, backOff_apply hcapped (retryDelay_draw ho capped) rfl, if_neg hfits]

/-- The outcome is returned where it is final, or the budget is spent, or the delay does not fit. -/
theorem round_returns {n : Nat} (h : ¬ i.Fits policy n)
    (hcapped : i.Asks policy n → ∃ capped, policy.capped n = .ok capped) :
    i.round policy n n = (.ok (.inl (i.outcome n)), n + 1) := by
  by_cases hasks : i.Asks policy n
  · obtain ⟨capped, hc⟩ := hcapped hasks
    obtain ⟨status, message, retryAfter, ho, hround⟩ := hasks.cases
    have hlt : Seconds.lt (Seconds.sub policy.maxElapsed (i.elapsed n)) (i.delay n capped) =
        true := by
      by_contra hlt
      exact h ⟨hasks, capped, hc, hlt⟩
    rw [hround, backOff_apply hc (retryDelay_draw ho capped) rfl, if_pos hlt]
  · have hop : i.op n = (.ok (i.outcome n), n + 1) := rfl
    unfold round
    cases ho : i.outcome n with
    | retryable status message retryAfter =>
        have hspent : Seconds.le policy.maxElapsed (i.elapsed n) = true := by
          by_contra hspent
          exact hasks ⟨by rw [ho]; rfl, hspent⟩
        have hclock : i.monotonic (n + 1) = (.ok (i.clock (n + 1)), n + 1) := rfl
        rw [ho] at hop
        rw [retryRound_retryable hop hclock]
        exact if_pos hspent
    | _ => rw [retryRound_final hop (by rw [ho]; rfl), ho]

/-! ### The run -/

theorem withRetry_eq (rounds : Nat) :
    i.withRetry policy rounds 0 = Effect.iterate (i.round policy) rounds 0 0 := by
  change (i.monotonic >>= _) 0 = _
  rw [Effect.bind_apply]
  rfl

/-- The rounds whose delays fit into the budget are run, and the loop goes on from there. -/
theorem run_fits {n : Nat} (h : ∀ k < n, i.Fits policy k) (rounds : Nat) :
    i.withRetry policy (n + rounds) 0 = Effect.iterate (i.round policy) rounds n n := by
  induction n generalizing rounds with
  | zero => rw [Nat.zero_add, withRetry_eq]
  | succ n ih =>
      have hstep := ih (fun k hk => h k (Nat.lt_succ_of_lt hk)) (rounds + 1)
      rw [show n + 1 + rounds = n + (rounds + 1) by omega, hstep, Effect.iterate,
        Effect.bind_apply, round_fits (h n (Nat.lt_succ_self n))]

theorem exists_least {p : Nat → Prop} (h : ∃ k, p k) : ∃ n, p n ∧ ∀ k < n, ¬ p k := by
  classical
  exact ⟨Nat.find h, Nat.find_spec h, fun k hk => Nat.find_min h hk⟩

/-- The loop raises nothing, and returns an outcome whatever the number of delays that fit. -/
structure Returns (i : Inputs T) (policy : RetryPolicy T) : Prop where
  ok : ∀ rounds, ∃ result n, i.withRetry policy rounds 0 = (.ok result, n)
  outcome : ∀ n, (∀ k < n, i.Fits policy k) → ¬ i.Fits policy n →
    i.withRetry policy (n + 1) 0 = (.ok (some (i.outcome n)), n + 1)

/-- Where a round raises, the loop does. -/
theorem Returns.capped (h : i.Returns policy) {n : Nat} (hfits : ∀ k < n, i.Fits policy k)
    (hasks : i.Asks policy n) : ∃ capped, policy.capped n = .ok capped := by
  cases hc : policy.capped n with
  | ok capped => exact ⟨capped, rfl⟩
  | error e =>
      obtain ⟨result, m, hrun⟩ := h.ok (n + 1)
      rw [run_fits hfits 1, Effect.iterate, Effect.bind_apply, round_raises hasks hc] at hrun
      cases hrun

theorem returns_of_capped (h : ∀ n, (∀ k < n, i.Fits policy k) → i.Asks policy n →
    ∃ capped, policy.capped n = .ok capped) : i.Returns policy := by
  have houtcome : ∀ n, (∀ k < n, i.Fits policy k) → ¬ i.Fits policy n → ∀ rounds,
      i.withRetry policy (n + (rounds + 1)) 0 = (.ok (some (i.outcome n)), n + 1) := by
    intro n hfits hn rounds
    rw [run_fits hfits, Effect.iterate, Effect.bind_apply, round_returns hn (h n hfits)]
    rfl
  refine ⟨fun rounds => ?_, fun n hfits hn => houtcome n hfits hn 0⟩
  by_cases hall : ∀ k < rounds, i.Fits policy k
  · exact ⟨none, rounds, by rw [← Nat.add_zero rounds, run_fits hall]; rfl⟩
  · -- The first whose delay does not fit is returned.
    have hex : ∃ k, k < rounds ∧ ¬ i.Fits policy k := by
      simpa only [not_forall, exists_prop] using hall
    obtain ⟨n, ⟨hn, hnot⟩, hmin⟩ := exists_least hex
    have hfits : ∀ k < n, i.Fits policy k := fun k hk =>
      not_not.mp fun hnk => hmin k hk ⟨hk.trans hn, hnk⟩
    refine ⟨some (i.outcome n), n + 1, ?_⟩
    rw [← houtcome n hfits hnot (rounds - (n + 1))]
    congr 1
    omega

theorem capped_error {n : Nat} {e : PyError} (h : Seconds.pow policy.multiplier n = .error e) :
    policy.capped n = .error e := by
  rw [RetryPolicy.capped, h]
  rfl

theorem capped_ok {n : Nat} : (∃ capped, policy.capped n = .ok capped) ↔
    ∃ y, Seconds.pow policy.multiplier n = .ok y := by
  rw [RetryPolicy.capped]
  cases Seconds.pow policy.multiplier n with
  | ok y => exact ⟨fun _ => ⟨y, rfl⟩, fun _ => ⟨_, rfl⟩⟩
  | error e =>
      constructor
      · rintro ⟨_, h⟩
        cases h
      · rintro ⟨_, h⟩
        cases h

/-! ### Doubles -/

section Doubles

variable [Seconds Binary64] {i : Inputs Binary64} {policy : RetryPolicy Binary64}

theorem Returns.le_largest (hlaw : PowLaw) (hfin : policy.multiplier.IsFinite)
    (hone : 1 ≤ policy.multiplier.toRat) (h : i.Returns policy) {n : Nat}
    (hfits : ∀ k < n, i.Fits policy k) (hasks : i.Asks policy n) :
    policy.multiplier.toRat ^ n ≤ Binary64.largest := by
  by_contra hlt
  obtain ⟨y, hy⟩ := capped_ok.mp (h.capped hfits hasks)
  obtain ⟨m, hm⟩ := hlaw.overflow hfin hone (not_le.mp hlt)
  rw [hy] at hm
  cases hm

/-- **What the loop raises.**  For every sequence of outcomes, clock readings and draws, the loop
raises nothing and returns an outcome whatever the number of delays that fit into the budget, exactly
where no power of the multiplier it reaches is beyond the largest double. -/
theorem returns_iff (hlaw : PowLaw) (hfin : policy.multiplier.IsFinite)
    (hone : 1 ≤ policy.multiplier.toRat) :
    i.Returns policy ↔ ∀ n, (∀ k < n, i.Fits policy k) → i.Asks policy n →
      policy.multiplier.toRat ^ n ≤ Binary64.largest :=
  ⟨fun h _ hfits hasks => h.le_largest hlaw hfin hone hfits hasks,
    fun h => returns_of_capped fun n hfits hasks =>
      capped_ok.mpr (hlaw.ok hfin hone (h n hfits hasks))⟩

end Doubles

end Inputs

/-! ### A collector that asks for no delay -/

/-- Correctly rounded arithmetic on finite doubles. -/
@[reducible] def Seconds.rounded : Seconds Binary64 where
  sub x y := .ofRat (x.toRat - y.toRat)
  mul x y := .ofRat (x.toRat * y.toRat)
  pow x n :=
    if Binary64.largest < x.toRat ^ n then
      .error (.overflowError "(34, 'Numerical result out of range')")
    else .ok (.ofRat (x.toRat ^ n))
  min x y := if y.lt x then y else x
  le := Binary64.le
  lt := Binary64.lt

theorem Seconds.rounded_law : @PowLaw .rounded :=
  @PowLaw.mk .rounded (fun _ _ h => ⟨_, if_neg (not_lt.mpr h)⟩) fun _ _ h => ⟨_, if_pos h⟩

/-- The defaults of `RetryPolicy`. -/
def doublePolicy : RetryPolicy Binary64 where
  initialBackoff := .one
  maxBackoff := ⟨0x403e000000000000⟩
  multiplier := ⟨0x3ff8000000000000⟩
  maxElapsed := ⟨0x4056800000000000⟩

/-- Every attempt is answered at once by a status 429 with `Retry-After: 0`. -/
def throttled : Inputs Binary64 where
  outcome _ := .retryable (some 429) "" (some .posZero)
  clock _ := .posZero
  jitter _ := .posZero

theorem doublePolicy_multiplier : doublePolicy.multiplier.toRat = 3 / 2 := by
  decide +kernel

theorem throttled_asks (n : Nat) : @Inputs.Asks _ throttled doublePolicy .rounded n :=
  ⟨rfl, show ¬ Binary64.le doublePolicy.maxElapsed (.ofRat (Binary64.posZero.toRat -
    Binary64.posZero.toRat)) = true by decide +kernel⟩

/-- A delay of zero fits. -/
theorem throttled_fits {n : Nat} (h : doublePolicy.multiplier.toRat ^ n ≤ Binary64.largest) :
    @Inputs.Fits _ throttled doublePolicy .rounded n := by
  obtain ⟨capped, hc⟩ := (@Inputs.capped_ok _ doublePolicy .rounded n).mpr ⟨_, if_neg (not_lt.mpr h)⟩
  refine ⟨throttled_asks n, capped, hc, ?_⟩
  show ¬ Binary64.lt (.ofRat (doublePolicy.maxElapsed.toRat - (Binary64.ofRat
    (Binary64.posZero.toRat - Binary64.posZero.toRat)).toRat)) .posZero = true
  decide +kernel

theorem doublePolicy_pow {n : Nat} : doublePolicy.multiplier.toRat ^ n ≤ Binary64.largest ↔
    3 ^ n ≤ (2 ^ 1024 - 2 ^ 971) * 2 ^ n := by
  have hpow : ∀ L : Nat, (3 / 2 : ℚ) ^ n ≤ L ↔ 3 ^ n ≤ L * 2 ^ n := by
    intro L
    rw [div_pow, div_le_iff₀ (by positivity)]
    exact_mod_cast Iff.rfl
  rw [doublePolicy_multiplier]
  exact hpow _

theorem throttled_fits_all {n : Nat} (h : n < 1751) :
    @Inputs.Fits _ throttled doublePolicy .rounded n := by
  refine throttled_fits ((pow_le_pow_right₀ ?_ (Nat.le_of_lt_succ h)).trans
    (doublePolicy_pow.mpr (by decide +kernel)))
  rw [doublePolicy_multiplier]
  norm_num

/-- The loop raises after its attempt 1752. -/
theorem throttled_raises :
    (∃ message, @Inputs.withRetry _ throttled doublePolicy .rounded 1752 0 =
        (.error (.builtin (.overflowError message)), 1752)) ∧
      ¬ @Inputs.Returns _ .rounded throttled doublePolicy := by
  have hpow : ¬ doublePolicy.multiplier.toRat ^ 1751 ≤ Binary64.largest := fun h =>
    absurd (doublePolicy_pow.mp h) (by decide +kernel)
  obtain ⟨message, hraise⟩ : ∃ message, @RetryPolicy.capped _ .rounded doublePolicy 1751 =
      .error (.overflowError message) := by
    have hone : 1 ≤ doublePolicy.multiplier.toRat := by
      rw [doublePolicy_multiplier]
      norm_num
    obtain ⟨message, hm⟩ :=
      @PowLaw.overflow .rounded Seconds.rounded_law _ 1751 (by decide) hone (not_le.mp hpow)
    exact ⟨message, @Inputs.capped_error _ doublePolicy .rounded _ _ hm⟩
  have hrun : @Inputs.withRetry _ throttled doublePolicy .rounded 1752 0 =
      (.error (.builtin (.overflowError message)), 1752) := by
    rw [@Inputs.run_fits _ throttled doublePolicy .rounded 1751 (fun k hk => throttled_fits_all hk) 1,
      Effect.iterate, Effect.bind_apply,
      @Inputs.round_raises _ throttled doublePolicy .rounded _ _ (throttled_asks 1751) hraise]
  refine ⟨⟨message, hrun⟩, fun h => ?_⟩
  obtain ⟨result, n, hok⟩ := @Inputs.Returns.ok _ .rounded _ _ h 1752
  rw [hrun] at hok
  cases hok

/-- Three attempts are put off, the second of them for two seconds by the collector, and the next
one succeeds.  Each takes a second. -/
def recovering : Inputs Binary64 where
  outcome n :=
    if n = 1 then .retryable (some 429) "" (some (.ofRat 2))
    else if n < 3 then .retryable (some 503) "" none
    else .success
  clock n := .ofRat n
  jitter _ := .one

theorem recovering_fits : ∀ k < 3, @Inputs.Fits _ recovering doublePolicy .rounded k := by
  decide +kernel

theorem recovering_asks {n : Nat} (h : @Inputs.Asks _ recovering doublePolicy .rounded n) :
    n < 3 := by
  by_contra hn
  have hsuccess : recovering.outcome n = .success :=
    (if_neg (by omega)).trans (if_neg hn)
  have hretry := h.1
  rw [hsuccess] at hretry
  cases hretry

theorem recovering_returns : @Inputs.Returns _ .rounded recovering doublePolicy ∧
    @Inputs.withRetry _ recovering doublePolicy .rounded 4 0 = (.ok (some .success), 4) := by
  have hone : 1 ≤ doublePolicy.multiplier.toRat := by
    rw [doublePolicy_multiplier]
    norm_num
  have hreturns : @Inputs.Returns _ .rounded recovering doublePolicy := by
    refine (@Inputs.returns_iff .rounded recovering doublePolicy Seconds.rounded_law (by decide)
      hone).mpr fun n _ hasks => ?_
    refine (pow_le_pow_right₀ hone (recovering_asks hasks).le).trans ?_
    exact doublePolicy_pow.mpr (by decide +kernel)
  refine ⟨hreturns, @Inputs.Returns.outcome _ .rounded _ _ hreturns 3 recovering_fits ?_⟩
  exact fun h => absurd (recovering_asks h.1) (by decide)

end OtlpClient
