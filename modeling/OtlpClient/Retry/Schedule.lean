import Mathlib.Algebra.BigOperators.Group.List.Basic
import Mathlib.Algebra.Order.Field.Basic
import Mathlib.Data.Rat.Floor
import Mathlib.Tactic.Linarith
import OtlpClient.Retry

/-!
# Retry — the schedule of the attempts

The loop in exact arithmetic, on a clock that an attempt and a sleep take on, with the attempts and
the sleeps kept in order.

* `round_cases`: what one round does.
* `retry_schedule`: when the attempts start, how long the sleeps are, and what the loop returns.
* `retry_terminates`: how many attempts there are where each takes its time.
-/

namespace OtlpClient

/-- One attempt: when it started and stopped, and its outcome. -/
structure Attempt (K : Type) where
  start : K
  stop : K
  outcome : ExportOutcome K

/-- The clock, with the attempts and the sleeps so far. -/
structure Timeline (K : Type) where
  now : K
  attempts : List (Attempt K) := []
  sleeps : List K := []

/-- What the loop meets, given what happened before. -/
structure Situation (K : Type) where
  outcome : Timeline K → ExportOutcome K
  /-- How far the clock goes on during an attempt. -/
  duration : Timeline K → K
  /-- How far it goes on during a sleep. -/
  pause : Timeline K → K → K
  jitter : Timeline K → K

theorem getElem?_of_isPrefix {α : Type} {l l' : List α} (h : l <+: l') {i : Nat} {a : α}
    (ha : l[i]? = some a) : l'[i]? = some a := by
  obtain ⟨rest, rfl⟩ := h
  rw [List.getElem?_append_left (List.getElem?_eq_some_iff.mp ha).1, ha]

variable {K : Type} [Field K] [LinearOrder K]

/-- Exact arithmetic: `**` never raises. -/
instance Seconds.exact : Seconds K where
  sub x y := x - y
  mul x y := x * y
  pow x n := .ok (x ^ n)
  min x y := Min.min x y
  le x y := decide (x ≤ y)
  lt x y := decide (x < y)

theorem Seconds.exact_le {x y : K} : Seconds.le x y = true ↔ x ≤ y := decide_eq_true_iff

theorem Seconds.exact_lt {x y : K} : Seconds.lt x y = true ↔ x < y := decide_eq_true_iff

theorem Seconds.exact_sub (x y : K) : Seconds.sub x y = x - y := rfl

namespace Timeline

def attempted (s : Timeline K) (outcome : ExportOutcome K) (duration : K) : Timeline K where
  now := s.now + duration
  attempts := s.attempts ++ [⟨s.now, s.now + duration, outcome⟩]
  sleeps := s.sleeps

def slept (s : Timeline K) (delay pause : K) : Timeline K where
  now := s.now + pause
  attempts := s.attempts
  sleeps := s.sleeps ++ [delay]

end Timeline

/-- How long the loop may wait after an attempt: as long as the server asks, or up to the
backoff. -/
def RetryPolicy.Requires (policy : RetryPolicy K) (attempt : Nat) :
    ExportOutcome K → K → Prop
  | .retryable _ _ (some seconds), delay => delay = seconds
  | .retryable _ _ none, delay => 0 ≤ delay ∧
      delay ≤ min policy.maxBackoff (policy.initialBackoff * policy.multiplier ^ attempt)
  | _, _ => False

namespace Situation

variable (w : Situation K) (policy : RetryPolicy K)

def attempt : Effect Exn (Timeline K) (ExportOutcome K) := fun s =>
  (.ok (w.outcome s), s.attempted (w.outcome s) (w.duration s))

def sleep (delay : K) : Effect Exn (Timeline K) Unit := fun s =>
  (.ok (), s.slept delay (w.pause s delay))

def monotonic : Effect Exn (Timeline K) K := fun s => (.ok s.now, s)

def draw : Effect Exn (Timeline K) K := fun s => (.ok (w.jitter s), s)

/-- The loop. -/
def withRetry (rounds : Nat) : Effect Exn (Timeline K) (Option (ExportOutcome K)) :=
  OtlpClient.withRetry w.attempt policy w.sleep monotonic w.draw rounds

/-- The clock is read, and then the rounds are run. -/
theorem withRetry_eq (rounds : Nat) (s : Timeline K) :
    w.withRetry policy rounds s =
      Effect.iterate (retryRound w.attempt policy w.sleep monotonic w.draw s.now) rounds 0 s := by
  change (monotonic >>= _) s = _
  rw [Effect.bind_apply]
  rfl

/-- The delay the loop requires after so many attempts. -/
def delay (attempt : Nat) (s : Timeline K) : Option K → K
  | some seconds => seconds
  | none => w.jitter s *
      min policy.maxBackoff (policy.initialBackoff * policy.multiplier ^ attempt)

/-- The timeline when the next attempt has been made. -/
def next (s : Timeline K) : Timeline K := s.attempted (w.outcome s) (w.duration s)

/-- The budget is spent, or the delay that is required exceeds what remains of it. -/
def Spent (started : K) (attempt : Nat) (s : Timeline K) (retryAfter : Option K) : Prop :=
  policy.maxElapsed ≤ s.now - started ∨
    policy.maxElapsed - (s.now - started) < w.delay policy attempt s retryAfter

/-- What one round does: return the outcome of its attempt, which is not to be retried or has no
budget left, or sleep within the budget. -/
theorem round_cases (started : K) (attempt : Nat) (s : Timeline K) :
    (retryRound w.attempt policy w.sleep monotonic w.draw started attempt s =
        (.ok (.inl (w.outcome s)), w.next s) ∧
      ∀ status message retryAfter, w.outcome s = .retryable status message retryAfter →
        w.Spent policy started attempt (w.next s) retryAfter) ∨
    ∃ status message retryAfter, w.outcome s = .retryable status message retryAfter ∧
      ¬ w.Spent policy started attempt (w.next s) retryAfter ∧
      retryRound w.attempt policy w.sleep monotonic w.draw started attempt s =
        (.ok (.inr (attempt + 1)), (w.next s).slept (w.delay policy attempt (w.next s) retryAfter)
          (w.pause (w.next s) (w.delay policy attempt (w.next s) retryAfter))) := by
  have hop : w.attempt s = (.ok (w.outcome s), w.next s) := rfl
  cases ho : w.outcome s with
  | retryable status message retryAfter =>
      rw [ho] at hop
      have hcapped : policy.capped attempt =
        .ok (min policy.maxBackoff (policy.initialBackoff * policy.multiplier ^ attempt)) := rfl
      have hdelay : retryDelay w.draw retryAfter
          (min policy.maxBackoff (policy.initialBackoff * policy.multiplier ^ attempt)) (w.next s) =
            (.ok (w.delay policy attempt (w.next s) retryAfter), w.next s) := by
        cases retryAfter <;> rfl
      have hclock : monotonic (w.next s) = (.ok (w.next s).now, w.next s) := rfl
      have hsleep : ∀ d, w.sleep d (w.next s) =
          (.ok (), (w.next s).slept d (w.pause (w.next s) d)) := fun _ => rfl
      rw [retryRound_retryable hop hclock, backOff_apply hcapped hdelay (hsleep _)]
      simp only [Seconds.exact_le, Seconds.exact_lt, Seconds.exact_sub]
      by_cases hle : policy.maxElapsed ≤ (w.next s).now - started
      · rw [if_pos hle]
        refine Or.inl ⟨rfl, ?_⟩
        rintro _ _ _ ⟨⟩
        exact Or.inl hle
      · rw [if_neg hle]
        by_cases hlt : policy.maxElapsed - ((w.next s).now - started) <
            w.delay policy attempt (w.next s) retryAfter
        · rw [if_pos hlt]
          refine Or.inl ⟨rfl, ?_⟩
          rintro _ _ _ ⟨⟩
          exact Or.inr hlt
        · rw [if_neg hlt]
          exact Or.inr ⟨status, message, retryAfter, rfl, not_or.mpr ⟨hle, hlt⟩, rfl⟩
  | _ =>
      refine Or.inl ⟨?_, nofun⟩
      rw [retryRound_final hop (by rw [ho]; rfl), ho]

end Situation

/-! ### The schedule -/

section Schedule

variable [IsStrictOrderedRing K] {policy : RetryPolicy K} {started now : K}
  {attempts : List (Attempt K)} {sleeps : List K}

/-- The attempts the loop has gone on from and the sleeps after them, each within the budget, with
the time at which the next attempt starts. -/
inductive Scheduled (policy : RetryPolicy K) (started : K) :
    List (Attempt K) → List K → K → Prop where
  | start : Scheduled policy started [] [] started
  | next {attempts : List (Attempt K)} {sleeps : List K} {now stop delay : K}
      {outcome : ExportOutcome K} (h : Scheduled policy started attempts sleeps now)
      (hstop : now ≤ stop) (hdelay : policy.Requires attempts.length outcome delay)
      (hfits : stop + delay ≤ started + policy.maxElapsed) :
      Scheduled policy started (attempts ++ [⟨now, stop, outcome⟩]) (sleeps ++ [delay])
        (stop + delay)

/-- Attempts and sleeps as the policy has them. -/
structure Schedule (policy : RetryPolicy K) (started : K) (attempts : List (Attempt K))
    (sleeps : List K) : Prop where
  /-- The first attempt starts at once. -/
  first : ∀ a ∈ attempts.head?, a.start = started
  /-- Each but the last was to be retried. -/
  retried : ∀ a ∈ attempts.dropLast, a.outcome.isRetryable = true
  /-- The next one starts when the sleep is over that the policy requires. -/
  spaced : ∀ i a b, attempts[i]? = some a → attempts[i + 1]? = some b →
    ∃ delay, sleeps[i]? = some delay ∧ b.start = a.stop + delay ∧
      policy.Requires i a.outcome delay
  /-- None starts when the budget is over. -/
  within : ∀ a ∈ attempts, a.start ≤ started + policy.maxElapsed
  slept : sleeps.sum ≤ policy.maxElapsed

omit [IsStrictOrderedRing K] in
theorem RetryPolicy.Requires.isRetryable {i : Nat} {outcome : ExportOutcome K} {delay : K}
    (h : policy.Requires i outcome delay) : outcome.isRetryable = true := by
  cases outcome with
  | retryable status message retryAfter => rfl
  | _ => cases h

namespace Scheduled

omit [IsStrictOrderedRing K] in
theorem length_eq (h : Scheduled policy started attempts sleeps now) :
    attempts.length = sleeps.length := by
  induction h with
  | start => rfl
  | next h hstop hdelay hfits ih => simp [ih]

omit [IsStrictOrderedRing K] in
theorem retried (h : Scheduled policy started attempts sleeps now) :
    ∀ a ∈ attempts, a.outcome.isRetryable = true := by
  induction h with
  | start => exact List.forall_mem_nil _
  | next h hstop hdelay hfits ih =>
      exact List.forall_mem_append.mpr ⟨ih, List.forall_mem_singleton.mpr hdelay.isRetryable⟩

/-- The sleeps are within what has passed. -/
theorem sum_le (h : Scheduled policy started attempts sleeps now) :
    started + sleeps.sum ≤ now := by
  induction h with
  | start => simp
  | next h hstop hdelay hfits ih =>
      rw [List.sum_append, List.sum_singleton]
      linarith

theorem now_le (hpos : 0 ≤ policy.maxElapsed)
    (h : Scheduled policy started attempts sleeps now) : now ≤ started + policy.maxElapsed := by
  cases h with
  | start => exact le_add_of_nonneg_right hpos
  | next h hstop hdelay hfits => exact hfits

/-- Every start so far, and the next. -/
def starts (attempts : List (Attempt K)) (now : K) : List K := attempts.map Attempt.start ++ [now]

omit [Field K] [LinearOrder K] [IsStrictOrderedRing K] in
theorem starts_snoc (attempts : List (Attempt K)) (a : Attempt K) (now : K) :
    starts (attempts ++ [a]) now = starts attempts a.start ++ [now] := by
  rw [starts, List.map_append]
  rfl

omit [IsStrictOrderedRing K] in
theorem head_starts (h : Scheduled policy started attempts sleeps now) :
    (starts attempts now).head? = some started := by
  induction h with
  | start => rfl
  | next h hstop hdelay hfits ih =>
      rw [starts_snoc, List.head?_append, ih]
      rfl

theorem starts_le (hpos : 0 ≤ policy.maxElapsed)
    (h : Scheduled policy started attempts sleeps now) :
    ∀ t ∈ starts attempts now, t ≤ started + policy.maxElapsed := by
  induction h with
  | start => exact List.forall_mem_singleton.mpr (le_add_of_nonneg_right hpos)
  | next h hstop hdelay hfits ih =>
      rw [starts_snoc]
      exact List.forall_mem_append.mpr ⟨ih, List.forall_mem_singleton.mpr hfits⟩

omit [IsStrictOrderedRing K] in
/-- After each attempt comes the delay the policy requires, and then the next start. -/
theorem spaced (h : Scheduled policy started attempts sleeps now) :
    ∀ i a, attempts[i]? = some a → ∃ delay, sleeps[i]? = some delay ∧
      policy.Requires i a.outcome delay ∧ (starts attempts now)[i + 1]? = some (a.stop + delay) := by
  induction h with
  | start => exact fun i a ha => nomatch ha
  | @next attempts sleeps now stop delay outcome h hstop hdelay hfits ih =>
      intro i a ha
      have hlen := h.length_eq
      have hstarts : (starts attempts now).length = attempts.length + 1 := by simp [starts]
      rw [starts_snoc]
      dsimp only
      by_cases hi : i < attempts.length
      · rw [List.getElem?_append_left hi] at ha
        obtain ⟨d, hd, hr, hnext⟩ := ih i a ha
        rw [List.getElem?_append_left (by omega), List.getElem?_append_left (by omega)]
        exact ⟨d, hd, hr, hnext⟩
      · -- It is the last attempt.
        obtain rfl : i = attempts.length := by
          have hlt := (List.getElem?_eq_some_iff.mp ha).1
          rw [List.length_append, List.length_singleton] at hlt
          omega
        rw [List.getElem?_concat_length] at ha
        cases ha
        refine ⟨delay, ?_, hdelay, ?_⟩
        · rw [hlen, List.getElem?_concat_length]
        · rw [← hstarts, List.getElem?_concat_length]

/-- Attempts that start when they were to, all but the last of which the loop has gone on from. -/
theorem schedule (hpos : 0 ≤ policy.maxElapsed)
    (h : Scheduled policy started attempts sleeps now) {all : List (Attempt K)}
    (hstarts : all.map Attempt.start <+: starts attempts now) (hdrop : all.dropLast <+: attempts) :
    Schedule policy started all sleeps where
  first a ha := by
    cases all with
    | nil => cases ha
    | cons b all =>
        cases ha
        obtain ⟨rest, hrest⟩ := hstarts
        have hhead := h.head_starts
        rw [← hrest] at hhead
        exact Option.some.inj hhead
  retried a ha := h.retried a (hdrop.subset ha)
  spaced i a b ha hb := by
    have hlen := (List.getElem?_eq_some_iff.mp hb).1
    have ha' : attempts[i]? = some a := by
      refine getElem?_of_isPrefix hdrop ?_
      rw [List.getElem?_dropLast, if_pos (by omega), ha]
    obtain ⟨delay, hd, hr, hnext⟩ := h.spaced i a ha'
    have hstart := getElem?_of_isPrefix hstarts (i := i + 1) (by rw [List.getElem?_map, hb]; rfl)
    exact ⟨delay, hd, Option.some.inj (hstart.symm.trans hnext), hr⟩
  within a ha := h.starts_le hpos a.start (hstarts.subset (List.mem_map_of_mem ha))
  slept := by
    have hsum := h.sum_le
    have hnow := h.now_le hpos
    linarith

end Scheduled

end Schedule

/-! ### The loop keeps to it -/

section Loop

variable [IsStrictOrderedRing K] {policy : RetryPolicy K} {w : Situation K} {started : K}

structure RetryPolicy.Positive (policy : RetryPolicy K) : Prop where
  initialBackoff : 0 < policy.initialBackoff
  maxBackoff : 0 < policy.maxBackoff
  maxElapsed : 0 < policy.maxElapsed
  multiplier : 1 ≤ policy.multiplier

/-- The clock does not go back in an attempt, and goes on in a sleep by what was asked for. -/
structure Situation.Fair (w : Situation K) : Prop where
  duration : ∀ s, 0 ≤ w.duration s
  pause : ∀ s delay, w.pause s delay = delay
  jitter_nonneg : ∀ s, 0 ≤ w.jitter s
  jitter_le_one : ∀ s, w.jitter s ≤ 1

/-- What the loop has done when it returns an outcome. -/
structure Situation.Returned (w : Situation K) (policy : RetryPolicy K) (started : K)
    (outcome : ExportOutcome K) (s : Timeline K) : Prop where
  schedule : Schedule policy started s.attempts s.sleeps
  /-- It returns the last outcome. -/
  last : ∃ a, s.attempts.getLast? = some a ∧ a.outcome = outcome ∧ a.stop = s.now
  /-- There was a sleep after every other attempt. -/
  sleeps : s.attempts.length = s.sleeps.length + 1
  /-- An outcome to be retried has no budget left. -/
  spent : ∀ status message retryAfter, outcome = .retryable status message retryAfter →
    w.Spent policy started s.sleeps.length s retryAfter

/-- What the loop has done when it goes on. -/
structure Running (policy : RetryPolicy K) (started : K) (attempts : Nat) (s : Timeline K) :
    Prop where
  schedule : Schedule policy started s.attempts s.sleeps
  retried : ∀ a ∈ s.attempts, a.outcome.isRetryable = true
  length : s.attempts.length = attempts

/-- What the loop has done after so many attempts, if not fewer. -/
def Situation.Keeps (w : Situation K) (policy : RetryPolicy K) (started : K) (rounds : Nat) :
    Option (ExportOutcome K) → Timeline K → Prop
  | some outcome => w.Returned policy started outcome
  | none => Running policy started rounds

theorem Situation.delay_requires (hp : policy.Positive) (hw : w.Fair) (attempt : Nat)
    (s : Timeline K) {outcome : ExportOutcome K} {status : Option Int} {message : String}
    {retryAfter : Option K} (ho : outcome = .retryable status message retryAfter) :
    policy.Requires attempt outcome (w.delay policy attempt s retryAfter) := by
  subst ho
  cases retryAfter with
  | some seconds => rfl
  | none =>
      have hpow : 0 ≤ policy.multiplier ^ attempt :=
        pow_nonneg (zero_le_one.trans hp.multiplier) attempt
      have hcap : 0 ≤ min policy.maxBackoff (policy.initialBackoff * policy.multiplier ^ attempt) :=
        le_min hp.maxBackoff.le (mul_nonneg hp.initialBackoff.le hpow)
      exact ⟨mul_nonneg (hw.jitter_nonneg s) hcap, mul_le_of_le_one_left hcap (hw.jitter_le_one s)⟩

/-- One round keeps to the schedule. -/
theorem Situation.round_scheduled (hp : policy.Positive) (hw : w.Fair) (n attempt : Nat) :
    Effect.Spec
      (fun s => attempt = n ∧ Scheduled policy started s.attempts s.sleeps s.now ∧
        s.attempts.length = n)
      (retryRound w.attempt policy w.sleep monotonic w.draw started attempt)
      (Sum.elim (w.Returned policy started) fun attempt s => attempt = n + 1 ∧
        Scheduled policy started s.attempts s.sleeps s.now ∧ s.attempts.length = n + 1)
      fun _ _ => False := by
  rintro s ⟨rfl, hs, hlen⟩
  have hstop : s.now ≤ s.now + w.duration s := le_add_of_nonneg_right (hw.duration s)
  rcases w.round_cases policy started attempt s with ⟨hround, hspent⟩ |
    ⟨status, message, retryAfter, ho, hfits, hround⟩
  · rw [hround]
    refine ⟨hs.schedule hp.maxElapsed.le ⟨[], ?_⟩ ⟨[], ?_⟩, ⟨_, List.getLast?_concat .., rfl, rfl⟩,
      ?_, ?_⟩
    · simp [next, Timeline.attempted, Scheduled.starts]
    · simp [next, Timeline.attempted]
    · simp [next, Timeline.attempted, hs.length_eq]
    · rw [show (w.next s).sleeps.length = attempt from hs.length_eq.symm.trans hlen]
      exact hspent
  · rw [hround]
    unfold Situation.Spent at hfits
    have hdelay := w.delay_requires hp hw attempt (w.next s) ho
    have hnext : (w.next s).now = s.now + w.duration s := rfl
    rw [not_or, not_le, not_lt] at hfits
    refine ⟨rfl, ?_, by simp [next, Timeline.attempted, Timeline.slept, hlen]⟩
    simp only [Timeline.slept, hw.pause]
    refine .next hs hstop (hlen ▸ hdelay) ?_
    linarith [hfits.2]

/-- **The schedule of the retries.**  For every sequence of outcomes, draws and durations: while it
goes on, and when it returns, the loop has kept to the schedule; it returns the outcome of its last
attempt, one that is to be retried only where no budget is left for the delay it requires; and while
it goes on, every outcome is to be retried. -/
theorem retry_schedule (hp : policy.Positive) (hw : w.Fair) (now : K) (rounds : Nat) :
    Effect.Spec (fun s => s = ⟨now, [], []⟩) (w.withRetry policy rounds)
      (w.Keeps policy now rounds) fun _ _ => False := by
  rintro s rfl
  rw [Situation.withRetry_eq]
  refine Effect.Spec.iterate_count (Q := w.Keeps policy now rounds)
    (fun n attempt => w.round_scheduled hp hw n attempt) rounds 0 0 ?_ _ ⟨rfl, .start, rfl⟩
  rintro attempt s ⟨-, hs, hlen⟩
  refine ⟨hs.schedule hp.maxElapsed.le ⟨[s.now], rfl⟩ (List.dropLast_prefix _), hs.retried, ?_⟩
  rw [hlen, Nat.zero_add]

/-- The defaults of `RetryPolicy`. -/
def RetryPolicy.defaults : RetryPolicy ℚ where
  initialBackoff := 1
  maxBackoff := 30
  multiplier := 3 / 2
  maxElapsed := 90

/-- The collector is busy twice; every attempt takes a second. -/
def busyTwice : Situation ℚ where
  outcome s := if s.attempts.length < 2 then .retryable (some 503) "busy" none else .success
  duration _ := 1
  pause _ delay := delay
  jitter _ := 1 / 2

theorem retry_schedule_busyTwice :
    Effect.Spec (fun s => s = ⟨0, [], []⟩) (busyTwice.withRetry .defaults 3)
      (busyTwice.Keeps .defaults 0 3) fun _ _ => False := by
  have hp : RetryPolicy.defaults.Positive := by
    constructor <;> norm_num [RetryPolicy.defaults]
  have hw : busyTwice.Fair :=
    ⟨fun _ => zero_le_one, fun _ _ => rfl, fun _ => one_half_pos.le, fun _ => one_half_lt_one.le⟩
  exact retry_schedule hp hw 0 3

/-- Each attempt takes its time, and the clock does not go back. -/
structure Situation.Slow (w : Situation K) (e : K) : Prop where
  positive : 0 < e
  duration : ∀ s, e ≤ w.duration s
  pause : ∀ s delay, 0 ≤ w.pause s delay

/-- After so many attempts that are to be retried the clock has gone on by as many times `e`, and the
budget was not spent. -/
structure Situation.Paced (policy : RetryPolicy K) (started e : K) (n : Nat) (s : Timeline K) :
    Prop where
  length : s.attempts.length = n
  now : started + n * e ≤ s.now
  unspent : 0 < n → n * e < policy.maxElapsed

/-- An attempt that is made with budget left is one of the first. -/
theorem Situation.Paced.le_ceil [FloorSemiring K] {e : K} (he : 0 < e) {n : Nat} {s : Timeline K}
    (h : Paced policy started e n s) : n ≤ ⌈policy.maxElapsed / e⌉₊ := by
  rcases Nat.eq_zero_or_pos n with rfl | hn
  · exact Nat.zero_le _
  · have hlt : (n : K) < policy.maxElapsed / e := (lt_div_iff₀ he).mpr (h.unspent hn)
    exact (Nat.lt_ceil.mpr hlt).le

theorem Situation.round_paced [FloorSemiring K] {e : K} (hw : w.Slow e) (n attempt : Nat) :
    Effect.Spec (Paced policy started e n)
      (retryRound w.attempt policy w.sleep monotonic w.draw started attempt)
      (Sum.elim (fun _ s => s.attempts.length ≤ ⌈policy.maxElapsed / e⌉₊ + 1)
        fun _ => Paced policy started e (n + 1))
      fun _ _ => False := by
  intro s hs
  have hlen : (w.next s).attempts.length = n + 1 := by simp [next, Timeline.attempted, hs.length]
  have hnow : started + (n + 1 : Nat) * e ≤ (w.next s).now := by
    have hd := hw.duration s
    have hn := hs.now
    have hnext : (w.next s).now = s.now + w.duration s := rfl
    rw [hnext, Nat.cast_add, Nat.cast_one, add_mul, one_mul]
    linarith
  rcases w.round_cases policy started attempt s with ⟨hround, -⟩ |
    ⟨status, message, retryAfter, -, hfits, hround⟩
  · rw [hround]
    exact hlen.trans_le (Nat.succ_le_succ (hs.le_ceil hw.positive))
  · rw [hround]
    unfold Situation.Spent at hfits
    rw [not_or, not_le, not_lt] at hfits
    refine ⟨hlen, ?_, fun _ => by linarith [hfits.1]⟩
    exact hnow.trans (le_add_of_nonneg_right (hw.pause _ _))

/-- **The loop terminates.**  Where each attempt takes at least `e`, there are at most
`⌈max_elapsed / e⌉ + 1` attempts, whatever the outcomes, the draws and the sleeps: after them the
loop has returned. -/
theorem retry_terminates [FloorSemiring K] {e : K} (hw : w.Slow e) (policy : RetryPolicy K) (now : K)
    {rounds : Nat} (hrounds : ⌈policy.maxElapsed / e⌉₊ + 1 ≤ rounds) :
    ∃ outcome s, w.withRetry policy rounds ⟨now, [], []⟩ = (.ok (some outcome), s) ∧
      s.attempts.length ≤ ⌈policy.maxElapsed / e⌉₊ + 1 := by
  have hloop := Effect.Spec.iterate_count
    (Q := fun result s => result ≠ none ∧ s.attempts.length ≤ ⌈policy.maxElapsed / e⌉₊ + 1)
    (E := fun _ _ => False) (I := fun n _ => Situation.Paced policy now e n)
    (fun n attempt => (Situation.round_paced hw n attempt).conseq (fun _ h => h)
      (fun r s h => by
        cases r with
        | inl o => exact ⟨nofun, h⟩
        | inr k => exact h)
      fun _ _ h => h)
    rounds 0 0 fun attempt s hs => by
      -- So many rounds do not all go on.
      have hle := hs.le_ceil hw.positive
      omega
  have hdone := hloop ⟨now, [], []⟩ ⟨rfl, by simp, fun h => absurd h (Nat.lt_irrefl 0)⟩
  rw [Situation.withRetry_eq]
  rcases hrun : Effect.iterate (retryRound w.attempt policy w.sleep Situation.monotonic w.draw now)
    rounds 0 ⟨now, [], []⟩ with ⟨e | result, s⟩ <;> rw [hrun] at hdone
  · cases hdone
  · cases result with
    | none => exact absurd rfl hdone.1
    | some outcome => exact ⟨outcome, s, rfl, hdone.2⟩

/-- The collector is busy for ever, and asks for no delay. -/
def busyForEver : Situation ℚ where
  outcome _ := .retryable (some 429) "busy" (some 0)
  duration _ := 1
  pause _ _ := 0
  jitter _ := 0

theorem retry_terminates_busyForEver :
    ∃ outcome s, busyForEver.withRetry .defaults 91 ⟨0, [], []⟩ = (.ok (some outcome), s) ∧
      s.attempts.length ≤ ⌈RetryPolicy.defaults.maxElapsed / 1⌉₊ + 1 := by
  have hw : busyForEver.Slow 1 := ⟨zero_lt_one, fun _ => le_rfl, fun _ _ => le_rfl⟩
  have hceil : ⌈RetryPolicy.defaults.maxElapsed / 1⌉₊ = 90 := by
    rw [RetryPolicy.defaults, div_one]
    exact Nat.ceil_natCast 90
  exact retry_terminates hw .defaults 0 (by rw [hceil])

end Loop

end OtlpClient
