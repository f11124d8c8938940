import OtlpClient.Client.Budget
import OtlpClient.Processor.Machine

/-!
# Processor — how long a flush sleeps

`flush` over the client's own exports, once it holds the lock, and the backoff sleeps it makes.

* `flush_slept`: it sleeps within one budget for every signal that is sent, and no bound is better.
* `flush_bounded_iff`: when it sleeps within one budget in all.
-/

namespace OtlpClient.Processor

variable {K Data α : Type} [Field K] [LinearOrder K]

/-- What `flush` works on: the client, what wraps a batch for it, and what each queue holds when
the loop comes to it. -/
structure Flush (K Data α : Type) where
  client : OTLPClient K Data
  envelope : SignalKind → List α → Data
  batch : SignalKind → List α

namespace Flush

variable (f : Flush K Data α) (world : World K)

/-- `_export_batch`, with the method of the client it calls. -/
def exportBatch (kind : SignalKind) (rounds : Nat) :
    Effect Exn (Export K) (Option (ExportOutcome K)) :=
  if (f.batch kind).isEmpty then return some .success
  else f.client.exportSignal world kind [f.envelope kind (f.batch kind)] rounds

/-- The `try` of `flush`: every exception but `CancelledError` ends with the batch.  `none` is an
export that is still running. -/
def settle (kind : SignalKind) (rounds : Nat) : Effect Exn (Export K) (Option Unit) :=
  tryCatch (do return (← f.exportBatch world kind rounds).map fun _ => ()) fun
    | .cancelled => throw .cancelled
    | _ => return some ()

/-- The loop of `flush`, for at most so many attempts of each export. -/
def run (rounds : SignalKind → Nat) : List SignalKind → Effect Exn (Export K) (Option Unit)
  | [] => return some ()
  | kind :: rest => do
      if (f.batch kind).isEmpty then run rounds rest
      else
        match ← f.settle world kind (rounds kind) with
        | none => return none
        | some () => run rounds rest

/-- What `flush` does once it holds the lock. -/
def trace (rounds : SignalKind → Nat) : List (OtlpClient.Event K) :=
  (f.run world rounds signals {}).2.trace

/-- The signals that are sent at least once where each export goes on for long enough: their batch
is not empty and encodes. -/
def delivering : List SignalKind → List SignalKind
  | [] => []
  | kind :: rest =>
      if (f.batch kind).isEmpty then delivering rest
      else
        match f.client.encode kind [f.envelope kind (f.batch kind)] with
        | .ok _ => kind :: delivering rest
        -- Only `CancelledError` ends the loop.
        | .error .cancelled => []
        | .error _ => delivering rest

variable {f world} {kind : SignalKind} {rest : List SignalKind} {s : Export K}

/-! ### One signal -/

/-- What catches the exceptions of an export does nothing else. -/
theorem settle_state (rounds : Nat) :
    (f.settle world kind rounds s).2 = (f.exportBatch world kind rounds s).2 := by
  unfold settle
  rw [Effect.tryCatch_apply, Effect.bind_apply]
  rcases f.exportBatch world kind rounds s with ⟨e | o, s'⟩
  · cases e <;> rfl
  · rfl

/-- The loop goes on after an export that has ended, or stops there. -/
theorem run_cons (hb : ¬ (f.batch kind).isEmpty = true) (rounds : SignalKind → Nat) :
    f.run world rounds (kind :: rest) s =
      match f.settle world kind (rounds kind) s with
      | (.ok (some ()), s') => f.run world rounds rest s'
      | (.ok none, s') => (.ok none, s')
      | (.error e, s') => (.error e, s') := by
  rw [run, if_neg hb, Effect.bind_apply]
  rcases f.settle world kind (rounds kind) s with ⟨e | _ | _, s'⟩ <;> rfl

theorem exportBatch_eq (hb : ¬ (f.batch kind).isEmpty = true) (rounds : Nat) :
    f.exportBatch world kind rounds =
      f.client.exportSignal world kind [f.envelope kind (f.batch kind)] rounds := by
  rw [exportBatch, if_neg hb]

/-- A batch that does not encode ends with its exception. -/
theorem settle_error {e : Exn} (hb : ¬ (f.batch kind).isEmpty = true)
    (he : f.client.encode kind [f.envelope kind (f.batch kind)] = .error e) (rounds : Nat) :
    f.settle world kind rounds s =
      if e = .cancelled then (.error .cancelled, s) else (.ok (some ()), s) := by
  unfold settle
  rw [Effect.tryCatch_apply, Effect.bind_apply, exportBatch_eq hb,
    OTLPClient.exportSignal_error (List.cons_ne_nil _ _) he]
  cases e <;> rfl

theorem run_nil (hb : (f.batch kind).isEmpty = true) (rounds : SignalKind → Nat) :
    f.run world rounds (kind :: rest) s = f.run world rounds rest s := by
  rw [run, if_pos hb]

/-! ### The bound -/

/-- How much a flush sleeps at most: the budget once for every signal that is sent. -/
def allowance (f : Flush K Data α) (kinds : List SignalKind) : K :=
  (f.delivering kinds).length * max 0 f.client.policy.maxElapsed

variable [IsStrictOrderedRing K]

/-- The loop sleeps within that, whatever the collector does. -/
theorem run_slept (hw : world.Clocked) (rounds : SignalKind → Nat) (kinds : List SignalKind)
    (s : Export K) :
    slept (f.run world rounds kinds s).2.trace ≤ slept s.trace + f.allowance kinds := by
  have hnonneg : ∀ n : Nat, 0 ≤ (n : K) * max 0 f.client.policy.maxElapsed :=
    fun n => mul_nonneg n.cast_nonneg (le_max_left _ _)
  unfold allowance
  fun_induction f.delivering kinds generalizing s with
  | case1 => exact le_add_of_nonneg_right (hnonneg _)
  | case2 kind rest hb ih =>
      rw [run_nil hb]
      exact ih s
  | case3 kind rest hb payload he ih =>
      have hsettle : slept (f.settle world kind (rounds kind) s).2.trace ≤
          slept s.trace + max 0 f.client.policy.maxElapsed := by
        rw [settle_state, exportBatch_eq hb]
        exact (OTLPClient.exportSignal_slept hw _ _ _).state rfl
      rw [run_cons hb, List.length_cons, Nat.cast_succ, add_one_mul]
      have hrest := hnonneg (f.delivering rest).length
      rcases hs : f.settle world kind (rounds kind) s with ⟨e | _ | _, s'⟩ <;>
        rw [hs] at hsettle <;> dsimp only at hsettle ⊢
      · linarith
      · linarith
      · linarith [ih s']
  | case4 kind rest hb he =>
      rw [run_cons hb, settle_error hb he, if_pos rfl]
      exact le_add_of_nonneg_right (hnonneg _)
  | case5 kind rest hb e hc he ih =>
      rw [run_cons hb, settle_error hb he, if_neg hc]
      exact ih s

omit [IsStrictOrderedRing K] in
/-- It sleeps for that long where the collector asks for the budget in every answer. -/
theorem run_stubborn (kinds : List SignalKind) (s : Export K) :
    slept (f.run (OTLPClient.stubborn f.client.policy) (fun _ => 2) kinds s).2.trace =
      slept s.trace + f.allowance kinds := by
  unfold allowance
  fun_induction f.delivering kinds generalizing s with
  | case1 =>
      change slept s.trace = _
      simp
  | case2 kind rest hb ih =>
      rw [run_nil hb]
      exact ih s
  | case3 kind rest hb payload he ih =>
      obtain ⟨s', hexport, hs'⟩ := OTLPClient.exportSignal_stubborn (List.cons_ne_nil _ _) he s
      have hsettle : f.settle (OTLPClient.stubborn f.client.policy) kind 2 s =
          (.ok (some ()), s') := by
        unfold settle
        rw [Effect.tryCatch_apply, Effect.bind_apply, exportBatch_eq hb, hexport]
        rfl
      rw [run_cons hb, hsettle, List.length_cons, Nat.cast_succ, add_one_mul]
      dsimp only
      rw [ih s', hs']
      ring
  | case4 kind rest hb he =>
      rw [run_cons hb, settle_error hb he, if_pos rfl]
      simp
  | case5 kind rest hb e hc he ih =>
      rw [run_cons hb, settle_error hb he, if_neg hc]
      exact ih s

/-- **How long a flush sleeps.**  Within the budget once for every signal that is sent; and a
collector that asks for the whole budget gets that much. -/
theorem flush_slept (f : Flush K Data α) :
    (∀ world : World K, world.Clocked → ∀ rounds,
      slept (f.trace world rounds) ≤ f.allowance signals) ∧
    slept (f.trace (OTLPClient.stubborn f.client.policy) fun _ => 2) = f.allowance signals := by
  refine ⟨fun world hw rounds => ?_, ?_⟩
  · exact (run_slept hw rounds signals {}).trans_eq (zero_add _)
  · exact (run_stubborn signals {}).trans (zero_add _)

end Flush

/-- No flush sleeps for longer than the budget, whatever the collector does. -/
def Flush.IsBounded (f : Flush K Data α) : Prop :=
  ∀ world : World K, world.Clocked → ∀ rounds,
    slept (f.trace world rounds) ≤ f.client.policy.maxElapsed

variable [IsStrictOrderedRing K]

/-- **The budget of a flush.**  It holds whatever the collector does exactly where the budget is
zero, or where it is positive and at most one of the signals has a batch to send. -/
theorem flush_bounded_iff (f : Flush K Data α) :
    f.IsBounded ↔ f.client.policy.maxElapsed = 0 ∨
      0 < f.client.policy.maxElapsed ∧ (f.delivering signals).length ≤ 1 := by
  have hbound : f.IsBounded ↔ f.allowance signals ≤ f.client.policy.maxElapsed := by
    obtain ⟨hle, heq⟩ := f.flush_slept
    constructor
    · intro h
      rw [← heq]
      exact h _ OTLPClient.stubborn_clocked _
    · intro h world hw rounds
      exact (hle world hw rounds).trans h
  rw [hbound, Flush.allowance]
  rcases lt_trichotomy f.client.policy.maxElapsed 0 with hneg | hzero | hpos
  · rw [max_eq_left hneg.le, mul_zero]
    refine iff_of_false hneg.not_ge ?_
    rintro (h | ⟨h, -⟩)
    · exact hneg.ne h
    · exact hneg.not_gt h
  · rw [hzero, max_self, mul_zero]
    exact iff_of_true le_rfl (Or.inl rfl)
  · rw [max_eq_right hpos.le, mul_le_iff_le_one_left hpos, Nat.cast_le_one]
    constructor
    · intro h
      exact Or.inr ⟨hpos, h⟩
    · rintro (h | ⟨-, h⟩)
      · exact absurd h hpos.ne'
      · exact h

/-! ### Two signals -/

/-- A client with the default budget, and a record in some of the queues. -/
def oneEach (kinds : List SignalKind) : Flush ℚ Nat Nat where
  client :=
    { headersFor := fun _ => []
      encode := fun _ _ => .ok []
      policy := RetryPolicy.defaults
      hasCredentials := false }
  envelope _ batch := batch.length
  batch kind := if kind ∈ kinds then [0] else []

theorem flush_bounded_iff_metrics : (oneEach [.metrics]).IsBounded := by
  refine (flush_bounded_iff _).mpr (Or.inr ⟨?_, by decide⟩)
  change (0 : ℚ) < 90
  norm_num

/-- Metrics and logs are queued, and every answer is a 503 with a `Retry-After` of 90 seconds. -/
theorem oneEach_exceeds : (OTLPClient.stubborn RetryPolicy.defaults).Clocked ∧
    slept ((oneEach [.metrics, .logs]).trace (OTLPClient.stubborn RetryPolicy.defaults)
      fun _ => 2) = 180 ∧ ¬ (oneEach [.metrics, .logs]).IsBounded := by
  have hslept : slept ((oneEach [.metrics, .logs]).trace (OTLPClient.stubborn RetryPolicy.defaults)
      fun _ => 2) = 180 := by
    refine (oneEach [.metrics, .logs]).flush_slept.2.trans ?_
    change ((2 : Nat) : ℚ) * max 0 90 = 180
    norm_num
  refine ⟨OTLPClient.stubborn_clocked, hslept, fun h => ?_⟩
  have hle : (180 : ℚ) ≤ 90 := by
    rw [← hslept]
    exact h _ OTLPClient.stubborn_clocked _
  norm_num at hle

end OtlpClient.Processor
