import Mathlib.Data.List.Induction
import OtlpClient.Processor.Coherence
import OtlpClient.Support.History

/-!
# Processor — the health of a flush

What `stats` says of a flush that lost a batch, until the next flush takes the lock.

* `step_health`: the two fields are those of the results, taken one after the other.
* `shows_foldl`: of results one of which is a failure, the fields show a failure exactly when the
  last that was not cancelled is one.
* `failure_surfaces_iff`: the same of a flush.
-/

namespace OtlpClient.Processor

variable {α : Type} {m : Nat} {maxBatch : Int}

/-! ### Results -/

/-- The export raised an `Exception`. -/
def ExportResult.IsFailure : ExportResult → Prop
  | .raised _ => True
  | _ => False

/-- Some export failed. -/
def Failed (results : List ExportResult) : Prop := ∃ r ∈ results, r.IsFailure

/-- The last export that was not cancelled failed. -/
def EndsInFailure (results : List ExportResult) : Prop :=
  ∃ before r after, results = before ++ r :: after ∧ r.IsFailure ∧ ∀ r' ∈ after, r' = .cancelled

/-- `consecutive_failures` and `last_error` after an export. -/
def health (h : Nat × Option String) : ExportResult → Nat × Option String
  | .success => (0, none)
  | .partialSuccess p => (0, some ("partial success: " ++ p.message))
  | .raised message => (h.1 + 1, some message)
  | .cancelled => h

/-- The fields show a failure. -/
def Shows (h : Nat × Option String) : Prop := h.2 ≠ none ∧ 1 ≤ h.1

/-- A result that is not cancelled decides. -/
theorem endsInFailure_snoc {results : List ExportResult} {r : ExportResult} (hr : r ≠ .cancelled) :
    EndsInFailure (results ++ [r]) ↔ r.IsFailure := by
  constructor
  · rintro ⟨before, r', after, heq, hr', hafter⟩
    rcases snoc_eq_append_cons heq with ⟨-, rfl, -⟩ | ⟨after', rfl, -⟩
    · exact hr'
    · exact absurd (hafter r (List.mem_append_right _ (List.mem_singleton_self r))) hr
  · intro h
    exact ⟨results, r, [], rfl, h, nofun⟩

/-- A cancelled one leaves it to those before. -/
theorem endsInFailure_snoc_cancelled {results : List ExportResult} :
    EndsInFailure (results ++ [.cancelled]) ↔ EndsInFailure results := by
  constructor
  · rintro ⟨before, r', after, heq, hr', hafter⟩
    rcases snoc_eq_append_cons heq with ⟨-, rfl, -⟩ | ⟨after', rfl, rfl⟩
    · exact hr'.elim
    · exact ⟨before, r', after', rfl, hr', fun y hy => hafter y (List.mem_append_left _ hy)⟩
  · rintro ⟨before, r, after, rfl, hr, hafter⟩
    refine ⟨before, r, after ++ [.cancelled], by rw [List.append_assoc, List.cons_append], hr, ?_⟩
    intro r' hr'
    rcases List.mem_append.mp hr' with hr' | hr'
    · exact hafter r' hr'
    · exact List.mem_singleton.mp hr'

/-- After results one of which is a failure, the fields show a failure exactly when the last that was
not cancelled is one. -/
theorem shows_foldl (h : Nat × Option String) (results : List ExportResult)
    (hf : Failed results) : Shows (results.foldl health h) ↔ EndsInFailure results := by
  induction results using List.reverseRecOn with
  | nil =>
      obtain ⟨r, hr, -⟩ := hf
      cases hr
  | append_singleton results r ih =>
      rw [List.foldl_append, List.foldl_cons, List.foldl_nil]
      cases r with
      | success =>
          rw [endsInFailure_snoc (r := .success) nofun]
          exact iff_of_false (fun hs => hs.1 rfl) id
      | partialSuccess p =>
          rw [endsInFailure_snoc (r := .partialSuccess p) nofun]
          exact iff_of_false (fun hs => absurd hs.2 (Nat.not_succ_le_zero 0)) id
      | raised message =>
          rw [endsInFailure_snoc (r := .raised message) nofun]
          exact iff_of_true ⟨nofun, Nat.succ_le_succ (Nat.zero_le _)⟩ trivial
      | cancelled =>
          rw [endsInFailure_snoc_cancelled]
          obtain ⟨r, hr, hrf⟩ := hf
          rcases List.mem_append.mp hr with hr | hr
          · exact ih ⟨r, hr, hrf⟩
          · rw [List.mem_singleton.mp hr] at hrf
            exact hrf.elim

/-! ### The two fields along a run -/

/-- The result an event reports. -/
def Event.result : Event α → Option ExportResult
  | .settled _ _ r => some r
  | _ => none

/-- The results of a history. -/
def results (tr : List (Event α)) : List ExportResult := tr.filterMap Event.result

theorem results_append (tr tr' : List (Event α)) :
    results (tr ++ tr') = results tr ++ results tr' :=
  List.filterMap_append

/-- `consecutive_failures` and `last_error`. -/
def State.health (s : State α m) : Nat × Option String := (s.consecutiveFailures, s.lastError)

theorem left_health (s : State α m) (t : Task) : (left s t).health = s.health := by
  cases t <;> rfl

theorem resume_health (s : State α m) (t : Task) (kinds : List SignalKind) :
    (resume s t kinds).1.health = s.health ∧ results (resume s t kinds).2 = [] := by
  constructor
  · obtain ⟨_, _, _, _, _, _, he⟩ := resume_frame s t kinds
    rw [he]
    rfl
  · rcases resume_event s t kinds with ⟨kind, batch, hes⟩ | hes
    · rw [hes]
      rfl
    · rw [hes]
      rfl

theorem settle_health (s : State α m) (batch : List α) (result : ExportResult) :
    (settle s batch result).health = Processor.health s.health result := by
  cases result <;> rfl

theorem settleEvents_results (s : State α m) (kind : SignalKind) (batch : List α)
    (result : ExportResult) : results (settleEvents s kind batch result) = [result] := by
  cases result <;> rfl

theorem appendEvents_results (kind : SignalKind) (s : State α m) (record : α) :
    results (appendEvents kind s record) = [] := by
  unfold appendEvents results Deque.evicted
  rw [List.filterMap_cons_none rfl, List.filterMap_map]
  exact List.filterMap_eq_nil_iff.mpr fun _ _ => rfl

theorem appendAll_results (kind : SignalKind) : ∀ (records : List α) (s : State α m),
    results (appendAll kind s records).2.1 = []
  | [], _ => rfl
  | record :: records, s => by
      rw [appendAll, results_append, appendEvents_results]
      exact appendAll_results kind records (append kind s record)

theorem submit_results (maxBatch : Int) (kind : SignalKind) (records : List α) (s : State α m) :
    results (submit maxBatch kind records s).2.1 = [] := by
  unfold submit
  by_cases hc : s.closed = true
  · rw [if_pos hc]
    rfl
  · rw [if_neg hc]
    exact appendAll_results kind records s

/-- A step takes the fields through its results. -/
theorem step_health {s s' : State α m} {a : Action α} {es : List (Event α)}
    (hs : Step maxBatch s a s' es) : s'.health = (results es).foldl health s.health := by
  cases hs with
  | @submit _ kind records hk =>
      obtain ⟨queue, submitted, dropped, wake, he⟩ := submit_frame maxBatch kind records s
      rw [submit_results, he]
      rfl
  | @acquire _ t hf hct hl =>
      obtain ⟨hh, hres⟩ := resume_health { s with lock := some t } t signals
      rw [hh, hres]
      rfl
  | @finish _ t kind batch rest result hf hr =>
      obtain ⟨hh, hres⟩ := resume_health { settle s batch result with
        cancelling := Function.update s.cancelling t false } t rest
      rw [hh, results_append, hres, settleEvents_results]
      exact settle_health s batch result
  | @abort _ t kind batch rest hf =>
      rw [results_append, settleEvents_results]
      exact left_health _ t
  | cancel ht =>
      obtain ⟨cancelling, he⟩ := cancel_frame s _
      rw [he]
      rfl
  | @deliverAcquiring _ t hf hct => exact left_health _ t
  | exitBlock he =>
      rcases exitBlock_frame s with ⟨-, heq⟩ | ⟨cancelling, heq, -⟩
      · rw [heq]
        rfl
      · rw [heq]
        rfl
  | _ => rfl

/-- So does a run. -/
theorem run_health {s s' : State α m} {tr : List (Event α)}
    (hr : Machine.Run (Step maxBatch) s s' tr) :
    s'.health = (results tr).foldl health s.health := by
  refine Machine.Run.invariant
    (I := fun s' tr => s'.health = (results tr).foldl health s.health) hr rfl ?_
  rintro s₁ a s₂ tr es - ih hs
  rw [step_health hs, ih, results_append, List.foldl_append]

/-! ### Between flushes -/

/-- No flush takes the lock. -/
def NoAcquire (_ : State α m) : Action α → Prop
  | .acquire _ => False
  | _ => True

/-- The task holds the lock: it is in a flush that has begun. -/
def Holds (t : Task) (s : State α m) (_ : Action α) : Prop := s.lock = some t

/-- Where nobody holds the lock no export ends, and the lock stays free until a flush takes it. -/
theorem free_step {s s' : State α m} {a : Action α} {es : List (Event α)}
    (hs : Step maxBatch s a s' es) (ha : NoAcquire s a) (hc : Coherent s) (hl : s.lock = none) :
    s'.lock = none ∧ results es = [] := by
  have hbusy : ∀ {t : Task} {kind : SignalKind} {batch : List α} {rest : List SignalKind},
      s.flush t ≠ .exporting kind batch rest := by
    intro t kind batch rest hf
    have hlock := (hc.lockHeld.holder t).mpr ⟨_, _, _, hf⟩
    rw [hl] at hlock
    cases hlock
  cases hs with
  | @submit _ kind records hk =>
      obtain ⟨queue, submitted, dropped, wake, he⟩ := submit_frame maxBatch kind records s
      rw [he]
      exact ⟨hl, submit_results maxBatch kind records s⟩
  | acquire _ _ _ => exact ha.elim
  | finish hf _ => exact absurd hf hbusy
  | abort hf => exact absurd hf hbusy
  | cancel ht =>
      obtain ⟨cancelling, he⟩ := cancel_frame s _
      rw [he]
      exact ⟨hl, rfl⟩
  | @deliverAcquiring _ t hf hct => exact ⟨(left_lock _ t).trans hl, rfl⟩
  | exitBlock he =>
      rcases exitBlock_frame s with ⟨-, heq⟩ | ⟨cancelling, heq, -⟩
      · rw [heq]
        exact ⟨hl, rfl⟩
      · rw [heq]
        exact ⟨hl, rfl⟩
  | _ => exact ⟨hl, rfl⟩

theorem free_run {s s' : State α m} {tr : List (Event α)} (hc : Coherent s) (hl : s.lock = none)
    (hr : Machine.Run ((Step maxBatch).onlyIf NoAcquire) s s' tr) :
    Coherent s' ∧ s'.lock = none ∧ results tr = [] := by
  refine Machine.Run.invariant
    (I := fun s' tr => Coherent s' ∧ s'.lock = none ∧ results tr = []) hr ⟨hc, hl, rfl⟩ ?_
  rintro s₁ a s₂ tr es - ⟨hc, hl, htr⟩ ⟨hs, ha⟩
  obtain ⟨hl', hes⟩ := free_step hs ha hc hl
  exact ⟨hs.coherent hc, hl', by rw [results_append, htr, hes, List.append_nil]⟩

/-- `last_error` and `consecutive_failures` show a failure. -/
def Surfaced (s : State α m) : Prop := s.lastError ≠ none ∧ 1 ≤ s.consecutiveFailures

/-- **Failures in the stats.**  In every run, from the end of a flush until another takes the lock,
`stats` shows the failure of a batch of that flush exactly when the last of its batches whose export
was not cancelled failed. -/
theorem failure_surfaces_iff {s s₀ s₁ s₂ : State α m} {tr es tr₁ tr₂ : List (Event α)} {t : Task}
    (hr : Run maxBatch s tr) (hs : Step maxBatch s (.acquire t) s₀ es)
    (h₁ : Machine.Run ((Step maxBatch).onlyIf (Holds t)) s₀ s₁ tr₁) (hl : s₁.lock = none)
    (h₂ : Machine.Run ((Step maxBatch).onlyIf NoAcquire) s₁ s₂ tr₂) :
    (Failed (results (es ++ tr₁)) → Surfaced s₂) ↔
      (Failed (results (es ++ tr₁)) → EndsInFailure (results (es ++ tr₁))) := by
  have hc₁ : Coherent s₁ :=
    Machine.Run.invariant (I := fun s _ => Coherent s) h₁ (hs.coherent (run_coherent hr))
      fun _ _ _ _ _ _ h hs => hs.1.coherent h
  obtain ⟨-, -, hres⟩ := free_run hc₁ hl h₂
  have hhealth : s₂.health = (results (es ++ tr₁)).foldl health s.health := by
    calc s₂.health = s₁.health := by rw [run_health h₂.of_onlyIf, hres, List.foldl_nil]
      _ = (results tr₁).foldl health s₀.health := run_health h₁.of_onlyIf
      _ = (results (es ++ tr₁)).foldl health s.health := by
          rw [step_health hs, results_append, List.foldl_append]
  have hshows : Surfaced s₂ ↔ Shows ((results (es ++ tr₁)).foldl health s.health) := by
    rw [← hhealth]
    exact Iff.rfl
  refine forall_congr' fun hf => ?_
  rw [hshows]
  exact shows_foldl _ _ hf

/-! ### Two signals in one flush -/

/-- A caller flushes a metric and a log record, and has the lock. -/
def exportingBoth : State Nat 1 :=
  let s := (submit 512 .metrics [1] (init : State Nat 1)).1
  let s := (submit 512 .logs [2] s).1
  let s := { s with flush := Function.update s.flush (.caller 0) .acquiring }
  (resume { s with lock := some (.caller 0) } (.caller 0) signals).1

theorem exportingBoth_run : ∃ (s : State Nat 1) (tr es : List (Event Nat)), Run 512 s tr ∧
    Step 512 s (.acquire (.caller 0)) exportingBoth es ∧ results es = [] := by
  have h₀ : Run 512 (init : State Nat 1) [] := .start
  have h₁ := h₀.next (@Step.submit _ _ _ _ .metrics [1] (by decide))
  have h₂ := h₁.next (@Step.submit _ _ _ _ .logs [2] (by decide))
  have h₃ := h₂.next (.call (n := 0) rfl)
  exact ⟨_, _, _, h₃, Step.acquire (t := .caller 0) rfl rfl rfl, rfl⟩

/-- The metric is exported, the log record is not. -/
theorem failure_surfaces_iff_second : ∃ (s₁ : State Nat 1) (es tr₁ : List (Event Nat)),
    results (es ++ tr₁) = [.success, .raised "refused"] ∧
      ((Failed (results (es ++ tr₁)) → Surfaced s₁) ↔
        (Failed (results (es ++ tr₁)) → EndsInFailure (results (es ++ tr₁)))) := by
  obtain ⟨s, tr, es, hr, hs, hes⟩ := exportingBoth_run
  have h₀ : Machine.Run ((Step 512).onlyIf (Holds (.caller 0))) exportingBoth exportingBoth [] :=
    .start
  have h₁ := h₀.nextIf (@Step.finish _ _ _ exportingBoth (.caller 0) .metrics [1] [.logs, .traces]
    .success rfl nofun) rfl
  have h₂ := h₁.nextIf (@Step.finish _ _ _ _ (.caller 0) .logs [2] [.traces]
    (.raised "refused") rfl nofun) rfl
  refine ⟨_, es, _, ?_, failure_surfaces_iff hr hs h₂ rfl .start⟩
  rw [results_append, hes]
  rfl

/-- The metric is lost, the log record is exported, and `stats` shows nothing. -/
theorem failure_masked : ∃ (s s₀ s₁ : State Nat 1) (tr es tr₁ : List (Event Nat)),
    Run 512 s tr ∧ Step 512 s (.acquire (.caller 0)) s₀ es ∧
      Machine.Run ((Step 512).onlyIf (Holds (.caller 0))) s₀ s₁ tr₁ ∧ s₁.lock = none ∧
      results (es ++ tr₁) = [.raised "refused", .success] ∧ Failed (results (es ++ tr₁)) ∧
      s₁.lastError = none ∧ s₁.consecutiveFailures = 0 ∧ ¬ Surfaced s₁ := by
  obtain ⟨s, tr, es, hr, hs, hes⟩ := exportingBoth_run
  have h₀ : Machine.Run ((Step 512).onlyIf (Holds (.caller 0))) exportingBoth exportingBoth [] :=
    .start
  have h₁ := h₀.nextIf (@Step.finish _ _ _ exportingBoth (.caller 0) .metrics [1] [.logs, .traces]
    (.raised "refused") rfl nofun) rfl
  have h₂ := h₁.nextIf (@Step.finish _ _ _ _ (.caller 0) .logs [2] [.traces] .success rfl nofun)
    rfl
  have hres : results (es ++ ([] ++ [.settled .metrics [1] (.raised "refused"),
      .logged .metrics .warning, .handed .logs [2]] ++
      [.settled .logs [2] .success, .flushed (.caller 0)])) =
        [.raised "refused", .success] := by
    rw [results_append, hes]
    rfl
  refine ⟨s, exportingBoth, _, tr, es, _, hr, hs, h₂, rfl, hres, ?_, rfl, rfl, fun h => h.1 rfl⟩
  exact ⟨.raised "refused", hres ▸ List.mem_cons_self .., trivial⟩

end OtlpClient.Processor
