import OtlpClient.Processor.Health

/-!
# Processor — warnings

Which failures of a run are logged at WARNING.

* `run_logged`: each failure is logged at once, at WARNING exactly where no failure came before it
  since the last success, of whatever signal.
* `no_flood_iff`: when that leaves a success of the signal between two warnings of it.
-/

namespace OtlpClient.Processor

variable {α : Type} {m : Nat} {maxBatch : Int}

/-- The export succeeded, in part at least. -/
def ExportResult.IsSuccess : ExportResult → Prop
  | .success | .partialSuccess _ => True
  | _ => False

theorem ExportResult.IsSuccess.not_isFailure {result : ExportResult} (h : result.IsSuccess) :
    ¬ result.IsFailure := by
  cases result with
  | raised message => cases h
  | _ => exact id

/-- Between two warnings of a signal there is a successful export of that signal. -/
def NoFlood (tr : List (Event α)) : Prop :=
  ∀ kind pre mid post,
    tr = pre ++ .logged kind .warning :: (mid ++ .logged kind .warning :: post) →
      ∃ batch result, .settled kind batch result ∈ mid ∧ result.IsSuccess

/-- Of the exports that were not cancelled, the last did not fail: the next failure is a first. -/
def AtRest (pre : List (Event α)) : Prop := ¬ EndsInFailure (results pre)

/-- Between two failures of a signal each of which is a first, there is a successful export of that
signal. -/
def Separated (tr : List (Event α)) : Prop :=
  ∀ kind pre batch result mid batch' result' post,
    tr = pre ++ .settled kind batch result :: (mid ++ .settled kind batch' result' :: post) →
      result.IsFailure → result'.IsFailure → AtRest pre →
        AtRest (pre ++ .settled kind batch result :: mid) →
          ∃ batch result, .settled kind batch result ∈ mid ∧ result.IsSuccess

/-! ### The log of a run -/

/-- The level a failure is logged at after a history. -/
def levelAfter (pre : List (Event α)) : LogLevel :=
  failureLevel (((results pre).foldl health (0, none)).1 + 1)

/-- No log line, and no failure. -/
def Event.IsSilent : Event α → Prop
  | .logged _ _ => False
  | .settled _ _ result => ¬ result.IsFailure
  | _ => True

/-- A log line follows a failure, and a failure is followed by its log line. -/
structure Line (pre : List (Event α)) (e : Event α) : Prop where
  follows : ∀ kind level, e = .logged kind level → ∃ pre' batch result,
    pre = pre' ++ [.settled kind batch result] ∧ result.IsFailure ∧ level = levelAfter pre'
  next : ∀ pre' kind batch result, pre = pre' ++ [.settled kind batch result] →
    result.IsFailure → e = .logged kind (levelAfter pre')

/-- Every failure is logged at once. -/
structure Logged (tr : List (Event α)) : Prop where
  lines : Always Line tr
  complete : ∀ pre kind batch result, tr = pre ++ [.settled kind batch result] →
    ¬ result.IsFailure

theorem logged_nil : Logged ([] : List (Event α)) where
  lines := always_nil
  complete pre kind batch result h := by simp at h

theorem Logged.silent {tr es : List (Event α)} (h : Logged tr) (hes : ∀ e ∈ es, e.IsSilent) :
    Logged (tr ++ es) := by
  induction es using List.reverseRecOn with
  | nil => rwa [List.append_nil]
  | append_singleton es e ih =>
      obtain ⟨hlines, hcomplete⟩ := ih fun e he => hes e (List.mem_append_left _ he)
      have he : e.IsSilent := hes e (List.mem_append_right _ (List.mem_singleton_self e))
      rw [← List.append_assoc]
      refine ⟨hlines.snoc ⟨?_, ?_⟩, ?_⟩
      · rintro kind level rfl
        exact he.elim
      · intro pre kind batch result hpre hf
        exact absurd hf (hcomplete pre kind batch result hpre)
      · intro pre kind batch result hpre
        obtain ⟨-, hlast⟩ := List.append_inj' hpre rfl
        obtain rfl := (List.cons.inj hlast).1
        exact he

/-- A failure, with the line it is logged at. -/
theorem Logged.failure {tr : List (Event α)} (h : Logged tr) (kind : SignalKind) (batch : List α)
    {result : ExportResult} (hf : result.IsFailure) :
    Logged (tr ++ [.settled kind batch result, .logged kind (levelAfter tr)]) := by
  have hsettled : Always Line (tr ++ [.settled kind batch result]) := by
    refine h.lines.snoc ⟨nofun, ?_⟩
    intro pre kind' batch' result' hpre hf'
    exact absurd hf' (h.complete pre kind' batch' result' hpre)
  rw [List.append_cons]
  refine ⟨hsettled.snoc ⟨?_, ?_⟩, ?_⟩
  · rintro _ _ ⟨⟩
    exact ⟨tr, batch, result, rfl, hf, rfl⟩
  · intro pre kind' batch' result' hpre _
    obtain ⟨rfl, hlast⟩ := List.append_inj' hpre rfl
    cases hlast
    rfl
  · intro pre kind' batch' result' hpre
    obtain ⟨-, hlast⟩ := List.append_inj' hpre rfl
    cases hlast

theorem resume_silent (s : State α m) (t : Task) (kinds : List SignalKind) :
    ∀ e ∈ (resume s t kinds).2, e.IsSilent := by
  rcases resume_event s t kinds with ⟨kind, batch, hes⟩ | hes
  · rw [hes]
    exact List.forall_mem_singleton.mpr trivial
  · rw [hes]
    exact List.forall_mem_singleton.mpr trivial

theorem appendAll_silent (kind : SignalKind) : ∀ (records : List α) (s : State α m),
    ∀ e ∈ (appendAll kind s records).2.1, e.IsSilent
  | [], _ => List.forall_mem_nil _
  | record :: records, s => by
      rw [appendAll]
      refine List.forall_mem_append.mpr ⟨?_, appendAll_silent kind records _⟩
      refine List.forall_mem_cons.mpr ⟨trivial, ?_⟩
      exact List.forall_mem_map.mpr fun _ _ => trivial

theorem submit_silent (maxBatch : Int) (kind : SignalKind) (records : List α) (s : State α m) :
    ∀ e ∈ (submit maxBatch kind records s).2.1, e.IsSilent := by
  unfold submit
  by_cases hc : s.closed = true
  · rw [if_pos hc]
    exact List.forall_mem_nil _
  · rw [if_neg hc]
    exact appendAll_silent kind records s

/-- The end of an export is logged, where it failed, at the level its history gives. -/
theorem Logged.settle {s : State α m} {tr : List (Event α)} (h : Logged tr)
    (hhealth : s.health = (results tr).foldl health (0, none)) (kind : SignalKind)
    (batch : List α) (result : ExportResult) :
    Logged (tr ++ settleEvents s kind batch result) := by
  cases result with
  | raised message =>
      have hlevel : failureLevel (s.consecutiveFailures + 1) = levelAfter tr := by
        rw [levelAfter, ← hhealth]
        rfl
      rw [settleEvents, hlevel]
      exact h.failure kind batch trivial
  | _ => exact h.silent (List.forall_mem_singleton.mpr id)

theorem step_logged {s s' : State α m} {a : Action α} {tr es : List (Event α)}
    (hs : Step maxBatch s a s' es) (hc : Coherent s)
    (hhealth : s.health = (results tr).foldl health (0, none)) (h : Logged tr) :
    Logged (tr ++ es) := by
  rcases hs.cases hc with ⟨kind, records, -, -, rfl⟩ | ⟨-, hes⟩ | ⟨t, -, -, -, rfl⟩ |
    ⟨t, kind, batch, rest, result, s₁, -, -, -, -, rfl⟩ | ⟨t, kind, batch, rest, -, -, rfl⟩
  · exact h.silent (submit_silent maxBatch kind records s)
  · rcases hes with rfl | ⟨t, rfl⟩
    · rwa [List.append_nil]
    · exact h.silent (List.forall_mem_singleton.mpr trivial)
  · exact h.silent (resume_silent _ t signals)
  · rw [← List.append_assoc]
    exact (h.settle hhealth kind batch result).silent (resume_silent s₁ t rest)
  · rw [← List.append_assoc]
    exact (h.settle hhealth kind batch .cancelled).silent (List.forall_mem_singleton.mpr trivial)

theorem run_logged {s : State α m} {tr : List (Event α)} (hr : Run maxBatch s tr) : Logged tr :=
  Machine.Run.invariant (I := fun _ tr => Logged tr) hr logged_nil
    fun _ _ _ _ _ hr h hs => step_logged hs (run_coherent hr) (run_health hr) h

/-! ### Which lines are warnings -/

theorem foldl_health_zero (results : List ExportResult) :
    (results.foldl health (0, none)).1 = 0 ↔ ¬ EndsInFailure results := by
  induction results using List.reverseRecOn with
  | nil =>
      refine iff_of_true rfl ?_
      rintro ⟨before, r, after, heq, -⟩
      simp at heq
  | append_singleton results r ih =>
      rw [List.foldl_append, List.foldl_cons, List.foldl_nil]
      cases r with
      | success =>
          rw [endsInFailure_snoc (r := .success) (by simp)]
          exact iff_of_true rfl id
      | partialSuccess p =>
          rw [endsInFailure_snoc (r := .partialSuccess p) (by simp)]
          exact iff_of_true rfl id
      | raised message =>
          rw [endsInFailure_snoc (r := .raised message) (by simp)]
          exact iff_of_false (Nat.succ_ne_zero _) fun h => h trivial
      | cancelled =>
          rw [endsInFailure_snoc_cancelled]
          exact ih

/-- A failure is logged at WARNING exactly where it is a first. -/
theorem levelAfter_eq_warning {pre : List (Event α)} : levelAfter pre = .warning ↔ AtRest pre := by
  rw [AtRest, ← foldl_health_zero, levelAfter, failureLevel]
  by_cases h : ((results pre).foldl health (0, none)).1 = 0
  · rw [h]
    exact iff_of_true rfl rfl
  · rw [if_neg (by omega)]
    exact iff_of_false (by simp) h

/-- After a failure that is a first comes its warning. -/
theorem Logged.warning {tr : List (Event α)} (h : Logged tr) {pre post : List (Event α)}
    {kind : SignalKind} {batch : List α} {result : ExportResult}
    (htr : tr = pre ++ .settled kind batch result :: post) (hf : result.IsFailure)
    (hrest : AtRest pre) : ∃ post', post = .logged kind .warning :: post' := by
  cases post with
  | nil => exact absurd hf (h.complete pre kind batch result htr)
  | cons e post =>
      rw [List.append_cons] at htr
      have he := (h.lines _ e post htr).next pre kind batch result rfl hf
      rw [levelAfter_eq_warning.mpr hrest] at he
      exact ⟨post, by rw [he]⟩

/-- Before a warning comes its failure, which is a first. -/
theorem Logged.first {tr : List (Event α)} (h : Logged tr) {pre post : List (Event α)}
    {kind : SignalKind} (htr : tr = pre ++ .logged kind .warning :: post) :
    ∃ pre' batch result, pre = pre' ++ [.settled kind batch result] ∧ result.IsFailure ∧
      AtRest pre' := by
  obtain ⟨pre', batch, result, hpre, hf, hlevel⟩ :=
    (h.lines pre _ post htr).follows kind .warning rfl
  exact ⟨pre', batch, result, hpre, hf, levelAfter_eq_warning.mp hlevel.symm⟩

theorem NoFlood.separated {tr : List (Event α)} (hlog : Logged tr) (h : NoFlood tr) :
    Separated tr := by
  intro kind pre batch result mid batch' result' post htr hf hf' hrest hrest'
  obtain ⟨post₁, hpost₁⟩ := hlog.warning htr hf hrest
  have htr' : tr = (pre ++ .settled kind batch result :: mid) ++
      .settled kind batch' result' :: post := by rw [htr, List.append_assoc, List.cons_append]
  obtain ⟨post₂, rfl⟩ := hlog.warning htr' hf' hrest'
  cases mid with
  | nil => cases (List.cons.inj hpost₁).1
  | cons e mid =>
      obtain rfl : e = .logged kind .warning := (List.cons.inj hpost₁).1
      obtain ⟨b, r, hm, hr⟩ := h kind (pre ++ [.settled kind batch result])
        (mid ++ [.settled kind batch' result']) post₂ (by rw [htr]; simp)
      rcases List.mem_append.mp hm with hm | hm
      · exact ⟨b, r, List.mem_cons_of_mem _ hm, hr⟩
      · -- The second failure is no success.
        cases List.mem_singleton.mp hm
        exact absurd hf' hr.not_isFailure

theorem Separated.no_flood {tr : List (Event α)} (hlog : Logged tr) (h : Separated tr) :
    NoFlood tr := by
  intro kind pre mid post htr
  obtain ⟨pre₁, batch, result, rfl, hf, hrest⟩ := hlog.first htr
  have htr' : tr = (pre₁ ++ [.settled kind batch result] ++ .logged kind .warning :: mid) ++
      .logged kind .warning :: post := by
    rw [htr]
    simp
  obtain ⟨pre₂, batch', result', hpre, hf', hrest'⟩ := hlog.first htr'
  rcases List.eq_nil_or_concat mid with rfl | ⟨mid', e, rfl⟩
  · cases (List.cons.inj (List.append_inj' hpre rfl).2).1
  · rw [List.concat_eq_append, ← List.cons_append, ← List.append_assoc] at hpre
    obtain ⟨hpre₂, he⟩ := List.append_inj' hpre rfl
    obtain rfl : e = .settled kind batch' result' := (List.cons.inj he).1
    rw [← hpre₂, List.append_assoc] at hrest'
    obtain ⟨b, r, hm, hr⟩ := h kind pre₁ batch result (.logged kind .warning :: mid') batch' result'
      (.logged kind .warning :: post) (by rw [htr]; simp) hf hf' hrest hrest'
    rcases List.mem_cons.mp hm with hm | hm
    · cases hm
    · exact ⟨b, r, by simp [hm], hr⟩

/-- **When there is no flood of warnings.**  In every run there is a successful export of the signal
between two warnings of it exactly where there is one between two of its failures each of which is
the first since a success of whatever signal. -/
theorem no_flood_iff {s : State α m} {tr : List (Event α)} (hr : Run maxBatch s tr) :
    NoFlood tr ↔ Separated tr :=
  ⟨NoFlood.separated (run_logged hr), Separated.no_flood (run_logged hr)⟩

/-! ### One signal down, another up -/

/-- A metric fails, a log record of the same flush is exported, and another metric fails. -/
def floodTrace : List (Event Nat) :=
  [.accepted .metrics 1, .accepted .logs 2, .handed .metrics [1],
    .settled .metrics [1] (.raised "refused"), .logged .metrics .warning, .handed .logs [2],
    .settled .logs [2] .success, .flushed (.caller 0), .accepted .metrics 3,
    .handed .metrics [3], .settled .metrics [3] (.raised "refused"), .logged .metrics .warning,
    .flushed (.caller 0)]

theorem floodTrace_run : ∃ s : State Nat 1, Run 512 s floodTrace := by
  have h₀ : Run 512 (init : State Nat 1) [] := .start
  have h₁ := h₀.next (@Step.submit _ _ _ _ .metrics [1] (by decide))
  have h₂ := h₁.next (@Step.submit _ _ _ _ .logs [2] (by decide))
  have h₃ := h₂.next (.call (n := 0) rfl)
  have h₄ := h₃.next (Step.acquire (t := .caller 0) rfl rfl rfl)
  have h₅ := h₄.next (@Step.finish _ _ _ exportingBoth (.caller 0) .metrics [1] [.logs, .traces]
    (.raised "refused") rfl (by simp))
  have h₆ := h₅.next (@Step.finish _ _ _ _ (.caller 0) .logs [2] [.traces] .success rfl (by simp))
  have h₇ := h₆.next (@Step.submit _ _ _ _ .metrics [3] (by decide))
  have h₈ := h₇.next (.call (n := 0) rfl)
  have h₉ := h₈.next (Step.acquire (t := .caller 0) rfl rfl rfl)
  have h₁₀ := h₉.next (@Step.finish _ _ _ _ (.caller 0) .metrics [3] [.logs, .traces]
    (.raised "refused") rfl (by simp))
  exact ⟨_, h₁₀⟩

/-- Both failures of the metrics are warnings, with no metric exported in between. -/
theorem floodTrace_floods : (∃ s : State Nat 1, Run 512 s floodTrace) ∧ ¬ NoFlood floodTrace := by
  refine ⟨floodTrace_run, fun h => ?_⟩
  obtain ⟨batch, result, hm, hr⟩ := h .metrics (floodTrace.take 4) ((floodTrace.drop 5).take 6)
    (floodTrace.drop 12) rfl
  -- The one export in between that is of the metrics is the failure.
  simp only [floodTrace, List.drop, List.take, List.mem_cons, List.not_mem_nil, or_false,
    reduceCtorEq, false_or, Event.settled.injEq, false_and] at hm
  obtain ⟨-, -, rfl⟩ := hm
  exact hr

theorem no_flood_iff_floodTrace : NoFlood floodTrace ↔ Separated floodTrace := by
  obtain ⟨s, hr⟩ := floodTrace_run
  exact no_flood_iff hr

end OtlpClient.Processor
