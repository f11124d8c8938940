import OtlpClient.Processor.Coherence

/-!
# Processor — cancelled calls

A task that is cancelled in `flush` or in `__aexit__` sees `CancelledError` at the await it is at.

* `Pending`: the error is due in a call.
* `cancellation_propagates`: it leaves the call, in every run in which nobody cancels the task of the
  block while it awaits the background task.
* `cancellation_swallowed`: a run in which somebody does, and the call returns.
-/

namespace OtlpClient.Processor

variable {α : Type} {m : Nat} {maxBatch : Int}

/-- The task is in `flush`, or awaits the background task in `__aexit__`. -/
def InCall (s : State α m) (t : Task) : Prop :=
  s.flush t ≠ .idle ∨ t = .exit ∧ s.exit = .joining

/-- `CancelledError` is due in a call of the task. -/
def Pending (s : State α m) (t : Task) : Prop := InCall s t ∧ s.cancelling t = true

/-- An export whose task is cancelled raises `CancelledError`. -/
def Prompt (s : State α m) : Action α → Prop
  | .finish t result => s.cancelling t = true → result = .cancelled
  | _ => True

/-- Nobody cancels the task of the block while it awaits the background task. -/
def SparesJoin (s : State α m) : Action α → Prop
  | .cancel t => ¬ (t = .exit ∧ s.exit = .joining)
  | _ => True

/-- The call of the task has not ended, or `CancelledError` was the first to end it. -/
def Propagates (s : State α m) (t : Task) (tr : List (Event α)) : Prop :=
  Pending s t ∧ .flushed t ∉ tr ∧ .cancelled t ∉ tr ∨
    ∃ before after, tr = before ++ .cancelled t :: after ∧ .flushed t ∉ before

/-! ### The await of the background task -/

/-- No `CancelledError` is due in the task of the block until the last flush. -/
def JoinsUndisturbed (s : State α m) : Prop :=
  s.exit = .notEntered ∨ s.exit = .joining → s.cancelling .exit = false

theorem resume_before {s : State α m} {t : Task} {kinds : List SignalKind}
    (h : (resume s t kinds).1.exit = .notEntered ∨ (resume s t kinds).1.exit = .joining) :
    s.exit = .notEntered ∨ s.exit = .joining := by
  unfold resume at h
  cases hn : nextBatch s.queue kinds with
  | some next =>
      rw [hn] at h
      exact h
  | none =>
      rw [hn] at h
      cases t with
      | exit => rcases h with h | h <;> cases h
      | background => exact h
      | caller n => exact h

/-- A task that leaves its flush leaves the others where they are. -/
theorem joinsUndisturbed_leaveFlush {s : State α m} (h : JoinsUndisturbed s) (t : Task) :
    JoinsUndisturbed (leaveFlush s t) := by
  intro he
  rw [leaveFlush, left_cancelling]
  cases t with
  | exit => rcases he with he | he <;> cases he
  | background =>
      have hne : Task.exit ≠ .background := nofun
      exact (Function.update_of_ne hne false s.cancelling).trans (h he)
  | caller n =>
      have hne : Task.exit ≠ .caller n := nofun
      exact (Function.update_of_ne hne false s.cancelling).trans (h he)

theorem joinsUndisturbed_resume {s : State α m} (h : JoinsUndisturbed s) (t : Task)
    (kinds : List SignalKind) : JoinsUndisturbed (resume s t kinds).1 := by
  intro he
  rw [resume_cancelling]
  exact h (resume_before he)

theorem joinsUndisturbed_step {s s' : State α m} {a : Action α} {es : List (Event α)}
    (hs : Step maxBatch s a s' es) (hg : SparesJoin s a) (h : JoinsUndisturbed s) :
    JoinsUndisturbed s' := by
  have hupdate : ∀ t,
      JoinsUndisturbed { s with cancelling := Function.update s.cancelling t false } := by
    intro t he
    by_cases ht : t = .exit
    · rw [ht]
      exact Function.update_self Task.exit false s.cancelling
    · exact (Function.update_of_ne (Ne.symm ht) _ _).trans (h he)
  cases hs with
  | @submit _ kind records hk =>
      obtain ⟨queue, submitted, dropped, wake, he⟩ := submit_frame maxBatch kind records s
      rw [he]
      exact h
  | enter _ _ => exact h
  | start _ _ => exact h
  | wakeUp _ _ => exact h
  | call _ => exact h
  | @acquire _ t hf hct hl =>
      exact joinsUndisturbed_resume (s := { s with lock := some t }) h t signals
  | @finish _ t kind batch rest result hf hr =>
      obtain ⟨exported, dropped, failures, error, hset⟩ := settle_frame s batch result
      rw [hset]
      exact joinsUndisturbed_resume (s := { s with
        exported := exported, dropped := dropped, consecutiveFailures := failures,
        lastError := error, cancelling := Function.update s.cancelling t false }) (hupdate t) t rest
  | @abort _ t kind batch rest hf =>
      exact joinsUndisturbed_leaveFlush (s := { settle s batch .cancelled with lock := none }) h t
  | @cancel _ t ht =>
      rw [cancel_spared hg]
      intro he
      -- The task of the block is only cancelled where it flushes.
      by_cases heq : t = .exit
      · subst heq
        rcases ht with hj | hf
        · exact absurd ⟨rfl, hj⟩ hg
        · rcases he with he | he
          · exact absurd (hf.symm.trans he) nofun
          · exact absurd (hf.symm.trans he) nofun
      · exact (Function.update_of_ne (Ne.symm heq) _ _).trans (h he)
  | deliver _ _ => exact joinsUndisturbed_leaveFlush h .background
  | deliverAcquiring _ _ => exact joinsUndisturbed_leaveFlush h _
  | exitBlock he =>
      rcases exitBlock_frame s with ⟨-, heq⟩ | ⟨cancelling, heq, hcancelled⟩
      · rw [heq]
        rintro (hx | hx) <;> cases hx
      · rw [heq]
        intro _
        rcases hcancelled .exit with hsame | ⟨hx, -⟩
        · exact hsame.trans (h (Or.inl he))
        · cases hx
  | join _ _ => rintro (hx | hx) <;> cases hx

/-! ### What a step does to a cancelled call -/

/-- The event ends a call of the task. -/
def Event.Ends (t : Task) : Event α → Prop
  | .flushed t' | .cancelled t' => t' = t
  | _ => False

theorem submit_ends (kind : SignalKind) (records : List α) (s : State α m) (t : Task) :
    ∀ e ∈ (submit maxBatch kind records s).2.1, ¬ e.Ends t := by
  have hall : ∀ (records : List α) (s : State α m), ∀ e ∈ (appendAll kind s records).2.1,
      ¬ e.Ends t := by
    intro records
    induction records with
    | nil => exact fun _ => nofun
    | cons record records ih =>
        intro s e he
        rcases List.mem_append.mp he with he | he
        · rcases List.mem_cons.mp he with rfl | he
          · exact not_false
          · obtain ⟨r, -, rfl⟩ := List.mem_map.mp he
            exact not_false
        · exact ih (append kind s record) e he
  unfold submit
  by_cases hc : s.closed = true
  · rw [if_pos hc]
    exact nofun
  · rw [if_neg hc]
    exact hall records s

/-- The loop of `flush` in another task touches neither the call nor its cancellation. -/
theorem resume_other {s : State α m} {t t' : Task} (ht : t ≠ t') (kinds : List SignalKind) :
    (resume s t' kinds).1.flush t = s.flush t ∧ ∀ e ∈ (resume s t' kinds).2, ¬ e.Ends t := by
  refine ⟨resume_flush s t' kinds ht, fun e he => ?_⟩
  rcases resume_event s t' kinds with ⟨kind, batch, hes⟩ | hes
  · rw [hes] at he
    rw [List.mem_singleton.mp he]
    exact not_false
  · rw [hes] at he
    rw [List.mem_singleton.mp he]
    exact Ne.symm ht

theorem settleEvents_ends (s : State α m) (kind : SignalKind) (batch : List α)
    (result : ExportResult) (t : Task) : ∀ e ∈ settleEvents s kind batch result, ¬ e.Ends t := by
  intro e he
  cases result with
  | raised message =>
      rcases List.mem_cons.mp he with rfl | he
      · exact not_false
      · rw [List.mem_singleton.mp he]
        exact not_false
  | success | partialSuccess p | cancelled =>
      rw [List.mem_singleton.mp he]
      exact not_false

/-- A flush that is cancelled. -/
def Due (s : State α m) (t : Task) : Prop := s.flush t ≠ .idle ∧ s.cancelling t = true

theorem Pending.due {s : State α m} {t : Task} (h : Pending s t) (hj : JoinsUndisturbed s) :
    Due s t := by
  obtain ⟨hf | ⟨rfl, he⟩, hc⟩ := h
  · exact ⟨hf, hc⟩
  · rw [hj (Or.inr he)] at hc
    cases hc

theorem Due.pending {s : State α m} {t : Task} (h : Due s t) : Pending s t := ⟨Or.inl h.1, h.2⟩

/-- Another task leaves its flush. -/
theorem Due.leaveFlush {s : State α m} {t t' : Task} (h : Due s t) (ht : t ≠ t') :
    Due (leaveFlush s t') t := by
  refine ⟨?_, ?_⟩
  · rw [Processor.leaveFlush, left_flush]
    exact (Function.update_of_ne ht _ _).trans_ne h.1
  · rw [Processor.leaveFlush, left_cancelling]
    exact (Function.update_of_ne ht _ _).trans h.2

/-- A step leaves a cancelled flush where it is, or is the one that raises in it. -/
theorem due_step {s s' : State α m} {a : Action α} {es : List (Event α)} {t : Task}
    (hs : Step maxBatch s a s' es) (hp : Prompt s a) (hg : SparesJoin s a) (hc : Coherent s)
    (h : Due s t) : (Due s' t ∧ ∀ e ∈ es, ¬ e.Ends t) ∨
      ∃ before, es = before ++ [.cancelled t] ∧ ∀ e ∈ before, ¬ e.Ends t := by
  obtain ⟨hflush, hcan⟩ := h
  -- The steps of another task.
  have hne : ∀ {t' : Task}, s.flush t' = .idle → t ≠ t' := by
    rintro t' hidle rfl
    exact hflush hidle
  have hother : ∀ {t' : Task} (pc : FlushPc α), t ≠ t' →
      Function.update s.flush t' pc t ≠ .idle := by
    intro t' pc ht
    rw [Function.update_of_ne ht]
    exact hflush
  have hcancelling : ∀ {t' : Task} (b : Bool), t ≠ t' →
      Function.update s.cancelling t' b t = true := by
    intro t' b ht
    rw [Function.update_of_ne ht]
    exact hcan
  have hone : ∀ {t' : Task}, t ≠ t' → ∀ e ∈ [(Event.cancelled t' : Event α)], ¬ e.Ends t := by
    intro t' ht e he
    rw [List.mem_singleton.mp he]
    exact Ne.symm ht
  cases hs with
  | @submit _ kind records hk =>
      obtain ⟨queue, submitted, dropped, wake, he⟩ := submit_frame maxBatch kind records s
      refine Or.inl ⟨?_, submit_ends kind records s t⟩
      rw [he]
      exact ⟨hflush, hcan⟩
  | enter _ _ => exact Or.inl ⟨⟨hflush, hcan⟩, nofun⟩
  | start _ _ => exact Or.inl ⟨⟨hflush, hcan⟩, nofun⟩
  | wakeUp hb _ =>
      have ht := hne (hc.background (by rw [hb]; nofun))
      exact Or.inl ⟨⟨hother .acquiring ht, hcan⟩, nofun⟩
  | call hf => exact Or.inl ⟨⟨hother .acquiring (hne hf), hcan⟩, nofun⟩
  | @acquire _ t' hf hct hl =>
      -- A cancelled task does not get the lock.
      have ht : t ≠ t' := by
        rintro rfl
        rw [hct] at hcan
        cases hcan
      obtain ⟨hsame, hes⟩ := resume_other (s := { s with lock := some t' }) ht signals
      refine Or.inl ⟨⟨?_, ?_⟩, hes⟩
      · rw [hsame]
        exact hflush
      · rw [resume_cancelling]
        exact hcan
  | @finish _ t' kind batch rest result hf hr =>
      -- A cancelled export raises.
      have ht : t ≠ t' := by
        rintro rfl
        exact hr (hp hcan)
      obtain ⟨exported, dropped, failures, error, hset⟩ := settle_frame s batch result
      rw [hset]
      obtain ⟨hsame, hes⟩ := resume_other (s := { s with
        exported := exported, dropped := dropped, consecutiveFailures := failures,
        lastError := error, cancelling := Function.update s.cancelling t' false }) ht rest
      refine Or.inl ⟨⟨?_, ?_⟩, fun e he => ?_⟩
      · rw [hsame]
        exact hflush
      · rw [resume_cancelling]
        exact hcancelling false ht
      · rcases List.mem_append.mp he with he | he
        · exact settleEvents_ends s kind batch result t e he
        · exact hes e he
  | @abort _ t' kind batch rest hf =>
      by_cases ht : t = t'
      · subst ht
        exact Or.inr ⟨_, rfl, settleEvents_ends s kind batch .cancelled t⟩
      · refine Or.inl ⟨Due.leaveFlush (s := { settle s batch .cancelled with lock := none })
          ⟨hflush, hcan⟩ ht, fun e he => ?_⟩
        rcases List.mem_append.mp he with he | he
        · exact settleEvents_ends s kind batch .cancelled t e he
        · exact hone ht e he
  | @cancel _ t' ht =>
      rw [cancel_spared hg]
      refine Or.inl ⟨⟨hflush, ?_⟩, nofun⟩
      by_cases heq : t = t'
      · rw [heq]
        exact Function.update_self t' true s.cancelling
      · exact hcancelling true heq
  | deliver hb _ =>
      have hidle : s.flush .background = .idle := by
        rcases hb with hb | hb <;> exact hc.background (by rw [hb]; nofun)
      have ht := hne hidle
      exact Or.inl ⟨Due.leaveFlush ⟨hflush, hcan⟩ ht, hone ht⟩
  | @deliverAcquiring _ t' hf hct =>
      by_cases ht : t = t'
      · subst ht
        exact Or.inr ⟨[], rfl, nofun⟩
      · exact Or.inl ⟨Due.leaveFlush ⟨hflush, hcan⟩ ht, hone ht⟩
  | exitBlock he =>
      have ht := hne (hc.exit (by rw [he]; nofun))
      -- A flush of the background task may have been cancelled already, and is again.
      rcases exitBlock_frame s with ⟨-, heq⟩ | ⟨cancelling, heq, hcancelled⟩
      · rw [heq]
        exact Or.inl ⟨⟨hother .acquiring ht, hcan⟩, nofun⟩
      · rw [heq]
        refine Or.inl ⟨⟨hflush, ?_⟩, nofun⟩
        rcases hcancelled t with hsame | ⟨-, htrue⟩
        · exact hsame.trans hcan
        · exact htrue
  | join he _ =>
      have ht := hne (hc.exit (by rw [he]; nofun))
      exact Or.inl ⟨⟨hother .acquiring ht, hcancelling false ht⟩, nofun⟩

/-! ### The law -/

/-- Runs in which a cancelled export raises, and nobody cancels the task of the block while it awaits
the background task. -/
abbrev UndisturbedRun (maxBatch : Int) : State α m → State α m → List (Event α) → Prop :=
  Machine.Run ((Step maxBatch).onlyIf fun s a => Prompt s a ∧ SparesJoin s a)

/-- In a state of such a run, a cancelled call is a cancelled flush. -/
theorem undisturbed_of_run {s : State α m} {tr : List (Event α)}
    (hr : UndisturbedRun maxBatch init s tr) : JoinsUndisturbed s :=
  Machine.Run.invariant (I := fun s _ => JoinsUndisturbed s) hr (fun _ => rfl)
    fun _ _ _ _ _ _ h hs => joinsUndisturbed_step hs.1 hs.2.2 h

/-- The error can be raised where a cancelled flush is. -/
theorem Due.raises {s : State α m} {t : Task} (h : Due s t) :
    ∃ a s' es, Step maxBatch s a s' es ∧ Prompt s a ∧ SparesJoin s a ∧ .cancelled t ∈ es := by
  obtain ⟨hf, hc⟩ := h
  cases hpc : s.flush t with
  | idle => exact absurd hpc hf
  | acquiring => exact ⟨_, _, _, .deliverAcquiring hpc hc, trivial, trivial, by simp⟩
  | exporting kind batch rest => exact ⟨_, _, _, .abort hpc, fun _ => rfl, trivial, by simp⟩

/-- **Cancellation propagates.**  In every run in which nobody cancels the task of the block while it
awaits the background task, a call of `flush` or `__aexit__` that is cancelled has not ended, with
its error due and ready to be raised, or has ended in `CancelledError`. -/
theorem cancellation_propagates {s s' : State α m} {tr tr' : List (Event α)} {t : Task}
    (hr : UndisturbedRun maxBatch init s tr) (h : Pending s t)
    (hr' : UndisturbedRun maxBatch s s' tr') :
    Propagates s' t tr' ∧ (Pending s' t →
      ∃ a s'' es, Step maxBatch s' a s'' es ∧ Prompt s' a ∧ SparesJoin s' a ∧
        .cancelled t ∈ es) := by
  have hends : ∀ {es : List (Event α)}, (∀ e ∈ es, ¬ e.Ends t) →
      .flushed t ∉ es ∧ .cancelled t ∉ es :=
    fun hes => ⟨fun hm => hes _ hm rfl, fun hm => hes _ hm rfl⟩
  have hinv : (Coherent s' ∧ JoinsUndisturbed s') ∧ Propagates s' t tr' := by
    refine Machine.Run.invariant
      (I := fun s' tr' => (Coherent s' ∧ JoinsUndisturbed s') ∧ Propagates s' t tr') hr'
      ⟨⟨run_coherent hr.of_onlyIf, undisturbed_of_run hr⟩, Or.inl ⟨h, nofun, nofun⟩⟩ ?_
    rintro s₁ a s₂ tr es - ⟨⟨hc, hj⟩, ih⟩ ⟨hs, hp, hg⟩
    refine ⟨⟨hs.coherent hc, joinsUndisturbed_step hs hg hj⟩, ?_⟩
    rcases ih with ⟨hpend, hfl, hca⟩ | ⟨before, after, rfl, hbefore⟩
    · rcases due_step hs hp hg hc (hpend.due hj) with ⟨hdue, hes⟩ | ⟨before, rfl, hbefore⟩
      · obtain ⟨hfl', hca'⟩ := hends hes
        refine Or.inl ⟨hdue.pending, fun hm => ?_, fun hm => ?_⟩
        · exact (List.mem_append.mp hm).elim hfl hfl'
        · exact (List.mem_append.mp hm).elim hca hca'
      · refine Or.inr ⟨tr ++ before, [], (List.append_assoc _ _ _).symm, fun hm => ?_⟩
        exact (List.mem_append.mp hm).elim hfl (hends hbefore).1
    · exact Or.inr ⟨before, after ++ es, by rw [List.append_assoc, List.cons_append], hbefore⟩
  exact ⟨hinv.2, fun hpend => (hpend.due hinv.1.2).raises⟩

/-! ### A call that is cancelled -/

/-- A caller flushes, and is cancelled while it waits for the lock. -/
def cancelledCall : State Nat 1 :=
  cancel { (init : State Nat 1) with
    flush := Function.update (init : State Nat 1).flush (.caller 0) .acquiring } (.caller 0)

theorem cancelledCall_run : UndisturbedRun 512 init cancelledCall [] := by
  have h₀ : UndisturbedRun 512 (init : State Nat 1) init [] := .start
  have h₁ := h₀.nextIf (.call (n := 0) rfl) ⟨trivial, trivial⟩
  have hspared : ¬ (Task.caller 0 = .exit ∧ (init : State Nat 1).exit = .joining) :=
    fun hx => absurd hx.2 nofun
  have hlive : (FlushPc.acquiring : FlushPc Nat) ≠ .idle := nofun
  exact h₁.nextIf (Step.cancel (t := .caller 0) hlive) ⟨trivial, hspared⟩

theorem cancellation_propagates_cancelledCall :
    Propagates (leaveFlush cancelledCall (.caller 0)) (.caller 0) [.cancelled (.caller 0)] := by
  have h₀ : UndisturbedRun 512 cancelledCall cancelledCall [] := .start
  have h₁ := h₀.nextIf (.deliverAcquiring (t := .caller 0) rfl rfl) ⟨trivial, trivial⟩
  have hin : InCall cancelledCall (.caller 0) :=
    Or.inl (show (FlushPc.acquiring : FlushPc Nat) ≠ .idle from nofun)
  exact (cancellation_propagates cancelledCall_run ⟨hin, rfl⟩ h₁).1

/-- The task of the block is cancelled while it awaits the background task. -/
def cancelledJoin : State Nat 1 :=
  cancel (exitBlock { (init : State Nat 1) with background := .created }) .exit

theorem cancelledJoin_run : Machine.Run ((Step 512).onlyIf Prompt) init cancelledJoin [] := by
  have h₀ : Machine.Run ((Step 512).onlyIf Prompt) (init : State Nat 1) init [] := .start
  have h₁ := h₀.nextIf (.enter rfl rfl) trivial
  have h₂ := h₁.nextIf (.exitBlock rfl) trivial
  exact h₂.nextIf (Step.cancel (t := .exit) (Or.inl rfl)) trivial

/-- The `CancelledError` of the block's own task is taken for that of the background task, and
`__aexit__` returns. -/
theorem cancellation_swallowed : ∃ (s s' : State Nat 1) (tr tr' : List (Event Nat)),
    Machine.Run ((Step 512).onlyIf Prompt) init s tr ∧ Pending s .exit ∧
      Machine.Run ((Step 512).onlyIf Prompt) s s' tr' ∧ s'.exit = .returned ∧
      ¬ Propagates s' .exit tr' := by
  have h₀ : Machine.Run ((Step 512).onlyIf Prompt) cancelledJoin cancelledJoin [] := .start
  have h₁ := h₀.nextIf (.deliver (Or.inl rfl) rfl) trivial
  have h₂ := h₁.nextIf (.join rfl rfl) trivial
  have h₃ := h₂.nextIf (Step.acquire (t := .exit) rfl rfl rfl) trivial
  refine ⟨cancelledJoin, _, [], _, cancelledJoin_run, ⟨Or.inr ⟨rfl, rfl⟩, rfl⟩, h₃, rfl, ?_⟩
  rintro (⟨⟨hcall, -⟩, -⟩ | ⟨before, after, htr, hbefore⟩)
  · rcases hcall with hf | ⟨-, he⟩
    · exact hf rfl
    · cases he
  · have hm : Event.cancelled .exit ∈
        [(Event.cancelled .background : Event Nat), .flushed .exit] := by
      change [Event.cancelled .background, .flushed .exit] = _ at htr
      rw [htr]
      simp
    simp at hm

end OtlpClient.Processor
