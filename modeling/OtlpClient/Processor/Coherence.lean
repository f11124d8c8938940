import OtlpClient.Processor.Machine

/-!
# Processor — where the tasks are

What holds of the tasks in every state a run reaches, and what a step can do to the records.

* `run_coherent`: the holder of the lock is the one task that exports, the batches it has still to
  look for are of the three signals, and a task is in `flush` only where its code is.
* `Step.cases`: a step submits, takes the lock, ends an export, or leaves the records alone.
-/

namespace OtlpClient.Processor

variable {α : Type} {m : Nat} {maxBatch : Int}

/-- The task awaits an export. -/
def FlushPc.IsExporting (pc : FlushPc α) : Prop :=
  ∃ kind batch rest, pc = .exporting kind batch rest

theorem not_isExporting_idle : ¬ (FlushPc.idle : FlushPc α).IsExporting := by
  rintro ⟨kind, batch, rest, h⟩
  cases h

theorem not_isExporting_acquiring : ¬ (FlushPc.acquiring : FlushPc α).IsExporting := by
  rintro ⟨kind, batch, rest, h⟩
  cases h

/-! ### The lock -/

/-- Whoever holds the lock exports, of the three signals, and nobody else does. -/
structure LockHeld (lock : Option Task) (flush : Task → FlushPc α) : Prop where
  holder : ∀ t, lock = some t ↔ (flush t).IsExporting
  kinds : ∀ t kind batch rest, flush t = .exporting kind batch rest →
    kind ∈ signals ∧ rest ⊆ signals

section LockHeld

variable {lock : Option Task} {flush : Task → FlushPc α} {t : Task} {pc : FlushPc α}

/-- A task that does not export may be put anywhere else. -/
theorem LockHeld.update (h : LockHeld lock flush) (ht : ¬ (flush t).IsExporting)
    (hpc : ¬ pc.IsExporting) : LockHeld lock (Function.update flush t pc) where
  holder := by
    intro t'
    by_cases heq : t' = t
    · subst heq
      rw [Function.update_self, h.holder]
      exact iff_of_false ht hpc
    · rw [Function.update_of_ne heq]
      exact h.holder t'
  kinds := by
    intro t' kind batch rest hf
    by_cases heq : t' = t
    · subst heq
      rw [Function.update_self] at hf
      exact absurd ⟨_, _, _, hf⟩ hpc
    · rw [Function.update_of_ne heq] at hf
      exact h.kinds t' kind batch rest hf

/-- When the one task that may export does not, nobody exports. -/
theorem not_exporting_update (h : ∀ t', t' ≠ t → ¬ (flush t').IsExporting)
    (hpc : ¬ pc.IsExporting) (t' : Task) : ¬ (Function.update flush t pc t').IsExporting := by
  by_cases heq : t' = t
  · subst heq
    rw [Function.update_self]
    exact hpc
  · rw [Function.update_of_ne heq]
    exact h t' heq

/-- The holder of the lock may let it go. -/
theorem lockHeld_release (h : ∀ t', t' ≠ t → ¬ (flush t').IsExporting) :
    LockHeld none (Function.update flush t .idle) where
  holder := fun t' => iff_of_false nofun (not_exporting_update h not_isExporting_idle t')
  kinds := fun t' _ _ _ hf =>
    absurd ⟨_, _, _, hf⟩ (not_exporting_update h not_isExporting_idle t')

/-- A task may export when nobody else does. -/
theorem lockHeld_export {kind : SignalKind} {batch : List α} {rest : List SignalKind}
    (h : ∀ t', t' ≠ t → ¬ (flush t').IsExporting) (hk : kind ∈ signals) (hr : rest ⊆ signals) :
    LockHeld (some t) (Function.update flush t (.exporting kind batch rest)) where
  holder := by
    intro t'
    by_cases heq : t' = t
    · subst heq
      rw [Function.update_self]
      exact iff_of_true rfl ⟨_, _, _, rfl⟩
    · rw [Function.update_of_ne heq]
      exact iff_of_false (fun hs => heq (Option.some.inj hs).symm) (h t' heq)
  kinds := by
    intro t' kind' batch' rest' hf
    by_cases heq : t' = t
    · subst heq
      rw [Function.update_self] at hf
      cases hf
      exact ⟨hk, hr⟩
    · rw [Function.update_of_ne heq] at hf
      exact absurd ⟨_, _, _, hf⟩ (h t' heq)

theorem LockHeld.others (h : LockHeld lock flush) (hl : lock = none ∨ lock = some t) :
    ∀ t', t' ≠ t → ¬ (flush t').IsExporting := by
  intro t' hne he
  have hs := (h.holder t').mpr he
  rcases hl with hl | hl
  · rw [hl] at hs
    cases hs
  · rw [hl] at hs
    exact hne (Option.some.inj hs).symm

end LockHeld

/-! ### Draining -/

/-- The next batch is that of the first signal with something queued. -/
theorem nextBatch_some {queue : SignalKind → Deque α m} {kind : SignalKind}
    {rest : List SignalKind} : ∀ {kinds : List SignalKind},
      nextBatch queue kinds = some (kind, rest) →
        ∃ before, kinds = before ++ kind :: rest ∧ (∀ k ∈ before, (queue k).items = []) ∧
          (queue kind).items ≠ []
  | k :: kinds, h => by
      rw [nextBatch] at h
      by_cases he : (queue k).items.isEmpty = true
      · rw [if_pos he] at h
        obtain ⟨before, rfl, hbefore, hne⟩ := nextBatch_some h
        refine ⟨k :: before, rfl, fun k' hk' => ?_, hne⟩
        rcases List.mem_cons.mp hk' with rfl | hk'
        · exact List.isEmpty_iff.mp he
        · exact hbefore k' hk'
      · rw [if_neg he] at h
        cases h
        exact ⟨[], rfl, nofun, fun hn => he (by rw [hn]; rfl)⟩

/-- There is no next batch when nothing is queued. -/
theorem nextBatch_none {queue : SignalKind → Deque α m} : ∀ {kinds : List SignalKind},
    nextBatch queue kinds = none → ∀ k ∈ kinds, (queue k).items = []
  | k :: kinds, h, k', hk' => by
      rw [nextBatch] at h
      by_cases he : (queue k).items.isEmpty = true
      · rw [if_pos he] at h
        rcases List.mem_cons.mp hk' with rfl | hk'
        · exact List.isEmpty_iff.mp he
        · exact nextBatch_none h k' hk'
      · rw [if_neg he] at h
        cases h

/-! ### What `_submit` leaves alone -/

/-- `_submit` touches the queues, two counters and `_wake`. -/
theorem appendAll_frame (kind : SignalKind) : ∀ (records : List α) (s : State α m),
    ∃ queue submitted dropped, (appendAll kind s records).1 =
      { s with queue := queue, submitted := submitted, dropped := dropped }
  | [], s => ⟨s.queue, s.submitted, s.dropped, rfl⟩
  | record :: records, s => by
      obtain ⟨queue, submitted, dropped, h⟩ := appendAll_frame kind records (append kind s record)
      exact ⟨queue, submitted, dropped, h⟩

theorem submit_frame (maxBatch : Int) (kind : SignalKind) (records : List α) (s : State α m) :
    ∃ queue submitted dropped wake, (submit maxBatch kind records s).1 =
      { s with queue := queue, submitted := submitted, dropped := dropped, wake := wake } := by
  unfold submit
  by_cases hc : s.closed = true
  · rw [if_pos hc]
    exact ⟨s.queue, s.submitted, s.dropped, s.wake, rfl⟩
  · rw [if_neg hc]
    obtain ⟨queue, submitted, dropped, h⟩ := appendAll_frame kind records s
    refine ⟨queue, submitted, dropped,
      (appendAll kind s records).1.wake || decide (maxBatch ≤
        (((appendAll kind s records).1.queue kind).items.length : Int)), ?_⟩
    dsimp only
    rw [h]

/-- What settling a batch leaves alone. -/
theorem settle_frame (s : State α m) (batch : List α) (result : ExportResult) :
    ∃ exported dropped failures error, settle s batch result =
      { s with exported := exported, dropped := dropped, consecutiveFailures := failures,
               lastError := error } := by
  cases result <;> exact ⟨_, _, _, _, rfl⟩

/-! ### What the loop of `flush` leaves alone -/

section Resume

variable (s : State α m) (t : Task) (kinds : List SignalKind)

/-- The loop touches the queues, the lock and where the tasks are. -/
theorem resume_frame : ∃ queue lock flush background flushed exit, (resume s t kinds).1 =
    { s with
      queue := queue
      lock := lock
      flush := flush
      background := background
      flushed := flushed
      exit := exit } := by
  unfold resume
  cases nextBatch s.queue kinds with
  | some next => exact ⟨_, _, _, _, _, _, rfl⟩
  | none => cases t <;> exact ⟨_, _, _, _, _, _, rfl⟩

/-- It hands a batch over or returns. -/
theorem resume_event : (∃ kind batch, (resume s t kinds).2 = [.handed kind batch]) ∨
    (resume s t kinds).2 = [.flushed t] := by
  unfold resume
  cases nextBatch s.queue kinds with
  | some next => exact .inl ⟨_, _, rfl⟩
  | none => exact .inr rfl

/-- It moves no other task. -/
theorem resume_flush {t' : Task} (ht : t' ≠ t) :
    (resume s t kinds).1.flush t' = s.flush t' := by
  unfold resume
  cases nextBatch s.queue kinds with
  | some next => exact Function.update_of_ne ht _ _
  | none =>
      dsimp only
      rw [returned_flush]
      exact Function.update_of_ne ht _ _

theorem resume_cancelling : (resume s t kinds).1.cancelling = s.cancelling := by
  obtain ⟨_, _, _, _, _, _, he⟩ := resume_frame s t kinds
  rw [he]

end Resume

/-! ### Coherent states -/

/-- Where the tasks are fits together. -/
structure Coherent (s : State α m) : Prop where
  lockHeld : LockHeld s.lock s.flush
  background : s.background ≠ .flushing → s.flush .background = .idle
  exit : s.exit ≠ .flushing → s.flush .exit = .idle

/-- A task of the processor that is in a flush is where it calls it. -/
theorem Coherent.flushing {s : State α m} (h : Coherent s) {t : Task} (ht : s.flush t ≠ .idle) :
    (t = .background → s.background = .flushing) ∧ (t = .exit → s.exit = .flushing) := by
  constructor
  · rintro rfl
    by_contra hb
    exact ht (h.background hb)
  · rintro rfl
    by_contra he
    exact ht (h.exit he)

theorem Coherent.ne_of_idle {s : State α m} (h : Coherent s) {t : Task}
    (ht : s.flush t ≠ .idle) : (s.background ≠ .flushing → t ≠ .background) ∧
      (s.exit ≠ .flushing → t ≠ .exit) :=
  ⟨mt (h.flushing ht).1, mt (h.flushing ht).2⟩

theorem exporting_ne_idle {pc : FlushPc α} (h : pc.IsExporting) : pc ≠ .idle := by
  rintro rfl
  exact not_isExporting_idle h

/-- Out of `flush`, a task is idle there and its code has gone on. -/
theorem coherent_leave {s : State α m} {t : Task} (hl : LockHeld s.lock s.flush)
    (ht : s.flush t = .idle)
    (hb : s.background ≠ .flushing → t ≠ .background → s.flush .background = .idle)
    (he : s.exit ≠ .flushing → t ≠ .exit → s.flush .exit = .idle) :
    Coherent (returned s t) ∧ Coherent (left s t) := by
  cases t with
  | background =>
      exact ⟨⟨hl, fun _ => ht, fun h => he h nofun⟩, hl, fun _ => ht, fun h => he h nofun⟩
  | exit => exact ⟨⟨hl, fun h => hb h nofun, fun _ => ht⟩, hl, fun h => hb h nofun, fun _ => ht⟩
  | caller n =>
      exact ⟨⟨hl, fun h => hb h nofun, fun h => he h nofun⟩, hl, fun h => hb h nofun,
        fun h => he h nofun⟩

/-- The loop of `flush` keeps the state coherent. -/
theorem resume_coherent {s : State α m} {t : Task} {kinds : List SignalKind}
    (hothers : ∀ t', t' ≠ t → ¬ (s.flush t').IsExporting) (hlock : s.lock = some t)
    (hkinds : kinds ⊆ signals)
    (hb : s.background ≠ .flushing → t ≠ .background ∧ s.flush .background = .idle)
    (he : s.exit ≠ .flushing → t ≠ .exit ∧ s.flush .exit = .idle) :
    Coherent (resume s t kinds).1 := by
  have hkeep : ∀ (pc : FlushPc α) {t' : Task}, t ≠ t' → s.flush t' = .idle →
      Function.update s.flush t pc t' = .idle := by
    intro pc t' hne hidle
    rw [Function.update_of_ne (Ne.symm hne)]
    exact hidle
  unfold resume
  cases hn : nextBatch s.queue kinds with
  | some next =>
      obtain ⟨kind, rest⟩ := next
      obtain ⟨before, rfl, -, -⟩ := nextBatch_some hn
      refine ⟨?_, fun h => hkeep _ (hb h).1 (hb h).2, fun h => hkeep _ (he h).1 (he h).2⟩
      rw [show s.lock = some t from hlock]
      exact lockHeld_export hothers (hkinds (by simp)) fun k hk => hkinds (by simp [hk])
  | none =>
      refine (coherent_leave (lockHeld_release hothers) ?_ ?_ ?_).1
      · exact Function.update_self _ _ _
      · exact fun h hne => hkeep _ hne (hb h).2
      · exact fun h hne => hkeep _ hne (he h).2

/-- A task out of `flush`, by `CancelledError`. -/
theorem leaveFlush_coherent {s : State α m} {t : Task}
    (hl : LockHeld s.lock (Function.update s.flush t .idle))
    (hb : s.background ≠ .flushing → t ≠ .background → s.flush .background = .idle)
    (he : s.exit ≠ .flushing → t ≠ .exit → s.flush .exit = .idle) :
    Coherent (leaveFlush s t) := by
  refine (coherent_leave hl ?_ ?_ ?_).2
  · exact Function.update_self _ _ _
  · intro h hne
    change Function.update s.flush t .idle .background = .idle
    rw [Function.update_of_ne (Ne.symm hne)]
    exact hb h hne
  · intro h hne
    change Function.update s.flush t .idle .exit = .idle
    rw [Function.update_of_ne (Ne.symm hne)]
    exact he h hne

/-- `cancel` of the background task does nothing but mark it. -/
theorem cancelBackground_frame (s : State α m) :
    ∃ cancelling, cancelBackground s = { s with cancelling := cancelling } := by
  unfold cancelBackground
  split
  · exact ⟨s.cancelling, rfl⟩
  · exact ⟨_, rfl⟩

theorem cancel_frame (s : State α m) (t : Task) :
    ∃ cancelling, cancel s t = { s with cancelling := cancelling } := by
  unfold cancel
  dsimp only
  split
  · obtain ⟨cancelling, h⟩ := cancelBackground_frame
      { s with cancelling := Function.update s.cancelling t true }
    exact ⟨cancelling, h⟩
  · exact ⟨_, rfl⟩

/-- Nobody else is cancelled where the task does not await the background task. -/
theorem cancel_spared {s : State α m} {t : Task} (ht : ¬ (t = .exit ∧ s.exit = .joining)) :
    cancel s t = { s with cancelling := Function.update s.cancelling t true } := by
  unfold cancel
  exact if_neg ht

/-- `__aexit__` closes the processor and waits: for the lock, or for the background task, which
alone it cancels. -/
theorem exitBlock_frame (s : State α m) :
    (s.background = .absent ∧ exitBlock s = { s with
        closed := true, exit := .flushing, flush := Function.update s.flush .exit .acquiring }) ∨
      ∃ cancelling,
        exitBlock s = { s with closed := true, exit := .joining, cancelling := cancelling } ∧
        ∀ t, cancelling t = s.cancelling t ∨ t = .background ∧ cancelling t = true := by
  unfold exitBlock cancelBackground
  by_cases habsent : s.background = .absent
  · rw [if_pos habsent]
    exact Or.inl ⟨habsent, rfl⟩
  · rw [if_neg habsent]
    right
    by_cases hended : s.background = .absent ∨ s.background = .finished
    · rw [if_pos hended]
      exact ⟨s.cancelling, rfl, fun _ => Or.inl rfl⟩
    · rw [if_neg hended]
      refine ⟨Function.update s.cancelling .background true, rfl, fun t => ?_⟩
      by_cases ht : t = .background
      · subst ht
        exact Or.inr ⟨rfl, Function.update_self _ _ _⟩
      · exact Or.inl (Function.update_of_ne ht _ _)

theorem init_coherent : Coherent (init : State α m) where
  lockHeld :=
    { holder := fun _ => iff_of_false nofun not_isExporting_idle
      kinds := nofun }
  background := fun _ => rfl
  exit := fun _ => rfl

/-- A task starts to wait for the lock. -/
theorem coherent_acquiring {s : State α m} {t : Task} (h : Coherent s)
    (ht : ¬ (s.flush t).IsExporting) (hb : s.background ≠ .flushing → t ≠ .background)
    (he : s.exit ≠ .flushing → t ≠ .exit) :
    Coherent { s with flush := Function.update s.flush t .acquiring } where
  lockHeld := h.lockHeld.update ht not_isExporting_acquiring
  background := fun hne => by
    change Function.update s.flush t .acquiring .background = .idle
    rw [Function.update_of_ne (Ne.symm (hb hne))]
    exact h.background hne
  exit := fun hne => by
    change Function.update s.flush t .acquiring .exit = .idle
    rw [Function.update_of_ne (Ne.symm (he hne))]
    exact h.exit hne

/-- Every step keeps the state coherent. -/
theorem Step.coherent {s s' : State α m} {a : Action α} {es : List (Event α)}
    (hs : Step maxBatch s a s' es) (h : Coherent s) : Coherent s' := by
  have hidle : ∀ {t : Task}, s.flush t = .idle → ¬ (s.flush t).IsExporting := by
    intro _ ht
    rw [ht]
    exact not_isExporting_idle
  cases hs with
  | @submit _ kind records hk =>
      obtain ⟨queue, submitted, dropped, wake, he⟩ := submit_frame maxBatch kind records s
      rw [he]
      exact ⟨h.lockHeld, h.background, h.exit⟩
  | enter hb _ => exact ⟨h.lockHeld, fun _ => h.background (by rw [hb]; nofun), h.exit⟩
  | start hb _ => exact ⟨h.lockHeld, fun _ => h.background (by rw [hb]; nofun), h.exit⟩
  | wakeUp hb _ =>
      have hf := h.background (by rw [hb]; nofun)
      have hc := coherent_acquiring (s := { s with background := .flushing })
        ⟨h.lockHeld, nofun, h.exit⟩ (hidle hf) (fun hne => absurd rfl hne) (fun _ => nofun)
      exact ⟨hc.lockHeld, hc.background, hc.exit⟩
  | call hf => exact coherent_acquiring h (hidle hf) (fun _ => nofun) (fun _ => nofun)
  | @acquire _ t hf hc hl =>
      have hne := h.ne_of_idle (t := t) (by rw [hf]; nofun)
      refine resume_coherent (h.lockHeld.others (Or.inl hl)) rfl (List.Subset.refl _)
        (fun hb => ⟨hne.1 hb, h.background hb⟩) fun he => ⟨hne.2 he, h.exit he⟩
  | @finish _ t kind batch rest result hf hr =>
      have hexp : (s.flush t).IsExporting := ⟨_, _, _, hf⟩
      have hlock := (h.lockHeld.holder t).mpr hexp
      have hne := h.ne_of_idle (exporting_ne_idle hexp)
      obtain ⟨exported, dropped, failures, error, hset⟩ := settle_frame s batch result
      rw [hset]
      exact resume_coherent (h.lockHeld.others (Or.inr hlock)) hlock (h.lockHeld.kinds _ _ _ _ hf).2
        (fun hb => ⟨hne.1 hb, h.background hb⟩) fun he => ⟨hne.2 he, h.exit he⟩
  | @abort _ t kind batch rest hf =>
      have hlock := (h.lockHeld.holder t).mpr ⟨_, _, _, hf⟩
      exact leaveFlush_coherent (lockHeld_release (h.lockHeld.others (Or.inr hlock)))
        (fun hb _ => h.background hb) fun he _ => h.exit he
  | cancel ht =>
      obtain ⟨cancelling, he⟩ := cancel_frame s _
      rw [he]
      exact ⟨h.lockHeld, h.background, h.exit⟩
  | deliver hb hc =>
      have hf : s.flush .background = .idle := by
        rcases hb with hb | hb <;> exact h.background (by rw [hb]; nofun)
      exact leaveFlush_coherent (h.lockHeld.update (hidle hf) not_isExporting_idle)
        (fun hb _ => h.background hb) fun he _ => h.exit he
  | @deliverAcquiring _ t hf hc =>
      have hexp : ¬ (s.flush t).IsExporting := by
        rw [hf]
        exact not_isExporting_acquiring
      exact leaveFlush_coherent (h.lockHeld.update hexp not_isExporting_idle)
        (fun hb _ => h.background hb) fun he _ => h.exit he
  | exitBlock he =>
      have hf := h.exit (by rw [he]; nofun)
      rcases exitBlock_frame s with ⟨-, heq⟩ | ⟨cancelling, heq, -⟩
      · rw [heq]
        have hc := coherent_acquiring (s := { s with exit := .flushing, closed := true })
          ⟨h.lockHeld, h.background, nofun⟩ (hidle hf) (fun _ => nofun) fun hne => absurd rfl hne
        exact ⟨hc.lockHeld, hc.background, hc.exit⟩
      · rw [heq]
        exact ⟨h.lockHeld, h.background, fun _ => hf⟩
  | join he hb =>
      have hf := h.exit (by rw [he]; nofun)
      have hc := coherent_acquiring (s := { s with exit := .flushing })
        ⟨h.lockHeld, h.background, nofun⟩ (hidle hf) (fun _ => nofun) fun hne => absurd rfl hne
      exact ⟨hc.lockHeld, hc.background, hc.exit⟩

/-- Every state a run reaches is coherent. -/
theorem run_coherent {s : State α m} {tr : List (Event α)} (hr : Run maxBatch s tr) :
    Coherent s :=
  Machine.Run.invariant (I := fun s _ => Coherent s) hr init_coherent
    fun _ _ _ _ _ _ h hs => hs.coherent h

/-! ### What a step does to the records -/

/-- Queues, counters, lock and exports stay what they are. -/
structure Quiet (s s' : State α m) : Prop where
  queue : s'.queue = s.queue
  lock : s'.lock = s.lock
  submitted : s'.submitted = s.submitted
  exported : s'.exported = s.exported
  dropped : s'.dropped = s.dropped
  exporting : ∀ t kind batch rest,
    s'.flush t = .exporting kind batch rest ↔ s.flush t = .exporting kind batch rest
  returned : s'.exit = .returned → s.exit = .returned
  entered : s'.exit ≠ .notEntered → s.exit ≠ .notEntered ∧ s'.closed = s.closed ∨ s'.closed = true

/-- Moving a task that exports neither before nor after is quiet. -/
theorem exporting_update {flush : Task → FlushPc α} {t : Task} {pc : FlushPc α}
    (ht : ¬ (flush t).IsExporting) (hpc : ¬ pc.IsExporting) (t' : Task) (kind : SignalKind)
    (batch : List α) (rest : List SignalKind) :
    Function.update flush t pc t' = .exporting kind batch rest ↔
      flush t' = .exporting kind batch rest := by
  by_cases heq : t' = t
  · subst heq
    rw [Function.update_self]
    exact iff_of_false (fun h => hpc ⟨_, _, _, h⟩) fun h => ht ⟨_, _, _, h⟩
  · rw [Function.update_of_ne heq]

theorem quiet_leaveFlush {s : State α m} {t : Task} (ht : ¬ (s.flush t).IsExporting)
    (hexit : t = .exit → s.exit ≠ .notEntered) : Quiet s (leaveFlush s t) := by
  have hexp := exporting_update ht not_isExporting_idle
  unfold leaveFlush
  cases t with
  | background => exact ⟨rfl, rfl, rfl, rfl, rfl, hexp, id, fun h => Or.inl ⟨h, rfl⟩⟩
  | exit => exact ⟨rfl, rfl, rfl, rfl, rfl, hexp, nofun, fun _ => Or.inl ⟨hexit rfl, rfl⟩⟩
  | caller n => exact ⟨rfl, rfl, rfl, rfl, rfl, hexp, id, fun h => Or.inl ⟨h, rfl⟩⟩

/-- A step submits, leaves the records alone, takes the lock, or ends an export. -/
theorem Step.cases {s s' : State α m} {a : Action α} {es : List (Event α)}
    (hs : Step maxBatch s a s' es) (h : Coherent s) :
    (∃ kind records, kind ∈ signals ∧ s' = (Processor.submit maxBatch kind records s).1 ∧
        es = (Processor.submit maxBatch kind records s).2.1) ∨
      (Quiet s s' ∧ (es = [] ∨ ∃ t, es = [.cancelled t])) ∨
      (∃ t, s.flush t = .acquiring ∧ s.lock = none ∧
        s' = (resume { s with lock := some t } t signals).1 ∧
        es = (resume { s with lock := some t } t signals).2) ∨
      (∃ t kind batch rest result s₁, s.flush t = .exporting kind batch rest ∧
        result ≠ .cancelled ∧ s₁ = { settle s batch result with
          cancelling := Function.update s.cancelling t false } ∧ s' = (resume s₁ t rest).1 ∧
        es = settleEvents s kind batch result ++ (resume s₁ t rest).2) ∨
      (∃ t kind batch rest, s.flush t = .exporting kind batch rest ∧
        s' = leaveFlush { settle s batch .cancelled with lock := none } t ∧
        es = settleEvents s kind batch .cancelled ++ [.cancelled t]) := by
  have hidle : ∀ {t : Task}, s.flush t = .idle → ¬ (s.flush t).IsExporting := by
    intro _ ht
    rw [ht]
    exact not_isExporting_idle
  have hsame : ∀ t kind batch rest, s.flush t = .exporting kind batch rest ↔
      s.flush t = .exporting kind batch rest := fun _ _ _ _ => Iff.rfl
  have hkeep : s.exit ≠ .notEntered → s.exit ≠ .notEntered ∧ s.closed = s.closed ∨
      s.closed = true := fun h => Or.inl ⟨h, rfl⟩
  cases hs with
  | @submit _ kind records hk => exact Or.inl ⟨kind, records, hk, rfl, rfl⟩
  | @acquire _ t hf hc hl => exact Or.inr (Or.inr (Or.inl ⟨t, hf, hl, rfl, rfl⟩))
  | @finish _ t kind batch rest result hf hr =>
      exact Or.inr (Or.inr (Or.inr (Or.inl
        ⟨t, kind, batch, rest, result, _, hf, hr, rfl, rfl, rfl⟩)))
  | @abort _ t kind batch rest hf =>
      exact Or.inr (Or.inr (Or.inr (Or.inr ⟨t, kind, batch, rest, hf, rfl, rfl⟩)))
  | enter hb _ => exact Or.inr (Or.inl ⟨⟨rfl, rfl, rfl, rfl, rfl, hsame, id, hkeep⟩, Or.inl rfl⟩)
  | start hb _ => exact Or.inr (Or.inl ⟨⟨rfl, rfl, rfl, rfl, rfl, hsame, id, hkeep⟩, Or.inl rfl⟩)
  | wakeUp hb _ =>
      have hf := h.background (by rw [hb]; nofun)
      exact Or.inr (Or.inl ⟨⟨rfl, rfl, rfl, rfl, rfl,
        exporting_update (hidle hf) not_isExporting_acquiring, id, hkeep⟩, Or.inl rfl⟩)
  | call hf =>
      exact Or.inr (Or.inl ⟨⟨rfl, rfl, rfl, rfl, rfl,
        exporting_update (hidle hf) not_isExporting_acquiring, id, hkeep⟩, Or.inl rfl⟩)
  | cancel ht =>
      obtain ⟨cancelling, he⟩ := cancel_frame s _
      rw [he]
      exact Or.inr (Or.inl ⟨⟨rfl, rfl, rfl, rfl, rfl, hsame, id, hkeep⟩, Or.inl rfl⟩)
  | deliver hb hc =>
      have hf : s.flush .background = .idle := by
        rcases hb with hb | hb <;> exact h.background (by rw [hb]; nofun)
      exact Or.inr (Or.inl ⟨quiet_leaveFlush (hidle hf) nofun, Or.inr ⟨_, rfl⟩⟩)
  | deliverAcquiring hf hc =>
      refine Or.inr (Or.inl ⟨quiet_leaveFlush (by rw [hf]; exact not_isExporting_acquiring) ?_,
        Or.inr ⟨_, rfl⟩⟩)
      rintro rfl hne
      rw [h.exit (by rw [hne]; nofun)] at hf
      cases hf
  | exitBlock he =>
      have hf := h.exit (by rw [he]; nofun)
      refine Or.inr (Or.inl ⟨?_, Or.inl rfl⟩)
      rcases exitBlock_frame s with ⟨-, heq⟩ | ⟨cancelling, heq, -⟩
      · rw [heq]
        exact ⟨rfl, rfl, rfl, rfl, rfl, exporting_update (hidle hf) not_isExporting_acquiring,
          nofun, fun _ => Or.inr rfl⟩
      · rw [heq]
        exact ⟨rfl, rfl, rfl, rfl, rfl, hsame, nofun, fun _ => Or.inr rfl⟩
  | join he hb =>
      have hf := h.exit (by rw [he]; nofun)
      exact Or.inr (Or.inl ⟨⟨rfl, rfl, rfl, rfl, rfl,
        exporting_update (hidle hf) not_isExporting_acquiring, nofun,
        fun _ => Or.inl ⟨by rw [he]; nofun, rfl⟩⟩, Or.inl rfl⟩)

end OtlpClient.Processor
