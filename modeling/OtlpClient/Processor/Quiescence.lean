import OtlpClient.Processor.Shutdown

/-!
# Processor — after the block

* `Quiescent`: the processor is closed and empty, and no task of its own runs.
* `quiescent_step`: a step from such a state sends nothing, counts nothing and leaves it quiescent.
* `exit_quiescent`: the state in which `__aexit__` returns is quiescent, and so is every later one.
-/

namespace OtlpClient.Processor

variable {α : Type} {m : Nat} {maxBatch : Int}

/-! ### The background task has ended -/

/-- Once the last flush has begun, the background task has ended, or there never was one. -/
def Joined (s : State α m) : Prop :=
  s.exit = .flushing ∨ s.exit = .returned → s.background = .absent ∨ s.background = .finished

theorem joined_returned {s : State α m} (h : Joined s) {t : Task}
    (hb : t = .background → s.background = .flushing) (he : t = .exit → s.exit = .flushing) :
    Joined (returned s t) := by
  cases t with
  | background =>
      intro hexit
      rcases h hexit with hback | hback
      · rw [hb rfl] at hback
        cases hback
      · rw [hb rfl] at hback
        cases hback
  | exit => exact fun _ => h (Or.inl (he rfl))
  | caller n => exact h

theorem joined_left {s : State α m} (h : Joined s) (t : Task) : Joined (left s t) := by
  cases t with
  | background => exact fun _ => Or.inr rfl
  | exit => exact fun hexit => absurd hexit (by rintro (h | h) <;> cases h)
  | caller n => exact h

theorem joined_resume {s : State α m} (h : Joined s) {t : Task}
    (hb : t = .background → s.background = .flushing) (he : t = .exit → s.exit = .flushing)
    (kinds : List SignalKind) : Joined (resume s t kinds).1 := by
  unfold resume
  cases nextBatch s.queue kinds with
  | some next => exact h
  | none =>
      exact joined_returned (s := { s with
        lock := none, flush := Function.update s.flush t .idle }) h hb he

theorem joined_step {s s' : State α m} {a : Action α} {es : List (Event α)}
    (hs : Step maxBatch s a s' es) (hc : Coherent s) (h : Joined s) : Joined s' := by
  -- A background task that moves has not been joined.
  have hnot : ∀ {b : BackgroundPc}, s.background = b → b ≠ .absent → b ≠ .finished →
      ¬ (s.exit = .flushing ∨ s.exit = .returned) := by
    rintro b rfl ha hf hexit
    rcases h hexit with hb | hb
    · exact ha hb
    · exact hf hb
  cases hs with
  | @submit _ kind records hk =>
      obtain ⟨queue, submitted, dropped, wake, he⟩ := submit_frame maxBatch kind records s
      rw [he]
      exact h
  | enter _ he => exact fun hexit => absurd he (by rcases hexit with hx | hx <;> rw [hx] <;> nofun)
  | start hb _ => exact fun hexit => absurd hexit (hnot hb nofun nofun)
  | wakeUp hb _ => exact fun hexit => absurd hexit (hnot hb nofun nofun)
  | call _ => exact h
  | @acquire _ t hf hct hl =>
      obtain ⟨hb, he⟩ := hc.flushing (t := t) (by rw [hf]; nofun)
      exact joined_resume (s := { s with lock := some t }) h hb he signals
  | @finish _ t kind batch rest result hf hr =>
      obtain ⟨hb, he⟩ := hc.flushing (t := t) (by rw [hf]; nofun)
      obtain ⟨exported, dropped, failures, error, hset⟩ := settle_frame s batch result
      rw [hset]
      exact joined_resume (s := { s with
        exported := exported, dropped := dropped, consecutiveFailures := failures,
        lastError := error, cancelling := Function.update s.cancelling t false }) h hb he rest
  | @abort _ t kind batch rest hf => exact joined_left (s := { settle s batch .cancelled with
      lock := none, flush := Function.update s.flush t .idle,
      cancelling := Function.update s.cancelling t false }) h t
  | cancel ht =>
      obtain ⟨cancelling, he⟩ := cancel_frame s _
      rw [he]
      exact h
  | deliver _ _ => exact fun _ => Or.inr rfl
  | @deliverAcquiring _ t hf hct => exact joined_left (s := { s with
      flush := Function.update s.flush t .idle,
      cancelling := Function.update s.cancelling t false }) h t
  | exitBlock he =>
      rcases exitBlock_frame s with ⟨hb, heq⟩ | ⟨cancelling, heq, -⟩
      · rw [heq]
        exact fun _ => Or.inl hb
      · rw [heq]
        rintro (hx | hx) <;> cases hx
  | join _ hb => exact fun _ => Or.inr hb

/-! ### Quiescence -/

/-- The block has been left: the processor is closed and empty, and no task of its own runs. -/
structure Quiescent (s : State α m) : Prop where
  exit : s.exit = .returned
  closed : s.closed = true
  empty : ∀ kind ∈ signals, (s.queue kind).items = []
  idle : ∀ t, ¬ (s.flush t).IsExporting
  background : s.background = .absent ∨ s.background = .finished

/-- The counters are those they were. -/
structure SameStats (s s' : State α m) : Prop where
  submitted : s'.submitted = s.submitted
  exported : s'.exported = s.exported
  dropped : s'.dropped = s.dropped
  consecutiveFailures : s'.consecutiveFailures = s.consecutiveFailures
  lastError : s'.lastError = s.lastError

theorem SameStats.refl (s : State α m) : SameStats s s := ⟨rfl, rfl, rfl, rfl, rfl⟩

theorem SameStats.trans {s s' s'' : State α m} (h : SameStats s s') (h' : SameStats s' s'') :
    SameStats s s'' :=
  ⟨h'.submitted.trans h.submitted, h'.exported.trans h.exported, h'.dropped.trans h.dropped,
    h'.consecutiveFailures.trans h.consecutiveFailures, h'.lastError.trans h.lastError⟩

/-- A caller's flush returns or is cancelled. -/
def Event.IsEnd : Event α → Prop
  | .flushed _ | .cancelled _ => True
  | _ => False

/-- A closed processor takes nothing. -/
theorem submit_closed {s : State α m} (h : s.closed = true) (kind : SignalKind)
    (records : List α) : submit maxBatch kind records s = (s, [], false) := by
  unfold submit
  rw [if_pos h]

/-- A flush of empty queues returns. -/
theorem nextBatch_empty {queue : SignalKind → Deque α m} : ∀ {kinds : List SignalKind},
    (∀ k ∈ kinds, (queue k).items = []) → nextBatch queue kinds = none
  | [], _ => rfl
  | k :: kinds, h => by
      rw [nextBatch, if_pos (by rw [h k (List.mem_cons_self ..)]; rfl)]
      exact nextBatch_empty fun k' hk' => h k' (List.mem_cons_of_mem _ hk')

/-- From a quiescent state a step sends nothing, counts nothing and leaves the state quiescent. -/
theorem quiescent_step {s s' : State α m} {a : Action α} {es : List (Event α)}
    (hs : Step maxBatch s a s' es) (hc : Coherent s) (h : Quiescent s) :
    Quiescent s' ∧ SameStats s s' ∧ ∀ e ∈ es, e.IsEnd := by
  -- Only callers are anywhere in a flush.
  have hcaller : ∀ {t : Task}, s.flush t ≠ .idle → ∃ n, t = .caller n := by
    intro t hne
    cases t with
    | caller n => exact ⟨n, rfl⟩
    | exit => exact absurd (hc.exit (by rw [h.exit]; nofun)) hne
    | background =>
        refine absurd (hc.background ?_) hne
        rcases h.background with hb | hb <;> rw [hb] <;> nofun
  have hnot : ∀ {b : BackgroundPc}, s.background = b → b ≠ .absent → b ≠ .finished → False := by
    rintro b rfl ha hf
    exact h.background.elim ha hf
  cases hs with
  | @submit _ kind records hk =>
      rw [submit_closed h.closed]
      exact ⟨h, .refl s, nofun⟩
  | enter _ he =>
      rw [h.exit] at he
      cases he
  | start hb _ => exact (hnot hb nofun nofun).elim
  | wakeUp hb _ => exact (hnot hb nofun nofun).elim
  | @call _ n hf => exact ⟨⟨h.exit, h.closed, h.empty,
      not_exporting_update (fun t _ => h.idle t) not_isExporting_acquiring, h.background⟩,
      ⟨rfl, rfl, rfl, rfl, rfl⟩, nofun⟩
  | @acquire _ t hf hct hl =>
      obtain ⟨n, rfl⟩ := hcaller (by rw [hf]; nofun)
      have hnone := nextBatch_empty h.empty
      unfold resume
      dsimp only
      rw [hnone]
      refine ⟨⟨h.exit, h.closed, h.empty,
        not_exporting_update (fun t _ => h.idle t) not_isExporting_idle, h.background⟩,
        ⟨rfl, rfl, rfl, rfl, rfl⟩, fun e he => ?_⟩
      rw [List.mem_singleton.mp he]
      trivial
  | finish hf _ => exact absurd ⟨_, _, _, hf⟩ (h.idle _)
  | abort hf => exact absurd ⟨_, _, _, hf⟩ (h.idle _)
  | cancel ht =>
      obtain ⟨cancelling, he⟩ := cancel_frame s _
      rw [he]
      exact ⟨⟨h.exit, h.closed, h.empty, h.idle, h.background⟩, ⟨rfl, rfl, rfl, rfl, rfl⟩, nofun⟩
  | deliver hb _ =>
      exact (hb.elim (fun hb => hnot hb nofun nofun) fun hb => hnot hb nofun nofun).elim
  | @deliverAcquiring _ t hf hct =>
      obtain ⟨n, rfl⟩ := hcaller (by rw [hf]; nofun)
      refine ⟨⟨h.exit, h.closed, h.empty,
        not_exporting_update (fun t _ => h.idle t) not_isExporting_idle, h.background⟩,
        ⟨rfl, rfl, rfl, rfl, rfl⟩, fun e he => ?_⟩
      rw [List.mem_singleton.mp he]
      trivial
  | exitBlock he =>
      rw [h.exit] at he
      cases he
  | join he _ =>
      rw [h.exit] at he
      cases he

/-- Quiescence lasts. -/
theorem quiescent_run {s s' : State α m} {tr : List (Event α)} (hc : Coherent s)
    (h : Quiescent s) (hr : Machine.Run (Step maxBatch) s s' tr) :
    Quiescent s' ∧ SameStats s s' ∧ ∀ e ∈ tr, e.IsEnd := by
  have hinv : Coherent s' ∧ Quiescent s' ∧ SameStats s s' ∧ ∀ e ∈ tr, e.IsEnd := by
    refine Machine.Run.invariant
      (I := fun s' tr => Coherent s' ∧ Quiescent s' ∧ SameStats s s' ∧ ∀ e ∈ tr, e.IsEnd) hr
      ⟨hc, h, .refl s, nofun⟩ ?_
    rintro s₁ a s₂ tr es - ⟨hc, hq, hst, htr⟩ hs
    obtain ⟨hq', hst', hes⟩ := quiescent_step hs hc hq
    refine ⟨hs.coherent hc, hq', hst.trans hst', fun e he => ?_⟩
    rcases List.mem_append.mp he with he | he
    · exact htr e he
    · exact hes e he
  exact hinv.2

/-! ### Leaving the block -/

theorem run_quiescent {s : State α m} {tr : List (Event α)} (hr : Run maxBatch s tr)
    (he : s.exit = .returned) : Quiescent s := by
  have hclosing := run_closing hr
  have hjoined : Joined s := Machine.Run.invariant (I := fun s _ => Joined s) hr
    (fun h => by rcases h with h | h <;> cases h)
    fun _ _ _ _ _ hr h hs => joined_step hs (run_coherent hr) h
  obtain ⟨hempty, hidle⟩ := hclosing.drained he
  exact ⟨he, hclosing.closed (by rw [he]; nofun), hempty, hidle, hjoined (Or.inr he)⟩

/-- What `CancelledError` leaves, and nothing else does. -/
theorem raised_step {s s' : State α m} {a : Action α} {es : List (Event α)}
    (hs : Step maxBatch s a s' es) (hne : s.exit ≠ .raised) (he : s'.exit = .raised) :
    Event.cancelled .exit ∈ es := by
  have hresume : ∀ {s : State α m} (t : Task) (kinds : List SignalKind), s.exit ≠ .raised →
      (resume s t kinds).1.exit ≠ .raised := by
    intro s t kinds hne
    unfold resume
    cases nextBatch s.queue kinds with
    | some next => exact hne
    | none =>
        cases t with
        | exit => nofun
        | background => exact hne
        | caller n => exact hne
  have hleave : ∀ {s : State α m} (t : Task), s.exit ≠ .raised → (left s t).exit = .raised →
      t = .exit := by
    intro s t hne he
    cases t with
    | exit => rfl
    | background => exact absurd he hne
    | caller n => exact absurd he hne
  cases hs with
  | @submit _ kind records hk =>
      obtain ⟨queue, submitted, dropped, wake, hsub⟩ := submit_frame maxBatch kind records s
      rw [hsub] at he
      exact absurd he hne
  | @acquire _ t hf hct hl =>
      exact absurd he (hresume (s := { s with lock := some t }) t signals hne)
  | @finish _ t kind batch rest result hf hr =>
      obtain ⟨exported, dropped, failures, error, hset⟩ := settle_frame s batch result
      rw [hset] at he
      exact absurd he (hresume (s := { s with
        exported := exported, dropped := dropped, consecutiveFailures := failures,
        lastError := error, cancelling := Function.update s.cancelling t false }) t rest hne)
  | @abort _ t kind batch rest hf =>
      have ht := hleave (s := { settle s batch .cancelled with
        lock := none, flush := Function.update s.flush t .idle,
        cancelling := Function.update s.cancelling t false }) t hne he
      subst ht
      simp
  | cancel ht =>
      obtain ⟨cancelling, hcancel⟩ := cancel_frame s _
      rw [hcancel] at he
      exact absurd he hne
  | deliver _ _ => exact absurd he hne
  | @deliverAcquiring _ t hf hct =>
      have ht := hleave (s := { s with
        flush := Function.update s.flush t .idle,
        cancelling := Function.update s.cancelling t false }) t hne he
      subst ht
      simp
  | exitBlock _ =>
      rcases exitBlock_frame s with ⟨-, heq⟩ | ⟨cancelling, heq, -⟩
      · rw [heq] at he
        cases he
      · rw [heq] at he
        cases he
  | join _ _ => cases he
  | enter _ _ => exact absurd he hne
  | start _ _ => exact absurd he hne
  | wakeUp _ _ => exact absurd he hne
  | call _ => exact absurd he hne

/-- **Quiescence after the block.**  In every run, when `__aexit__` has returned the queues are empty,
nothing is being exported and the background task has ended; every later state is like that, with the
same counters, whatever is submitted and flushed; and `__aexit__` raises nothing but
`CancelledError`. -/
theorem exit_quiescent {s : State α m} {tr : List (Event α)} (hr : Run maxBatch s tr) :
    (s.exit = .returned → Quiescent s ∧ ∀ {s' : State α m} {tr' : List (Event α)},
      Machine.Run (Step maxBatch) s s' tr' → Quiescent s' ∧ SameStats s s' ∧
        (∀ e ∈ tr', e.IsEnd) ∧
        ∀ kind records, submit maxBatch kind records s' = (s', [], false)) ∧
      ∀ {a : Action α} {s' : State α m} {es : List (Event α)}, Step maxBatch s a s' es →
        s.exit ≠ .raised → s'.exit = .raised → Event.cancelled .exit ∈ es := by
  refine ⟨fun he => ?_, fun hs => raised_step hs⟩
  have hq := run_quiescent hr he
  refine ⟨hq, fun hr' => ?_⟩
  obtain ⟨hq', hst, htr⟩ := quiescent_run (run_coherent hr) hq hr'
  exact ⟨hq', hst, htr, submit_closed hq'.closed⟩

/-- Nothing comes after the run of `leftOne`, and a record that is submitted late is refused. -/
theorem exit_quiescent_leftOne : Quiescent leftOne ∧
    Quiescent (submit 512 .logs [8] leftOne).1 ∧
    SameStats leftOne (submit 512 .logs [8] leftOne).1 := by
  obtain ⟨hquiescent, hlater⟩ := (exit_quiescent leftOne_run.of_onlyIf).1 rfl
  have hlate := hlater (.next .start (@Step.submit _ _ 512 leftOne .logs [8] (by decide)))
  exact ⟨hquiescent, hlate.1, hlate.2.1⟩

end OtlpClient.Processor
