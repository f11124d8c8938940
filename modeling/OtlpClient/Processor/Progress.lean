import OtlpClient.Processor.Cancellation
import OtlpClient.Processor.Wakeup
import OtlpClient.Support.Ranks

/-!
# Processor — leaving the block comes to an end

`__aexit__` waits for the background task, for the lock, and for the exports of every other task.

* `Leaving`: where the background task is once the block is being left.
* `Rank`: how many steps the tasks have ahead of them.
* `exit_terminates`: some task can always move until the block has been left, and they move so
  often only.
-/

namespace OtlpClient.Processor

variable {α : Type} {m : Nat} {maxBatch : Int}

/-! ### The tasks of the processor -/

/-- A task that awaits `flush` is in it, and once the block is being left the background task has
ended or is about to. -/
structure Leaving (s : State α m) : Prop where
  background : s.background = .flushing → s.flush .background ≠ .idle
  exit : s.exit = .flushing → s.flush .exit ≠ .idle
  joining : s.exit = .joining → s.background ≠ .absent
  ending : s.exit ≠ .notEntered → s.background = .absent ∨ s.background = .finished ∨
    s.exit = .joining ∧ s.cancelling .background = true

theorem init_leaving : Leaving (init : State α m) := ⟨nofun, nofun, nofun, fun h => absurd rfl h⟩

/-- The background task is cancelled where it has not ended. -/
theorem Leaving.doomed {s : State α m} (h : Leaving s) (hexit : s.exit ≠ .notEntered)
    (ha : s.background ≠ .absent) (hf : s.background ≠ .finished) :
    s.cancelling .background = true := by
  rcases h.ending hexit with hb | hb | ⟨-, hc⟩
  · exact absurd hb ha
  · exact absurd hb hf
  · exact hc

/-- Once the block is being left, the background task gets neither the lock nor a result. -/
theorem Leaving.spared {s : State α m} (h : Leaving s) (hc : Coherent s) {t : Task}
    (hf : s.flush t ≠ .idle) (hcan : s.cancelling t = false) (hexit : s.exit ≠ .notEntered) :
    t ≠ .background := by
  rintro rfl
  have hb := (hc.flushing hf).1 rfl
  rw [h.doomed hexit (by rw [hb]; nofun) (by rw [hb]; nofun)] at hcan
  cases hcan

/-- A task comes to wait, or goes on waiting. -/
theorem Leaving.update {s : State α m} (h : Leaving s) (t : Task) (pc : FlushPc α)
    (hpc : pc ≠ .idle) : Leaving { s with flush := Function.update s.flush t pc } := by
  have hkeep : ∀ t', s.flush t' ≠ .idle → Function.update s.flush t pc t' ≠ .idle := by
    intro t' ht'
    by_cases heq : t' = t
    · rw [heq, Function.update_self]
      exact hpc
    · rw [Function.update_of_ne heq]
      exact ht'
  exact ⟨fun hb => hkeep _ (h.background hb), fun he => hkeep _ (h.exit he), h.joining, h.ending⟩

/-- Another task that is in `flush` stays there. -/
theorem update_ne_idle (flush : Task → FlushPc α) (t : Task) (pc : FlushPc α) (t' : Task)
    (hne : t' ≠ t) (h : flush t' ≠ .idle) : Function.update flush t pc t' ≠ .idle := by
  rw [Function.update_of_ne hne]
  exact h

theorem leaving_resume {s : State α m} (h : Leaving s) {t : Task}
    (hb : t = .background → s.exit = .notEntered) (he : t = .exit → s.exit = .flushing)
    (kinds : List SignalKind) : Leaving (resume s t kinds).1 := by
  have hother := update_ne_idle s.flush t .idle
  unfold resume
  cases nextBatch s.queue kinds with
  | some next =>
      have hkeep := h.update t (.exporting next.1 (s.queue next.1).items next.2) nofun
      exact ⟨hkeep.background, hkeep.exit, hkeep.joining, hkeep.ending⟩
  | none =>
      cases t with
      | background =>
          refine ⟨nofun, fun hx => hother .exit nofun (h.exit hx), fun _ => nofun, fun hx => ?_⟩
          exact absurd (hb rfl) hx
      | exit =>
          refine ⟨fun hx => hother .background nofun (h.background hx), nofun, nofun, fun _ => ?_⟩
          rcases h.ending (by rw [he rfl]; nofun) with hx | hx | ⟨hx, -⟩
          · exact Or.inl hx
          · exact Or.inr (Or.inl hx)
          · rw [he rfl] at hx
            cases hx
      | caller n =>
          exact ⟨fun hx => hother .background nofun (h.background hx),
            fun hx => hother .exit nofun (h.exit hx), h.joining, h.ending⟩

theorem leaving_leaveFlush {s : State α m} (h : Leaving s) {t : Task}
    (he : t = .exit → s.exit = .flushing) : Leaving (leaveFlush s t) := by
  have hother := update_ne_idle s.flush t .idle
  cases t with
  | background =>
      exact ⟨nofun, fun hx => hother .exit nofun (h.exit hx), fun _ => nofun,
        fun _ => Or.inr (Or.inl rfl)⟩
  | exit =>
      refine ⟨fun hx => hother .background nofun (h.background hx), nofun, nofun, fun _ => ?_⟩
      rcases h.ending (by rw [he rfl]; nofun) with hx | hx | ⟨hx, -⟩
      · exact Or.inl hx
      · exact Or.inr (Or.inl hx)
      · rw [he rfl] at hx
        cases hx
  | caller n =>
      refine ⟨fun hx => hother .background nofun (h.background hx),
        fun hx => hother .exit nofun (h.exit hx), h.joining, fun hx => ?_⟩
      rcases h.ending hx with hb | hb | ⟨hj, hc⟩
      · exact Or.inl hb
      · exact Or.inr (Or.inl hb)
      · have hne : Task.background ≠ .caller n := nofun
        exact Or.inr (Or.inr ⟨hj, (Function.update_of_ne hne false s.cancelling).trans hc⟩)

/-- Nobody is spared by a cancellation. -/
theorem cancel_keeps {s : State α m} {t t' : Task} (h : s.cancelling t' = true) :
    (cancel s t).cancelling t' = true := by
  have hupdate : ∀ {cancelling : Task → Bool} (t : Task), cancelling t' = true →
      Function.update cancelling t true t' = true := by
    intro cancelling t hc
    by_cases heq : t' = t
    · rw [heq, Function.update_self]
    · rw [Function.update_of_ne heq]
      exact hc
  unfold cancel cancelBackground
  dsimp only
  split
  · split
    · exact hupdate t h
    · exact hupdate .background (hupdate t h)
  · exact hupdate t h

/-- An export that ends otherwise was not cancelled. -/
theorem Prompt.not_cancelling {s : State α m} {t : Task} {result : ExportResult}
    (hp : Prompt s (.finish t result)) (hr : result ≠ .cancelled) : s.cancelling t = false := by
  cases hcan : s.cancelling t with
  | false => rfl
  | true => exact absurd (hp hcan) hr

/-- Every step in which a cancelled export raises keeps it. -/
theorem leaving_step {s s' : State α m} {a : Action α} {es : List (Event α)}
    (hs : Step maxBatch s a s' es) (hp : Prompt s a) (hc : Coherent s) (h : Leaving s) :
    Leaving s' := by
  have hspared : ∀ {t : Task}, s.flush t ≠ .idle → s.cancelling t = false → t = .background →
      s.exit = .notEntered := by
    intro t hf hcan ht
    by_contra hexit
    exact h.spared hc hf hcan hexit ht
  cases hs with
  | @submit _ kind records hk =>
      obtain ⟨queue, submitted, dropped, wake, he⟩ := submit_frame maxBatch kind records s
      rw [he]
      exact ⟨h.background, h.exit, h.joining, h.ending⟩
  | enter _ he => exact ⟨nofun, h.exit, fun _ => nofun, fun hx => absurd he hx⟩
  | start hb hcan =>
      refine ⟨nofun, h.exit, fun _ => nofun, fun hx => ?_⟩
      rw [h.doomed hx (by rw [hb]; nofun) (by rw [hb]; nofun)] at hcan
      cases hcan
  | wakeUp hb hcan =>
      refine ⟨fun _ => ?_, fun hx => ?_, fun _ => nofun, fun hx => ?_⟩
      · change Function.update s.flush .background .acquiring .background ≠ .idle
        rw [Function.update_self]
        nofun
      · change Function.update s.flush .background .acquiring .exit ≠ .idle
        exact update_ne_idle s.flush .background .acquiring .exit nofun (h.exit hx)
      · rw [h.doomed hx (by rw [hb]; nofun) (by rw [hb]; nofun)] at hcan
        cases hcan
  | call _ => exact h.update _ _ nofun
  | @acquire _ t hf hcan hl =>
      have hne : s.flush t ≠ .idle := by
        rw [hf]
        nofun
      refine leaving_resume (s := { s with lock := some t }) ?_ (hspared hne hcan)
        (hc.flushing hne).2 signals
      exact ⟨h.background, h.exit, h.joining, h.ending⟩
  | @finish _ t kind batch rest result hf hr =>
      have hne : s.flush t ≠ .idle := by
        rw [hf]
        nofun
      have hb := hspared hne (hp.not_cancelling hr)
      obtain ⟨exported, dropped, failures, error, hset⟩ := settle_frame s batch result
      rw [hset]
      refine leaving_resume (s := { s with
        exported := exported, dropped := dropped, consecutiveFailures := failures,
        lastError := error, cancelling := Function.update s.cancelling t false }) ?_ hb
        (hc.flushing hne).2 rest
      refine ⟨h.background, h.exit, h.joining, fun hx => ?_⟩
      have hsame : Function.update s.cancelling t false .background = s.cancelling .background :=
        Function.update_of_ne (fun heq => hx (hb heq.symm)) _ _
      rcases h.ending hx with hb | hb | ⟨hj, hcb⟩
      · exact Or.inl hb
      · exact Or.inr (Or.inl hb)
      · exact Or.inr (Or.inr ⟨hj, hsame.trans hcb⟩)
  | @abort _ t kind batch rest hf =>
      have hne : s.flush t ≠ .idle := by
        rw [hf]
        nofun
      exact leaving_leaveFlush (s := { settle s batch .cancelled with lock := none })
        ⟨h.background, h.exit, h.joining, h.ending⟩ (hc.flushing hne).2
  | @cancel _ t ht =>
      obtain ⟨cancelling, he⟩ := cancel_frame s t
      have hkeep : s.cancelling .background = true → cancelling .background = true := by
        intro hcb
        have hcan := cancel_keeps (t := t) hcb
        rw [he] at hcan
        exact hcan
      rw [he]
      refine ⟨h.background, h.exit, h.joining, fun hx => ?_⟩
      exact (h.ending hx).imp_right (Or.imp_right (And.imp_right hkeep))
  | deliver hb _ => exact leaving_leaveFlush h nofun
  | @deliverAcquiring _ t hf _ =>
      have hne : s.flush t ≠ .idle := by
        rw [hf]
        nofun
      exact leaving_leaveFlush h (hc.flushing hne).2
  | exitBlock he =>
      unfold exitBlock cancelBackground
      by_cases hb : s.background = .absent
      · rw [if_pos hb]
        have hkeep := h.update .exit .acquiring nofun
        refine ⟨hkeep.background, fun _ => ?_, nofun, fun _ => Or.inl hb⟩
        change Function.update s.flush .exit .acquiring .exit ≠ .idle
        rw [Function.update_self]
        nofun
      · rw [if_neg hb]
        by_cases hended : s.background = .absent ∨ s.background = .finished
        · rw [if_pos hended]
          have hfinished := hended.resolve_left hb
          exact ⟨h.background, nofun, fun _ => hb, fun _ => Or.inr (Or.inl hfinished)⟩
        · rw [if_neg hended]
          exact ⟨h.background, nofun, fun _ => hb, fun _ => Or.inr (Or.inr
            ⟨rfl, Function.update_self Task.background true s.cancelling⟩)⟩
  | join he hb =>
      have hkeep := h.update .exit .acquiring nofun
      refine ⟨hkeep.background, fun _ => ?_, nofun, fun _ => Or.inr (Or.inl hb)⟩
      change Function.update s.flush .exit .acquiring .exit ≠ .idle
      rw [Function.update_self]
      nofun

/-! ### How far the tasks have to go -/

/-- How often the task may still move before its flush has ended. -/
def FlushPc.ahead : FlushPc α → Nat
  | .idle => 0
  | .acquiring => 4
  | .exporting _ _ rest => rest.length + 1

/-- How often the two tasks of the processor may move outside `flush`. -/
def State.ahead (s : State α m) : Nat :=
  (if s.exit = .joining then 5 else 0) +
    if s.background = .absent ∨ s.background = .finished then 0 else 1

/-- While the block is being left, the tasks in `flush` are some tasks, and all tasks move so often
at most. -/
def Rank (s : State α m) (n : Nat) : Prop :=
  Coherent s ∧ Leaving s ∧ s.exit ≠ .notEntered ∧ ∃ tasks : Finset Task,
    (∀ t, s.flush t ≠ .idle → t ∈ tasks) ∧ n = s.ahead + ∑ t ∈ tasks, (s.flush t).ahead

/-- The task moves of itself, and not because it is told. -/
def Action.isOwn : Action α → Bool
  | .submit .. | .enter | .call _ | .cancel _ | .exitBlock => false
  | _ => true

/-- A call of `flush`. -/
def Action.isCall : Action α → Bool
  | .call _ => true
  | _ => false

theorem FlushPc.ahead_pos {pc : FlushPc α} (h : pc ≠ .idle) : 1 ≤ pc.ahead := by
  cases pc with
  | idle => exact absurd rfl h
  | acquiring => exact Nat.le_add_left 1 3
  | exporting kind batch rest => exact Nat.le_add_left 1 rest.length

/-- The loop of `flush` has so many signals to go. -/
theorem resume_ahead (s : State α m) (t : Task) (kinds : List SignalKind) :
    ∃ pc, (resume s t kinds).1.flush = Function.update s.flush t pc ∧ pc.ahead ≤ kinds.length ∧
      (t ≠ .background → (resume s t kinds).1.ahead ≤ s.ahead) := by
  unfold resume
  cases hn : nextBatch s.queue kinds with
  | some next =>
      obtain ⟨kind, rest⟩ := next
      obtain ⟨before, rfl, -, -⟩ := nextBatch_some hn
      refine ⟨_, rfl, ?_, fun _ => Nat.le_refl _⟩
      rw [FlushPc.ahead, List.length_append, List.length_cons]
      omega
  | none =>
      refine ⟨.idle, returned_flush _ t, Nat.zero_le _, fun ht => ?_⟩
      cases t with
      | background => exact absurd rfl ht
      | exit =>
          refine Nat.add_le_add_right ?_ _
          exact Nat.zero_le _
      | caller n => exact Nat.le_refl _

theorem leaveFlush_ahead (s : State α m) (t : Task) : (leaveFlush s t).ahead ≤ s.ahead := by
  cases t with
  | background => exact Nat.add_le_add_left (Nat.zero_le _) _
  | exit => exact Nat.add_le_add_right (Nat.zero_le _) _
  | caller n => exact Nat.le_refl _

/-- Nobody goes back into the block. -/
theorem entered_step {s s' : State α m} {a : Action α} {es : List (Event α)}
    (hs : Step maxBatch s a s' es) (h : s.exit ≠ .notEntered) : s'.exit ≠ .notEntered := by
  have hresume : ∀ (s : State α m) (t : Task) (kinds : List SignalKind), s.exit ≠ .notEntered →
      (resume s t kinds).1.exit ≠ .notEntered := by
    intro s t kinds h
    unfold resume
    cases nextBatch s.queue kinds with
    | some next => exact h
    | none =>
        cases t with
        | background => exact h
        | exit => nofun
        | caller n => exact h
  have hleave : ∀ (s : State α m) (t : Task), s.exit ≠ .notEntered →
      (leaveFlush s t).exit ≠ .notEntered := by
    intro s t h
    cases t with
    | background => exact h
    | exit => nofun
    | caller n => exact h
  cases hs with
  | @submit _ kind records hk =>
      obtain ⟨queue, submitted, dropped, wake, he⟩ := submit_frame maxBatch kind records s
      rw [he]
      exact h
  | enter _ _ => exact h
  | start _ _ => exact h
  | wakeUp _ _ => exact h
  | call _ => exact h
  | acquire _ _ _ => exact hresume _ _ _ h
  | @finish _ t kind batch rest result _ _ =>
      refine hresume _ _ _ ?_
      obtain ⟨exported, dropped, failures, error, hset⟩ := settle_frame s batch result
      rw [hset]
      exact h
  | abort _ => exact hleave _ _ h
  | @cancel _ t _ =>
      obtain ⟨cancelling, he⟩ := cancel_frame s t
      rw [he]
      exact h
  | deliver _ _ => exact hleave _ _ h
  | deliverAcquiring _ _ => exact hleave _ _ h
  | exitBlock he => exact absurd he h
  | join _ _ => nofun

/-- Each step a task takes of itself brings it nearer the end. -/
theorem rank_own {s s' : State α m} {a : Action α} {es : List (Event α)} {n : Nat}
    (ha : a.isOwn = true) (hs : Step maxBatch s a s' es) (hp : Prompt s a) (h : Rank s n) :
    ∃ n', Rank s' n' ∧ n' + 1 ≤ n := by
  obtain ⟨hc, hl, hexit, tasks, hall, rfl⟩ := h
  have hc' := hs.coherent hc
  have hl' := leaving_step hs hp hc hl
  have hexit' := entered_step hs hexit
  -- A task in `flush` moves in it, or leaves it.
  have hmove : ∀ {t : Task} (pc : FlushPc α), s.flush t ≠ .idle →
      s'.flush = Function.update s.flush t pc → pc.ahead < (s.flush t).ahead →
      s'.ahead ≤ s.ahead →
      ∃ n', Rank s' n' ∧ n' + 1 ≤ s.ahead + ∑ t ∈ tasks, (s.flush t).ahead := by
    intro t pc hne hflush hlt hahead
    have ht := hall t hne
    refine ⟨_, ⟨hc', hl', hexit', tasks, ?_, rfl⟩, ?_⟩
    · rw [hflush]
      exact mem_of_update ht hall
    · have hsum := sum_update FlushPc.ahead s.flush ht pc
      rw [hflush]
      omega
  cases hs with
  | submit | enter | call | cancel | exitBlock => cases ha
  | start hb hcan =>
      rw [hl.doomed hexit (by rw [hb]; nofun) (by rw [hb]; nofun)] at hcan
      cases hcan
  | wakeUp hb hcan =>
      rw [hl.doomed hexit (by rw [hb]; nofun) (by rw [hb]; nofun)] at hcan
      cases hcan
  | @acquire _ t hf hcan hlock =>
      have hne : s.flush t ≠ .idle := by
        rw [hf]
        nofun
      obtain ⟨pc, hflush, hpc, hahead⟩ := resume_ahead { s with lock := some t } t signals
      refine hmove pc hne hflush ?_ (hahead (hl.spared hc hne hcan hexit))
      rw [hf]
      exact Nat.lt_succ_of_le hpc
  | @finish _ t kind batch rest result hf hr =>
      have hne : s.flush t ≠ .idle := by
        rw [hf]
        nofun
      obtain ⟨pc, hflush, hpc, hahead⟩ := resume_ahead { settle s batch result with
        cancelling := Function.update s.cancelling t false } t rest
      obtain ⟨exported, dropped, failures, error, hset⟩ := settle_frame s batch result
      refine hmove pc hne ?_ ?_ ?_
      · rw [hflush, hset]
      · rw [hf]
        exact Nat.lt_succ_of_le hpc
      · refine (hahead (hl.spared hc hne (hp.not_cancelling hr) hexit)).trans ?_
        rw [hset]
        exact Nat.le_refl _
  | @abort _ t kind batch rest hf =>
      have hne : s.flush t ≠ .idle := by
        rw [hf]
        nofun
      refine hmove .idle hne (left_flush _ t) ?_ (leaveFlush_ahead _ t)
      rw [hf]
      exact Nat.succ_pos _
  | deliver hb hcan =>
      have hidle : s.flush .background = .idle := by
        rcases hb with hb | hb <;> exact hc.background (by rw [hb]; nofun)
      have hflush : (leaveFlush s .background).flush = s.flush :=
        (left_flush _ .background).trans (Function.update_eq_self_iff.mpr hidle.symm)
      refine ⟨_, ⟨hc', hl', hexit', tasks, ?_, rfl⟩, ?_⟩
      · rw [hflush]
        exact hall
      · rw [hflush]
        have hbefore : ¬ (s.background = .absent ∨ s.background = .finished) := by
          rcases hb with hb | hb <;> rw [hb] <;> rintro (hx | hx) <;> cases hx
        have hafter : (leaveFlush s .background).ahead + 1 = s.ahead := by
          rw [State.ahead, State.ahead, if_neg hbefore]
          rfl
        omega
  | @deliverAcquiring _ t hf hcan =>
      have hne : s.flush t ≠ .idle := by
        rw [hf]
        nofun
      refine hmove .idle hne (left_flush _ t) ?_ (leaveFlush_ahead _ t)
      rw [hf]
      exact Nat.succ_pos _
  | join he hb =>
      have hidle := hc.exit (by rw [he]; nofun)
      have hin : Task.exit ∈ insert Task.exit tasks := Finset.mem_insert_self _ _
      refine ⟨_, ⟨hc', hl', hexit', insert .exit tasks, ?_, rfl⟩, ?_⟩
      · exact mem_of_update hin fun t ht => Finset.mem_insert_of_mem (hall t ht)
      · have hsum := sum_update FlushPc.ahead s.flush hin .acquiring
        have hsame : ∑ t ∈ insert .exit tasks, (s.flush t).ahead = ∑ t ∈ tasks, (s.flush t).ahead :=
          Finset.sum_insert_of_eq_zero_if_notMem fun _ => by rw [hidle]; rfl
        have hahead : s.ahead = 5 := by
          rw [State.ahead, if_pos he, if_pos (Or.inr hb)]
        have hahead' : State.ahead { s with
            exit := .flushing
            flush := Function.update s.flush .exit .acquiring
            cancelling := Function.update s.cancelling .exit false } = 0 := by
          rw [State.ahead, if_neg nofun, if_pos (Or.inr hb)]
        rw [hsame, hidle, FlushPc.ahead, FlushPc.ahead] at hsum
        rw [hahead, hahead']
        dsimp only at hsum ⊢
        omega

/-- A call takes some steps, and nothing else does. -/
theorem rank_other {s s' : State α m} {a : Action α} {es : List (Event α)} {n : Nat}
    (ha : a.isOwn = false) (hs : Step maxBatch s a s' es) (hp : Prompt s a) (h : Rank s n) :
    ∃ n', Rank s' n' ∧ n' ≤ n + if a.isCall then 4 else 0 := by
  obtain ⟨hc, hl, hexit, tasks, hall, rfl⟩ := h
  have hc' := hs.coherent hc
  have hl' := leaving_step hs hp hc hl
  have hexit' := entered_step hs hexit
  cases hs with
  | start | wakeUp | acquire | finish | abort | deliver | deliverAcquiring | join => cases ha
  | @submit _ kind records hk =>
      obtain ⟨queue, submitted, dropped, wake, he⟩ := submit_frame maxBatch kind records s
      rw [he] at hc' hl' hexit' ⊢
      exact ⟨_, ⟨hc', hl', hexit', tasks, hall, rfl⟩, Nat.le_refl _⟩
  | enter _ he => exact absurd he hexit
  | @call _ c hf =>
      have hin : Task.caller c ∈ insert (.caller c) tasks := Finset.mem_insert_self _ _
      refine ⟨_, ⟨hc', hl', hexit', insert (.caller c) tasks, ?_, rfl⟩, ?_⟩
      · exact mem_of_update hin fun t ht => Finset.mem_insert_of_mem (hall t ht)
      · have hsum := sum_update FlushPc.ahead s.flush hin .acquiring
        have hsame : ∑ t ∈ insert (.caller c) tasks, (s.flush t).ahead =
            ∑ t ∈ tasks, (s.flush t).ahead :=
          Finset.sum_insert_of_eq_zero_if_notMem fun _ => by rw [hf]; rfl
        rw [hsame, hf, FlushPc.ahead, FlushPc.ahead] at hsum
        change s.ahead + _ ≤ s.ahead + _ + 4
        dsimp only at hsum ⊢
        omega
  | @cancel _ t _ =>
      obtain ⟨cancelling, he⟩ := cancel_frame s t
      rw [he] at hc' hl' hexit' ⊢
      exact ⟨_, ⟨hc', hl', hexit', tasks, hall, rfl⟩, Nat.le_refl _⟩
  | exitBlock he => exact absurd he hexit

/-! ### Somebody can move -/

/-- A task in `flush` can move, or waits for one that can. -/
theorem flush_moves {s : State α m} (hc : Coherent s) {t : Task} (hne : s.flush t ≠ .idle) :
    ∃ a s' es, a.isOwn = true ∧ Prompt s a ∧ Step maxBatch s a s' es := by
  -- An export may end, and one that is cancelled ends with it.
  have hexport : ∀ {t : Task} {kind : SignalKind} {batch : List α} {rest : List SignalKind},
      s.flush t = .exporting kind batch rest →
      ∃ a s' es, a.isOwn = true ∧ Prompt s a ∧ Step maxBatch s a s' es := by
    intro t kind batch rest hf
    cases hcan : s.cancelling t with
    | true => exact ⟨.finish t .cancelled, _, _, rfl, fun _ => rfl, .abort hf⟩
    | false =>
        refine ⟨.finish t .success, _, _, rfl, fun h => ?_, .finish hf nofun⟩
        rw [hcan] at h
        cases h
  cases hf : s.flush t with
  | idle => exact absurd hf hne
  | exporting kind batch rest => exact hexport hf
  | acquiring =>
      cases hcan : s.cancelling t with
      | true => exact ⟨.deliver t, _, _, rfl, trivial, .deliverAcquiring hf hcan⟩
      | false =>
          cases hlock : s.lock with
          | none => exact ⟨.acquire t, _, _, rfl, trivial, .acquire hf hcan hlock⟩
          | some holder =>
              obtain ⟨kind, batch, rest, hx⟩ := (hc.lockHeld.holder holder).mp hlock
              exact hexport hx

/-- While the block is being left, some task can. -/
theorem Leaving.moves {s : State α m} (h : Leaving s) (hc : Coherent s)
    (hexit : s.exit = .joining ∨ s.exit = .flushing) :
    ∃ a s' es, a.isOwn = true ∧ Prompt s a ∧ Step maxBatch s a s' es := by
  rcases hexit with hj | hf
  · have hdoomed : s.background ≠ .finished → s.cancelling .background = true :=
      h.doomed (by rw [hj]; nofun) (h.joining hj)
    cases hb : s.background with
    | absent => exact absurd hb (h.joining hj)
    | created =>
        have hcan := hdoomed (by rw [hb]; nofun)
        exact ⟨.deliver .background, _, _, rfl, trivial, .deliver (Or.inl hb) hcan⟩
    | waiting =>
        have hcan := hdoomed (by rw [hb]; nofun)
        exact ⟨.deliver .background, _, _, rfl, trivial, .deliver (Or.inr hb) hcan⟩
    | flushing => exact flush_moves hc (h.background hb)
    | finished => exact ⟨.join, _, _, rfl, trivial, .join hj hb⟩
  · exact flush_moves hc (h.exit hf)

/-! ### The law -/

/-- A step moves one task in `flush` at most. -/
theorem flush_step {s s' : State α m} {a : Action α} {es : List (Event α)}
    (hs : Step maxBatch s a s' es) :
    s'.flush = s.flush ∨ ∃ t pc, s'.flush = Function.update s.flush t pc := by
  cases hs with
  | @submit _ kind records hk =>
      obtain ⟨queue, submitted, dropped, wake, he⟩ := submit_frame maxBatch kind records s
      rw [he]
      exact Or.inl rfl
  | enter _ _ => exact Or.inl rfl
  | start _ _ => exact Or.inl rfl
  | wakeUp _ _ => exact Or.inr ⟨_, _, rfl⟩
  | call _ => exact Or.inr ⟨_, _, rfl⟩
  | @acquire _ t _ _ _ =>
      obtain ⟨pc, hflush, -, -⟩ := resume_ahead { s with lock := some t } t signals
      exact Or.inr ⟨t, pc, hflush⟩
  | @finish _ t kind batch rest result _ _ =>
      obtain ⟨pc, hflush, -, -⟩ := resume_ahead { settle s batch result with
        cancelling := Function.update s.cancelling t false } t rest
      obtain ⟨exported, dropped, failures, error, hset⟩ := settle_frame s batch result
      refine Or.inr ⟨t, pc, ?_⟩
      rw [hflush, hset]
  | abort _ => exact Or.inr ⟨_, _, left_flush _ _⟩
  | @cancel _ t _ =>
      obtain ⟨cancelling, he⟩ := cancel_frame s t
      rw [he]
      exact Or.inl rfl
  | deliver _ _ => exact Or.inr ⟨_, _, left_flush _ _⟩
  | deliverAcquiring _ _ => exact Or.inr ⟨_, _, left_flush _ _⟩
  | exitBlock _ =>
      rcases exitBlock_frame s with ⟨-, heq⟩ | ⟨cancelling, heq, -⟩
      · rw [heq]
        exact Or.inr ⟨_, _, rfl⟩
      · rw [heq]
        exact Or.inl rfl
  | join _ _ => exact Or.inr ⟨_, _, rfl⟩

/-- The tasks in `flush` are some tasks. -/
theorem tasks_finite {s : State α m} {tr : List (Event α)} (hr : Run maxBatch s tr) :
    ∃ tasks : Finset Task, ∀ t, t ∈ tasks ↔ s.flush t ≠ .idle := by
  classical
  have hinv : ∃ tasks : Finset Task, ∀ t, s.flush t ≠ .idle → t ∈ tasks := by
    refine Machine.Run.invariant
      (I := fun s _ => ∃ tasks : Finset Task, ∀ t, s.flush t ≠ .idle → t ∈ tasks) hr
      ⟨∅, fun t ht => absurd rfl ht⟩ ?_
    rintro s a s' tr es - ⟨tasks, hall⟩ hs
    rcases flush_step hs with hsame | ⟨t, pc, hmoved⟩
    · rw [hsame]
      exact ⟨tasks, hall⟩
    · rw [hmoved]
      exact ⟨insert t tasks, mem_of_update (Finset.mem_insert_self _ _) fun t' ht' =>
        Finset.mem_insert_of_mem (hall t' ht')⟩
  obtain ⟨tasks, hall⟩ := hinv
  refine ⟨tasks.filter fun t => s.flush t ≠ .idle, fun t => ?_⟩
  rw [Finset.mem_filter]
  exact and_iff_right_of_imp (hall t)

/-- So often the tasks move at most. -/
theorem rank_le {s : State α m} {tr : List (Event α)} (hr : Run maxBatch s tr)
    (tasks : Finset Task) :
    s.ahead + ∑ t ∈ tasks, (s.flush t).ahead ≤ 6 + 4 * tasks.card := by
  have horder : InOrder s.flush :=
    Machine.Run.invariant (I := fun s _ => InOrder s.flush) hr nofun
      fun _ _ _ _ _ hr h hs => inOrder_step hs (run_coherent hr) h
  have hone : ∀ t ∈ tasks, (s.flush t).ahead ≤ 4 := by
    intro t _
    cases hf : s.flush t with
    | idle => exact Nat.zero_le 4
    | acquiring => exact Nat.le_refl 4
    | exporting kind batch rest =>
        have hlen := (horder t kind batch rest hf).length_le
        rw [List.length_cons] at hlen
        exact hlen.trans (by decide)
  have hsum := Finset.sum_le_card_nsmul tasks _ 4 hone
  have hahead : s.ahead ≤ 6 := by
    refine Nat.add_le_add (b := 5) (d := 1) ?_ ?_
    · split
      · exact Nat.le_refl 5
      · exact Nat.zero_le 5
    · split
      · exact Nat.zero_le 1
      · exact Nat.le_refl 1
  rw [Nat.nsmul_eq_mul] at hsum
  omega

/-- And at least once, until the block has been left. -/
theorem Rank.pos {s : State α m} {n : Nat} (h : Rank s n)
    (hexit : s.exit = .joining ∨ s.exit = .flushing) : 1 ≤ n := by
  obtain ⟨-, hl, -, tasks, hall, rfl⟩ := h
  rcases hexit with hj | hf
  · rw [State.ahead, if_pos hj]
    omega
  · have hne := hl.exit hf
    have hone := Finset.single_le_sum (f := fun t => (s.flush t).ahead)
      (fun t _ => Nat.zero_le _) (hall .exit hne)
    have hpos := FlushPc.ahead_pos hne
    omega

/-- **Leaving the block comes to an end.**  Where an export that is cancelled ends with it, and from
any moment at which the block is being left: until it has been, some task can move of itself, and
they do so six times at most, and four times more for each task that is in `flush` or calls it
later. -/
theorem exit_terminates {s : State α m} {tr : List (Event α)}
    (hr : Machine.Run ((Step maxBatch).onlyIf Prompt) init s tr)
    (hexit : s.exit = .joining ∨ s.exit = .flushing) :
    ∃ tasks : Finset Task, (∀ t, t ∈ tasks ↔ s.flush t ≠ .idle) ∧
      ∀ (s' : State α m) (as : List (Action α)),
        Machine.Run ((Step maxBatch).onlyIf Prompt).taken s s' as →
        as.countP Action.isOwn ≤ 6 + 4 * (tasks.card + as.countP Action.isCall) ∧
          ((s'.exit = .returned ∨ s'.exit = .raised) ∨
            as.countP Action.isOwn < 6 + 4 * (tasks.card + as.countP Action.isCall) ∧
              ∃ a s'' es, a.isOwn = true ∧ Prompt s' a ∧ Step maxBatch s' a s'' es) := by
  obtain ⟨tasks, htasks⟩ := tasks_finite hr.of_onlyIf
  refine ⟨tasks, htasks, fun s' as h => ?_⟩
  have hinv : Coherent s ∧ Leaving s := by
    refine Machine.Run.invariant (I := fun s _ => Coherent s ∧ Leaving s) hr
      ⟨init_coherent, init_leaving⟩ ?_
    rintro s a s' tr es - ⟨hc, hl⟩ ⟨hs, hp⟩
    exact ⟨hs.coherent hc, leaving_step hs hp hc hl⟩
  have hentered : s.exit ≠ .notEntered := by
    rcases hexit with he | he <;> rw [he] <;> nofun
  have h₀ : Rank s (s.ahead + ∑ t ∈ tasks, (s.flush t).ahead) :=
    ⟨hinv.1, hinv.2, hentered, tasks, fun t => (htasks t).mpr, rfl⟩
  obtain ⟨n, hn, hle⟩ := h.taken_le h₀
    (fun _ _ _ _ _ ha hs hn => rank_own ha hs.1 hs.2 hn)
    (fun _ _ _ _ _ ha hs hn => rank_other ha hs.1 hs.2 hn)
  have hbound := rank_le hr.of_onlyIf tasks
  change as.countP Action.isOwn + n ≤ _ + 4 * as.countP Action.isCall at hle
  refine ⟨by omega, ?_⟩
  obtain ⟨hc, hl, hexit', -⟩ := id hn
  cases he : s'.exit with
  | notEntered => exact absurd he hexit'
  | returned => exact Or.inl (Or.inl rfl)
  | raised => exact Or.inl (Or.inr rfl)
  | joining =>
      have hpos := hn.pos (Or.inl he)
      exact Or.inr ⟨by omega, hl.moves hc (Or.inl he)⟩
  | flushing =>
      have hpos := hn.pos (Or.inr he)
      exact Or.inr ⟨by omega, hl.moves hc (Or.inr he)⟩

/-- Nobody is in `flush`, so six steps are left, and four for each call; and the first can be taken
now. -/
theorem exit_terminates_cancelledJoin :
    (∀ (s' : State Nat 1) (as : List (Action Nat)),
      Machine.Run ((Step 512).onlyIf Prompt).taken cancelledJoin s' as →
        as.countP Action.isOwn ≤ 6 + 4 * as.countP Action.isCall) ∧
      ∃ a s'' es, a.isOwn = true ∧ Prompt cancelledJoin a ∧ Step 512 cancelledJoin a s'' es := by
  obtain ⟨tasks, htasks, hle⟩ := exit_terminates cancelledJoin_run (Or.inl rfl)
  have hnone : tasks = ∅ :=
    Finset.eq_empty_of_forall_notMem fun t ht => (htasks t).mp ht rfl
  refine ⟨fun s' as h => ?_, ?_⟩
  · have hcount := (hle s' as h).1
    rw [hnone, Finset.card_empty, Nat.zero_add] at hcount
    exact hcount
  · rcases (hle cancelledJoin [] .start).2 with (he | he) | ⟨-, hmove⟩
    · cases he
    · cases he
    · exact hmove

end OtlpClient.Processor
