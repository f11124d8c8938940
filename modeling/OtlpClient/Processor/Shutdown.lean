import OtlpClient.Processor.Conservation
import OtlpClient.Processor.Order

/-!
# Processor — leaving the block

`__aexit__` closes the processor, cancels the background task, waits for it and flushes once more.

* `run_closing`: that last flush leaves every queue empty, in every run.
* `exit_drains`: what is accepted and not evicted is exported when the block is left, in every run
  in which no task is cancelled while it exports.
* `exit_drops`: a run in which leaving the block cancels an export, and drops its batch.
-/

namespace OtlpClient.Processor

variable {α : Type} {m : Nat} {maxBatch : Int}

/-! ### The last flush -/

/-- What holds once the block is being left: the processor is closed, the last flush has drained the
signals it is past, and when it has returned nothing is queued or being exported. -/
structure Closing (s : State α m) : Prop where
  closed : s.exit ≠ .notEntered → s.closed = true
  draining : ∀ kind batch rest, s.flush .exit = .exporting kind batch rest →
    ∀ k ∈ signals, k ∉ rest → (s.queue k).items = []
  drained : s.exit = .returned →
    (∀ k ∈ signals, (s.queue k).items = []) ∧ ∀ t, ¬ (s.flush t).IsExporting

theorem init_closing : Closing (init : State α m) where
  closed := fun h => absurd rfl h
  draining := nofun
  drained := nofun

theorem Quiet.closing {s s' : State α m} (hq : Quiet s s') (h : Closing s) : Closing s' where
  closed := by
    intro hne
    rcases hq.entered hne with ⟨hne', hc⟩ | hc
    · rw [hc]
      exact h.closed hne'
    · exact hc
  draining := by
    intro kind batch rest hf k hk hnot
    rw [hq.queue]
    exact h.draining kind batch rest ((hq.exporting _ _ _ _).mp hf) k hk hnot
  drained := by
    intro hret
    obtain ⟨hempty, hnone⟩ := h.drained (hq.returned hret)
    refine ⟨fun k hk => by rw [hq.queue]; exact hempty k hk, ?_⟩
    rintro t ⟨kind, batch, rest, hf⟩
    exact hnone t ⟨kind, batch, rest, (hq.exporting _ _ _ _).mp hf⟩

/-- A closed processor takes nothing, so a submission undoes no draining. -/
theorem closing_submit {s : State α m} (hc : Coherent s) (h : Closing s) (kind : SignalKind)
    (records : List α) : Closing (submit maxBatch kind records s).1 := by
  by_cases hcl : s.closed = true
  · unfold submit
    rw [if_pos hcl]
    exact h
  · have hexit : s.exit = .notEntered := by
      by_contra hne
      exact hcl (h.closed hne)
    have hidle := hc.exit (by rw [hexit]; nofun)
    obtain ⟨queue, submitted, dropped, wake, he⟩ := submit_frame maxBatch kind records s
    rw [he]
    refine ⟨h.closed, fun k b r hf => ?_, fun hret => ?_⟩
    · rw [show s.flush .exit = .exporting k b r from hf] at hidle
      cases hidle
    · rw [show s.exit = .returned from hret] at hexit
      cases hexit

/-- Where the loop of `flush` stands after it has gone on: past the signals it has drained, or out
of signals. -/
theorem resume_drains {s : State α m} {t : Task} {kinds : List SignalKind}
    (hd : ∀ k ∈ signals, k ∉ kinds → (s.queue k).items = []) :
    (∃ kind batch rest, (resume s t kinds).1.flush = Function.update s.flush t
        (.exporting kind batch rest) ∧ (resume s t kinds).1.exit = s.exit ∧
        ∀ k ∈ signals, k ∉ rest → ((resume s t kinds).1.queue k).items = []) ∨
      (resume s t kinds).1.flush = Function.update s.flush t .idle ∧
        ∀ k ∈ signals, ((resume s t kinds).1.queue k).items = [] := by
  unfold resume
  cases hn : nextBatch s.queue kinds with
  | some next =>
      obtain ⟨kind, rest⟩ := next
      obtain ⟨before, rfl, hbefore, -⟩ := nextBatch_some hn
      refine Or.inl ⟨kind, (s.queue kind).items, rest, rfl, rfl, fun k hk hnot => ?_⟩
      change (Function.update s.queue kind .empty k).items = []
      by_cases heq : k = kind
      · subst heq
        rw [Function.update_self]
        rfl
      · rw [Function.update_of_ne heq]
        -- A signal that is not to come was drained before, passed over empty, or is this one.
        by_cases hb : k ∈ before
        · exact hbefore k hb
        · refine hd k hk fun hm => ?_
          rcases List.mem_append.mp hm with hm | hm
          · exact hb hm
          · rcases List.mem_cons.mp hm with hm | hm
            · exact heq hm
            · exact hnot hm
  | none =>
      refine Or.inr ⟨returned_flush _ t, fun k hk => ?_⟩
      dsimp only
      rw [returned_queue]
      by_cases hm : k ∈ kinds
      · exact nextBatch_none hn k hm
      · exact hd k hk hm

/-- The loop of `flush`, in the task that leaves the block. -/
theorem closing_resume_exit {s : State α m} {kinds : List SignalKind}
    (hclosed : s.closed = true) (hothers : ∀ t, t ≠ .exit → ¬ (s.flush t).IsExporting)
    (hret : s.exit ≠ .returned)
    (hd : ∀ k ∈ signals, k ∉ kinds → (s.queue k).items = []) :
    Closing (resume s .exit kinds).1 := by
  have hcl : (resume s .exit kinds).1.closed = true := by
    obtain ⟨_, _, _, _, _, _, he⟩ := resume_frame s .exit kinds
    rw [he]
    exact hclosed
  rcases resume_drains (t := .exit) hd with ⟨kind, batch, rest, hf, he, hq⟩ | ⟨hf, hq⟩
  · refine ⟨fun _ => hcl, fun k b r hf' => ?_, fun hr => absurd (he ▸ hr) hret⟩
    rw [hf, Function.update_self] at hf'
    cases hf'
    exact hq
  · refine ⟨fun _ => hcl, fun k b r hf' => ?_, fun _ => ⟨hq, fun t => ?_⟩⟩
    · rw [hf, Function.update_self] at hf'
      cases hf'
    · rw [hf]
      exact not_exporting_update hothers not_isExporting_idle t

/-- The loop of `flush`, in another task. -/
theorem closing_resume_other {s : State α m} {t : Task} {kinds : List SignalKind} (ht : t ≠ .exit)
    (hothers : ∀ t', t' ≠ t → ¬ (s.flush t').IsExporting)
    (hclosed : s.exit ≠ .notEntered → s.closed = true)
    (hdrained : s.exit = .returned → ∀ k ∈ signals, (s.queue k).items = []) (hk : kinds ⊆ signals) :
    Closing (resume s t kinds).1 := by
  have hexit : ∀ (pc : FlushPc α), ¬ (Function.update s.flush t pc .exit).IsExporting := by
    intro pc
    rw [Function.update_of_ne (Ne.symm ht)]
    exact hothers .exit (Ne.symm ht)
  unfold resume
  cases hn : nextBatch s.queue kinds with
  | some next =>
      obtain ⟨kind, rest⟩ := next
      obtain ⟨before, rfl, -, hne⟩ := nextBatch_some hn
      refine ⟨hclosed, fun k b r hf => absurd ⟨k, b, r, hf⟩ (hexit _), fun hret => ?_⟩
      exact absurd (hdrained hret kind (hk (by simp))) hne
  | none =>
      dsimp only
      refine ⟨fun h => ?_, fun k b r hf' => ?_, fun hret => ⟨fun k hk' => ?_, fun t' => ?_⟩⟩
      · rw [returned_exit _ ht] at h
        rw [returned_closed]
        exact hclosed h
      · rw [returned_flush] at hf'
        exact absurd ⟨k, b, r, hf'⟩ (hexit _)
      · rw [returned_exit _ ht] at hret
        rw [returned_queue]
        exact hdrained hret k hk'
      · rw [returned_flush]
        exact not_exporting_update hothers not_isExporting_idle t'

/-- Every step of a coherent state keeps what holds of the leaving. -/
theorem closing_step {s s' : State α m} {a : Action α} {es : List (Event α)}
    (hs : Step maxBatch s a s' es) (hc : Coherent s) (h : Closing s) : Closing s' := by
  rcases hs.cases hc with ⟨kind, records, hk, rfl, rfl⟩ | ⟨hq, hes⟩ | ⟨t, hf, hl, rfl, rfl⟩ |
    ⟨t, kind, batch, rest, result, s₁, hf, hr, rfl, rfl, rfl⟩ |
    ⟨t, kind, batch, rest, hf, rfl, rfl⟩
  · exact closing_submit hc h kind records
  · exact hq.closing h
  · have hothers := hc.lockHeld.others (t := t) (Or.inl hl)
    by_cases ht : t = .exit
    · subst ht
      have he := (hc.flushing (t := .exit) (by rw [hf]; nofun)).2 rfl
      exact closing_resume_exit (s := { s with lock := some .exit })
        (h.closed (by rw [he]; nofun)) hothers
        (by rw [show State.exit _ = .flushing from he]; nofun) fun k hk hnot => absurd hk hnot
    · exact closing_resume_other (s := { s with lock := some t }) ht hothers h.closed
        (fun hret => (h.drained hret).1) (List.Subset.refl _)
  · -- Somebody exports, so the last flush has not returned.
    have hexp : (s.flush t).IsExporting := ⟨_, _, _, hf⟩
    have hothers := hc.lockHeld.others (Or.inr ((hc.lockHeld.holder t).mpr hexp))
    have hret : s.exit ≠ .returned := fun hret => (h.drained hret).2 t hexp
    obtain ⟨exported, dropped, failures, error, hset⟩ := settle_frame s batch result
    rw [hset]
    by_cases ht : t = .exit
    · subst ht
      have he := (hc.flushing (exporting_ne_idle hexp)).2 rfl
      exact closing_resume_exit (h.closed (by rw [he]; nofun)) hothers hret
        (h.draining kind batch rest hf)
    · exact closing_resume_other ht hothers h.closed (fun hr => absurd hr hret)
        (hc.lockHeld.kinds t kind batch rest hf).2
  · have hexp : (s.flush t).IsExporting := ⟨_, _, _, hf⟩
    have hothers := hc.lockHeld.others (Or.inr ((hc.lockHeld.holder t).mpr hexp))
    have hret : s.exit ≠ .returned := fun hret => (h.drained hret).2 t hexp
    have hnone := not_exporting_update hothers not_isExporting_idle
    have hflush : (leaveFlush { settle s batch .cancelled with lock := none } t).flush =
        Function.update s.flush t .idle := left_flush _ t
    refine ⟨fun hne => ?_, fun k b r hf' => ?_, fun hret' => ?_⟩
    · rw [leaveFlush, left_closed]
      refine h.closed fun hnot => ?_
      cases t with
      | exit =>
          rw [(hc.flushing (exporting_ne_idle hexp)).2 rfl] at hnot
          cases hnot
      | background => exact hne hnot
      | caller n => exact hne hnot
    · rw [hflush] at hf'
      exact absurd ⟨k, b, r, hf'⟩ (hnone .exit)
    · cases t with
      | exit => cases hret'
      | background => exact absurd hret' hret
      | caller n => exact absurd hret' hret

theorem run_closing {s : State α m} {tr : List (Event α)} (hr : Run maxBatch s tr) : Closing s :=
  Machine.Run.invariant (I := fun s _ => Closing s) hr init_closing
    fun _ _ _ _ _ hr h hs => closing_step hs (run_coherent hr) h

/-! ### Runs in which exports succeed -/

/-- An export that is not cancelled succeeds, and nobody cancels the task of the block. -/
def Promised (s : State α m) : Action α → Prop
  | .finish t result => result = .success ∨ result = .cancelled ∧ s.cancelling t = true
  | .cancel t => t ≠ .exit
  | _ => True

/-- No task is cancelled while it exports: not by `cancel`, and not by leaving the block, which
cancels the background task. -/
def SparesExports (s : State α m) : Action α → Prop
  | .cancel t => ¬ (s.flush t).IsExporting
  | .exitBlock => ¬ (s.flush .background).IsExporting
  | _ => True

/-- `CancelledError` is due in no task that exports. -/
def Spared (s : State α m) : Prop :=
  ∀ t, (s.flush t).IsExporting → s.cancelling t = false

theorem resume_spared {s : State α m} {t : Task} {kinds : List SignalKind}
    (hothers : ∀ t', t' ≠ t → ¬ (s.flush t').IsExporting) (hc : s.cancelling t = false) :
    Spared (resume s t kinds).1 := by
  intro t' hexp
  rw [resume_cancelling]
  by_cases heq : t' = t
  · rw [heq]
    exact hc
  · rw [resume_flush s t kinds heq] at hexp
    exact absurd hexp (hothers t' heq)

/-- A task that exported before exports no more when it has left `flush`. -/
theorem leaveFlush_spared {s : State α m} {t : Task}
    (h : ∀ t', t' ≠ t → (s.flush t').IsExporting → s.cancelling t' = false) :
    Spared (leaveFlush s t) := by
  intro t' hexp
  rw [leaveFlush, left_flush] at hexp
  rw [leaveFlush, left_cancelling]
  by_cases heq : t' = t
  · subst heq
    exact Function.update_self _ _ _
  · dsimp only at hexp ⊢
    rw [Function.update_of_ne heq] at hexp ⊢
    exact h t' heq hexp

/-- A task that starts to wait for the lock does not export. -/
theorem Spared.acquiring {s : State α m} (h : Spared s) (t : Task) :
    ∀ t', (Function.update s.flush t .acquiring t').IsExporting → s.cancelling t' = false := by
  intro t' hexp
  by_cases heq : t' = t
  · subst heq
    rw [Function.update_self] at hexp
    exact absurd hexp not_isExporting_acquiring
  · rw [Function.update_of_ne heq] at hexp
    exact h t' hexp

theorem spared_step {s s' : State α m} {a : Action α} {es : List (Event α)}
    (hs : Step maxBatch s a s' es) (hc : Coherent s) (hp : Promised s a) (hg : SparesExports s a)
    (h : Spared s) : Spared s' := by
  cases hs with
  | @submit _ kind records hk =>
      obtain ⟨queue, submitted, dropped, wake, he⟩ := submit_frame maxBatch kind records s
      rw [he]
      exact h
  | enter _ _ => exact h
  | start _ _ => exact h
  | wakeUp _ _ => exact h.acquiring .background
  | call _ => exact h.acquiring _
  -- Nobody exports where the lock is free, and nobody but its holder elsewhere.
  | @acquire _ t hf hct hl => exact resume_spared (hc.lockHeld.others (Or.inl hl)) hct
  | @finish _ t kind batch rest result hf hr =>
      have hothers := hc.lockHeld.others (Or.inr ((hc.lockHeld.holder t).mpr ⟨_, _, _, hf⟩))
      obtain ⟨exported, dropped, failures, error, hset⟩ := settle_frame s batch result
      rw [hset]
      exact resume_spared hothers (Function.update_self _ _ _)
  | @abort _ t kind batch rest hf =>
      have hothers := hc.lockHeld.others (Or.inr ((hc.lockHeld.holder t).mpr ⟨_, _, _, hf⟩))
      exact leaveFlush_spared fun t' hne hexp => absurd hexp (hothers t' hne)
  | @cancel _ t ht =>
      rw [cancel_spared fun hx => hp hx.1]
      intro t' hexp
      by_cases heq : t' = t
      · subst heq
        exact absurd hexp hg
      · exact (Function.update_of_ne heq _ _).trans (h t' hexp)
  | deliver _ _ => exact leaveFlush_spared fun t' _ hexp => h t' hexp
  | deliverAcquiring _ _ => exact leaveFlush_spared fun t' _ hexp => h t' hexp
  | exitBlock he =>
      rcases exitBlock_frame s with ⟨-, heq⟩ | ⟨cancelling, heq, hcan⟩
      · rw [heq]
        exact h.acquiring .exit
      · rw [heq]
        intro t hexp
        rcases hcan t with hsame | ⟨rfl, -⟩
        · exact hsame.trans (h t hexp)
        · exact absurd hexp hg
  | join _ _ =>
      intro t' hexp
      have hold := h.acquiring .exit t' hexp
      by_cases heq : t' = .exit
      · rw [heq]
        exact Function.update_self Task.exit false s.cancelling
      · exact (Function.update_of_ne heq _ _).trans hold

/-! ### Nothing is lost -/

theorem lost_appendAll (kind : SignalKind) : ∀ (records : List α) (s : State α m),
    lost (appendAll kind s records).2.1 = 0
  | [], _ => rfl
  | record :: records, s => by
      have ih := lost_appendAll kind records (append kind s record)
      change lost (appendEvents kind s record ++ _) = 0
      rw [lost_append, lost_appendEvents, ih]

theorem lost_submit (kind : SignalKind) (records : List α) (s : State α m) :
    lost (submit maxBatch kind records s).2.1 = 0 := by
  unfold submit
  by_cases hc : s.closed = true
  · rw [if_pos hc]
    rfl
  · rw [if_neg hc]
    exact lost_appendAll kind records s

/-- A step of such a run loses no batch and has none rejected. -/
theorem nothing_lost_step {s s' : State α m} {a : Action α} {es : List (Event α)}
    (hs : Step maxBatch s a s' es) (hp : Promised s a) (h : Spared s) :
    lost es = 0 ∧ rejections es = 0 := by
  cases hs with
  | submit hk => exact ⟨lost_submit _ _ _, rejections_submit _ _ _⟩
  | acquire _ _ _ => exact ⟨(resume_lost _ _ _).2, resume_rejections _ _ _⟩
  | @finish _ t kind batch rest result hf hr =>
      have hsucc : result = .success := by
        rcases hp with hp | hp
        · exact hp
        · exact absurd hp.1 hr
      subst hsucc
      rw [lost_append, rejections_append, (resume_lost _ _ _).2, resume_rejections]
      exact ⟨rfl, rfl⟩
  | @abort _ t kind batch rest hf =>
      rcases hp with hp | ⟨-, hp⟩
      · cases hp
      · rw [h t ⟨_, _, _, hf⟩] at hp
        cases hp
  | _ => exact ⟨rfl, rfl⟩

/-- A run whose exports succeed unless cancelled, and in which none is cancelled. -/
abbrev SparingRun (maxBatch : Int) : State α m → List (Event α) → Prop :=
  Machine.Run ((Step maxBatch).onlyIf fun s a => Promised s a ∧ SparesExports s a) init

theorem sparingRun_lossless {s : State α m} {tr : List (Event α)}
    (hr : SparingRun maxBatch s tr) : Spared s ∧ lost tr = 0 ∧ rejections tr = 0 := by
  refine Machine.Run.invariant
    (I := fun s tr => Spared s ∧ lost tr = 0 ∧ rejections tr = 0) hr ?_ ?_
  · exact ⟨fun t hexp => absurd hexp not_isExporting_idle, rfl, rfl⟩
  · rintro s a s' tr es hrun ⟨hsp, hl, hj⟩ ⟨hs, hp, hg⟩
    obtain ⟨hl', hj'⟩ := nothing_lost_step hs hp hsp
    refine ⟨spared_step hs (run_coherent hrun.of_onlyIf) hp hg hsp, ?_, ?_⟩
    · rw [lost_append, hl, hl']
    · rw [rejections_append, hj, hj']
      rfl

/-- **Shutdown drains where no export is cancelled.**  In every run in which an export that is not
cancelled succeeds, nobody cancels the task of the block, and no task is cancelled while it exports
(the background task by leaving the block, any task by somebody else): once the block is left, the
drops are the evictions, and everything else that was accepted has been exported. -/
theorem exit_drains {s : State α m} {tr : List (Event α)} (hr : SparingRun maxBatch s tr)
    (he : s.exit = .returned) :
    s.dropped = evictions tr ∧ s.exported = s.submitted - evictions tr := by
  have hrun : Run maxBatch s tr := hr.of_onlyIf
  obtain ⟨-, hl, hj⟩ := sparingRun_lossless hr
  have hdrop : s.dropped = evictions tr := by
    have h := dropped_eq hrun
    rw [hl] at h
    omega
  obtain ⟨hempty, hnone⟩ := (run_closing hrun).drained he
  have hqueued : queued s.queue = 0 := by
    simp only [queued, signals, List.map_cons, List.map_nil, List.sum_cons, List.sum_nil]
    rw [hempty .metrics (by decide), hempty .logs (by decide), hempty .traces (by decide)]
    rfl
  have hfl : inFlight s = 0 := by
    rw [inFlight]
    cases hlock : s.lock with
    | none => rfl
    | some t => exact absurd (((run_coherent hrun).lockHeld.holder t).mp hlock) (hnone t)
  have hcons : s.submitted =
      s.exported + s.dropped + queued s.queue + inFlight s + rejections tr := by
    have h : Balanced s tr := run_balanced hrun
    unfold Balanced account at h
    omega
  refine ⟨hdrop, ?_⟩
  rw [hdrop, hqueued, hfl, hj] at hcons
  omega

/-- A record is submitted, and the block is left while the background task waits. -/
def leavingWaiting : State Nat 1 :=
  exitBlock (submit 512 .metrics [7] { (init : State Nat 1) with background := .waiting }).1

/-- The background task has ended, and the last flush exports the record. -/
def leavingOne : State Nat 1 :=
  let s := leaveFlush leavingWaiting .background
  let s := { s with
    exit := .flushing
    flush := Function.update s.flush .exit .acquiring
    cancelling := Function.update s.cancelling .exit false }
  (resume { s with lock := some .exit } .exit signals).1

def leftOne : State Nat 1 :=
  (resume { settle leavingOne [7] .success with
    cancelling := Function.update leavingOne.cancelling .exit false } .exit [.logs, .traces]).1

/-- What has happened until then. -/
def leftOneTrace : List (Event Nat) :=
  [.accepted .metrics 7, .cancelled .background, .handed .metrics [7],
    .settled .metrics [7] .success, .flushed .exit]

theorem leftOne_run : SparingRun 512 leftOne leftOneTrace := by
  have h₀ : SparingRun 512 (init : State Nat 1) [] := .start
  have h₁ := h₀.nextIf (.enter rfl rfl) ⟨trivial, trivial⟩
  have h₂ := h₁.nextIf (.start rfl rfl) ⟨trivial, trivial⟩
  have h₃ := h₂.nextIf (@Step.submit _ _ _ _ .metrics [7] (by decide)) ⟨trivial, trivial⟩
  have h₄ := h₃.nextIf (.exitBlock rfl) ⟨trivial, not_isExporting_idle⟩
  have h₅ := h₄.nextIf (Step.deliver (s := leavingWaiting) (Or.inr rfl) rfl) ⟨trivial, trivial⟩
  have h₆ := h₅.nextIf (.join rfl rfl) ⟨trivial, trivial⟩
  have h₇ := h₆.nextIf (Step.acquire (t := .exit) rfl rfl rfl) ⟨trivial, trivial⟩
  exact h₇.nextIf (@Step.finish _ _ _ leavingOne .exit _ _ _ .success rfl nofun)
    ⟨Or.inl rfl, trivial⟩

theorem exit_drains_leftOne : leftOne.dropped = evictions leftOneTrace ∧
    leftOne.exported = leftOne.submitted - evictions leftOneTrace :=
  exit_drains leftOne_run rfl

/-! ### A drop on leaving the block -/

/-- The background task is exporting a record when the block is left. -/
def leavingBusy : State Nat 1 :=
  let s := (submit 512 .metrics [7] { (init : State Nat 1) with background := .created }).1
  let s := { s with
    wake := false, background := .flushing,
    flush := Function.update s.flush .background .acquiring }
  exitBlock (resume { s with lock := some .background } .background signals).1

/-- Its export is cancelled, and the last flush has nothing to export. -/
def leftBusy : State Nat 1 :=
  let s := leaveFlush { settle leavingBusy [7] .cancelled with lock := none } .background
  let s := { s with
    exit := .flushing
    flush := Function.update s.flush .exit .acquiring
    cancelling := Function.update s.cancelling .exit false }
  (resume { s with lock := some .exit } .exit signals).1

theorem leftBusy_run : Machine.Run ((Step 512).onlyIf Promised) init leftBusy
    [.accepted .metrics 7, .handed .metrics [7], .settled .metrics [7] .cancelled,
      .cancelled .background, .flushed .exit] := by
  have h₀ : Machine.Run ((Step 512).onlyIf Promised) (init : State Nat 1) init [] := .start
  have h₁ := h₀.nextIf (.enter rfl rfl) trivial
  have h₂ := h₁.nextIf (@Step.submit _ _ _ _ .metrics [7] (by decide)) trivial
  have h₃ := h₂.nextIf (.start rfl rfl) trivial
  have h₄ := h₃.nextIf (.wakeUp rfl rfl) trivial
  have h₅ := h₄.nextIf (Step.acquire (t := .background) rfl rfl rfl) trivial
  have h₆ := h₅.nextIf (.exitBlock rfl) trivial
  have h₇ := h₆.nextIf (Step.abort (s := leavingBusy) (t := .background) rfl) (Or.inr ⟨rfl, rfl⟩)
  have h₈ := h₇.nextIf (.join rfl rfl) trivial
  exact h₈.nextIf (Step.acquire (t := .exit) rfl rfl rfl) trivial

/-- Leaving the block while the background task exports drops what it exports. -/
theorem exit_drops : ∃ (s : State Nat 1) (tr : List (Event Nat)),
    Machine.Run ((Step 512).onlyIf Promised) init s tr ∧ s.exit = .returned ∧
      s.dropped ≠ evictions tr :=
  ⟨leftBusy, _, leftBusy_run, rfl, by decide⟩

end OtlpClient.Processor
