import Mathlib.Algebra.BigOperators.Group.List.Basic
import OtlpClient.Processor.Coherence

/-!
# Processor — no record is lost or counted twice

* `account`: what the counters and the queues say, without the batch in flight.
* `account_submit`, `account_resume`, `account_settle`: what each stretch of code does to it.
* `records_conserved`: the law, in every state a run reaches.
-/

namespace OtlpClient.Processor

variable {α : Type} {m : Nat} {maxBatch : Int}

/-- The total length of the queues. -/
def queued (queue : SignalKind → Deque α m) : Nat :=
  (signals.map fun kind => (queue kind).items.length).sum

/-- The length of the batch a task exports, if any. -/
def FlushPc.batchLength : FlushPc α → Nat
  | .exporting _ batch _ => batch.length
  | _ => 0

/-- The length of the batch that is being exported, if any. -/
def inFlight (s : State α m) : Nat :=
  match s.lock with
  | some t => (s.flush t).batchLength
  | none => 0

/-- What a partial success says was rejected, of the batch it is about. -/
def Event.rejection : Event α → Int
  | .settled _ batch (.partialSuccess p) => min p.rejected batch.length
  | _ => 0

/-- What all partial successes so far say was rejected. -/
def rejections (tr : List (Event α)) : Int := (tr.map Event.rejection).sum

/-- What is exported, dropped or queued, less what was submitted. -/
def account (s : State α m) : Int :=
  s.exported + s.dropped + queued s.queue - s.submitted

theorem rejections_append (tr tr' : List (Event α)) :
    rejections (tr ++ tr') = rejections tr + rejections tr' := by
  rw [rejections, List.map_append, List.sum_append]
  rfl

/-- Replacing the queue of a signal. -/
theorem queued_update (queue : SignalKind → Deque α m) {kind : SignalKind} (hk : kind ∈ signals)
    (d : Deque α m) :
    queued (Function.update queue kind d) + (queue kind).items.length =
      queued queue + d.items.length := by
  simp only [queued, signals, List.map_cons, List.map_nil, List.sum_cons, List.sum_nil]
  cases kind with
  | metrics => simp; omega
  | logs => simp; omega
  | traces => simp; omega
  | profiles => exact absurd hk (by decide)

/-! ### Submitting -/

/-- A record appended is a record queued, or one queued and one dropped. -/
theorem account_append {kind : SignalKind} (hk : kind ∈ signals) (s : State α m) (record : α) :
    account (append kind s record) = account s := by
  have hq := queued_update s.queue hk ((s.queue kind).append record)
  have hlen := congrArg List.length ((s.queue kind).evicted_append record)
  rw [List.length_append, List.length_append, Deque.length_evicted, List.length_singleton] at hlen
  simp only [account, append]
  by_cases hf : (s.queue kind).IsFull
  · rw [if_pos hf] at hlen ⊢
    omega
  · rw [if_neg hf] at hlen ⊢
    omega

theorem account_appendAll {kind : SignalKind} (hk : kind ∈ signals) :
    ∀ (records : List α) (s : State α m), account (appendAll kind s records).1 = account s
  | [], _ => rfl
  | record :: records, s => by
      have ih := account_appendAll hk records (append kind s record)
      rw [account_append hk] at ih
      exact ih

theorem account_submit {kind : SignalKind} (hk : kind ∈ signals) (records : List α)
    (s : State α m) : account (submit maxBatch kind records s).1 = account s := by
  unfold submit
  by_cases hc : s.closed = true
  · rw [if_pos hc]
  · rw [if_neg hc]
    exact account_appendAll hk records s

/-- Appends put out no partial success. -/
theorem rejections_appendAll (kind : SignalKind) : ∀ (records : List α) (s : State α m),
    rejections (appendAll kind s records).2.1 = 0
  | [], _ => rfl
  | record :: records, s => by
      have ih := rejections_appendAll kind records (append kind s record)
      have hev : ∀ l : List α, rejections (l.map (Event.evicted kind)) = 0 := by
        intro l
        induction l with
        | nil => rfl
        | cons r l ih =>
            rw [List.map_cons, rejections, List.map_cons, List.sum_cons]
            exact (zero_add _).trans ih
      have happ : rejections (appendEvents kind s record) = 0 := by
        rw [appendEvents, rejections, List.map_cons, List.sum_cons]
        exact (zero_add _).trans (hev _)
      change rejections (appendEvents kind s record ++ _) = 0
      rw [rejections_append, happ, ih, add_zero]

theorem rejections_submit (kind : SignalKind) (records : List α) (s : State α m) :
    rejections (submit maxBatch kind records s).2.1 = 0 := by
  unfold submit
  by_cases hc : s.closed = true
  · rw [if_pos hc]
    rfl
  · rw [if_neg hc]
    exact rejections_appendAll kind records s

/-! ### Flushing -/

theorem resume_rejections (s : State α m) (t : Task) (kinds : List SignalKind) :
    rejections (resume s t kinds).2 = 0 := by
  rcases resume_event s t kinds with ⟨kind, batch, hes⟩ | hes
  · rw [hes]
    rfl
  · rw [hes]
    rfl

/-- Draining a queue puts its records in flight. -/
theorem account_resume {s : State α m} {t : Task} {kinds : List SignalKind}
    (hlock : s.lock = some t) (hkinds : kinds ⊆ signals) :
    account (resume s t kinds).1 + inFlight (resume s t kinds).1 = account s := by
  unfold resume
  cases hn : nextBatch s.queue kinds with
  | some next =>
      obtain ⟨kind, rest⟩ := next
      obtain ⟨before, rfl, -, -⟩ := nextBatch_some hn
      have hk : kind ∈ signals := hkinds (by simp)
      have hq := queued_update s.queue hk .empty
      simp only [account, inFlight, hlock, Function.update_self, FlushPc.batchLength]
      rw [Deque.items_empty, List.length_nil] at hq
      omega
  | none => simp [account, inFlight]

/-- A batch that is settled is exported, rejected or dropped. -/
theorem account_settle (s : State α m) (kind : SignalKind) (batch : List α)
    (result : ExportResult) :
    account (settle s batch result) + rejections (settleEvents s kind batch result) =
      account s + batch.length := by
  cases result with
  | success =>
      simp only [account, settle, settleEvents, rejections, Event.rejection, List.map_cons,
        List.map_nil, List.sum_cons, List.sum_nil]
      omega
  | partialSuccess p =>
      simp only [account, settle, settleEvents, rejections, Event.rejection, List.map_cons,
        List.map_nil, List.sum_cons, List.sum_nil]
      omega
  | raised message =>
      simp only [account, settle, settleEvents, rejections, Event.rejection, List.map_cons,
        List.map_nil, List.sum_cons, List.sum_nil]
      omega
  | cancelled =>
      simp only [account, settle, settleEvents, rejections, Event.rejection, List.map_cons,
        List.map_nil, List.sum_cons, List.sum_nil]
      omega

theorem inFlight_exporting {s : State α m} (h : Coherent s) {t : Task} {kind : SignalKind}
    {batch : List α} {rest : List SignalKind} (hf : s.flush t = .exporting kind batch rest) :
    inFlight s = batch.length := by
  rw [inFlight, (h.lockHeld.holder t).mpr ⟨_, _, _, hf⟩]
  change (s.flush t).batchLength = batch.length
  rw [hf]
  rfl

theorem Quiet.inFlight {s s' : State α m} (h : Quiet s s') : inFlight s' = inFlight s := by
  unfold Processor.inFlight
  rw [h.lock]
  cases s.lock with
  | none => rfl
  | some t =>
      change (s'.flush t).batchLength = (s.flush t).batchLength
      cases hf : s.flush t with
      | exporting kind batch rest => rw [(h.exporting t kind batch rest).mpr hf]
      | idle | acquiring =>
          cases hf' : s'.flush t with
          | exporting kind batch rest =>
              rw [(h.exporting t kind batch rest).mp hf'] at hf
              cases hf
          | idle | acquiring => rfl

theorem Quiet.account {s s' : State α m} (h : Quiet s s') : account s' = account s := by
  rw [Processor.account, h.exported, h.dropped, h.queue, h.submitted]
  rfl

theorem settle_lock (s : State α m) (batch : List α) (result : ExportResult) :
    (settle s batch result).lock = s.lock := by
  cases result <;> rfl

/-- A cancelled task holds no batch and changes no counter when it leaves. -/
theorem account_leaveFlush {s : State α m} (t : Task) (hl : s.lock = none) :
    account (leaveFlush s t) = account s ∧ inFlight (leaveFlush s t) = 0 := by
  simp [account, inFlight, leaveFlush, hl]

/-! ### The law -/

/-- Every record is accounted for. -/
def Balanced (s : State α m) (tr : List (Event α)) : Prop :=
  account s + inFlight s + rejections tr = 0

theorem balanced_step {s s' : State α m} {a : Action α} {tr es : List (Event α)}
    (hs : Step maxBatch s a s' es) (hc : Coherent s) (h : Balanced s tr) :
    Balanced s' (tr ++ es) := by
  unfold Balanced at h ⊢
  rw [rejections_append]
  rcases hs.cases hc with ⟨kind, records, hk, rfl, rfl⟩ | ⟨hq, hes⟩ | ⟨t, hf, hl, rfl, rfl⟩ |
    ⟨t, kind, batch, rest, result, s₁, hf, hr, rfl, rfl, rfl⟩ |
    ⟨t, kind, batch, rest, hf, rfl, rfl⟩
  · obtain ⟨queue, submitted, dropped, wake, he⟩ := submit_frame maxBatch kind records s
    have hfl : inFlight (submit maxBatch kind records s).1 = inFlight s := by
      rw [he]
      rfl
    rw [account_submit hk, hfl, rejections_submit]
    omega
  · have hz : rejections es = 0 := by
      rcases hes with rfl | ⟨t, rfl⟩ <;> rfl
    rw [hq.account, hq.inFlight, hz]
    omega
  · have hz : inFlight s = 0 := by rw [inFlight, hl]
    have hsame : account { s with lock := some t } = account s := rfl
    have hacc := account_resume (s := { s with lock := some t }) rfl (List.Subset.refl signals)
    rw [resume_rejections]
    omega
  · -- The batch in flight is settled, and the next one put in flight.
    have hlock := (hc.lockHeld.holder t).mpr ⟨_, _, _, hf⟩
    have hset := account_settle s kind batch result
    have hsame : account { settle s batch result with
      cancelling := Function.update s.cancelling t false } = account (settle s batch result) := rfl
    have hacc := account_resume (s := { settle s batch result with
      cancelling := Function.update s.cancelling t false })
      ((settle_lock s batch result).trans hlock) (hc.lockHeld.kinds t kind batch rest hf).2
    rw [inFlight_exporting hc hf] at h
    rw [rejections_append, resume_rejections]
    omega
  · have hset := account_settle s kind batch .cancelled
    have hsame : account { settle s batch .cancelled with lock := none } =
      account (settle s batch .cancelled) := rfl
    obtain ⟨hacc, hfl⟩ := account_leaveFlush
      (s := { settle s batch .cancelled with lock := none }) t rfl
    have hrej : rejections [(Event.cancelled t : Event α)] = 0 := rfl
    rw [inFlight_exporting hc hf] at h
    rw [rejections_append, hrej, hacc, hfl]
    omega

theorem run_balanced {s : State α m} {tr : List (Event α)} (hr : Run maxBatch s tr) :
    Balanced s tr :=
  Machine.Run.invariant hr rfl fun _ _ _ _ _ hr h hs => balanced_step hs (run_coherent hr) h

/-- **No record is lost or counted twice.**  At every suspension point of every run, what was
submitted is exported, dropped, queued, being exported, or rejected by a partial success. -/
theorem records_conserved {s : State α m} {tr : List (Event α)} (hr : Run maxBatch s tr) :
    s.submitted = s.exported + s.dropped + queued s.queue + inFlight s + rejections tr := by
  have h := run_balanced hr
  unfold Balanced account at h
  omega

theorem records_conserved_exportingOne :
    exportingOne.submitted = exportingOne.exported + exportingOne.dropped +
      queued exportingOne.queue + inFlight exportingOne + rejections exportingOneTrace :=
  records_conserved exportingOne_run

end OtlpClient.Processor
