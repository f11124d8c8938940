import OtlpClient.Processor.Coherence
import OtlpClient.Support.History

/-!
# Processor — order, duplicates and drops

The queue of a signal at any moment is what was accepted and has not left, so what left and what is
queued is what was accepted, in order.

* `Ordered`: that, with the oldest record being the one an append drops.
* `dropped_eq`: the drops are the evictions of each signal and the batches that failed.
* `submit_accepted`: when a call says that nothing was dropped.
* `order_and_drops`: all of it, for every run.
-/

namespace OtlpClient.Processor

variable {α : Type} {m : Nat} {maxBatch : Int}

/-! ### Reading a history -/

section History

variable (kind : SignalKind)

/-- The record of the signal that an event accepts. -/
def Event.accepts : Event α → List α
  | .accepted k record => if k = kind then [record] else []
  | _ => []

/-- The record of the signal that an event drops from a full queue. -/
def Event.evicts : Event α → List α
  | .evicted k record => if k = kind then [record] else []
  | _ => []

/-- The batch of the signal that an event hands to the client. -/
def Event.hands : Event α → List α
  | .handed k batch => if k = kind then batch else []
  | _ => []

/-- The records of the signal that leave the queue. -/
def Event.departs (e : Event α) : List α := e.hands kind ++ e.evicts kind

/-- The records accepted so far, in order. -/
def accepted (tr : List (Event α)) : List α := tr.flatMap (Event.accepts kind)

/-- The records dropped from a full queue so far, in order. -/
def evicted (tr : List (Event α)) : List α := tr.flatMap (Event.evicts kind)

/-- The batches handed to the client so far, one after the other. -/
def handed (tr : List (Event α)) : List α := tr.flatMap (Event.hands kind)

/-- The records that have left the queue so far, in order. -/
def departed (tr : List (Event α)) : List α := tr.flatMap (Event.departs kind)

/-- What an event takes out of a queue it either hands over or drops. -/
theorem parted_departed (tr : List (Event α)) :
    Parted (handed kind tr) (evicted kind tr) (departed kind tr) := by
  induction tr with
  | nil => exact .nil
  | cons e tr ih =>
      have he : Parted (e.hands kind) (e.evicts kind) (e.departs kind) := by
        have h := (Parted.kept (e.hands kind)).append (Parted.taken (e.evicts kind))
        rwa [List.append_nil, List.nil_append] at h
      simp only [handed, evicted, departed, List.flatMap_cons]
      exact he.append ih

/-- The records of batches whose export failed or was cancelled, counted. -/
def Event.lost : Event α → Nat
  | .settled _ batch (.raised _) => batch.length
  | .settled _ batch .cancelled => batch.length
  | _ => 0

def lost (tr : List (Event α)) : Nat := (tr.map Event.lost).sum

end History

/-- A record that an append drops is the oldest of a full queue. -/
def OldestOfFull (m : Nat) (pre : List (Event α)) : Event α → Prop
  | .evicted kind record => ∃ before newer queue, pre = before ++ [.accepted kind newer] ∧
      accepted kind before = departed kind before ++ record :: queue ∧
      (record :: queue).length = m
  | _ => True

/-- Each queue is what was accepted and has not left, and every drop was of the oldest. -/
structure Ordered (queue : SignalKind → Deque α m) (tr : List (Event α)) : Prop where
  queue : ∀ kind, accepted kind tr = departed kind tr ++ (queue kind).items
  evictions : Always (OldestOfFull m) tr

/-! ### Appending -/

theorem accepts_evicted (kind k : SignalKind) (l : List α) :
    (l.map (Event.evicted kind)).flatMap (Event.accepts k) = [] := by
  induction l with
  | nil => rfl
  | cons x l ih => exact ih

theorem departs_evicted (kind k : SignalKind) (l : List α) :
    (l.map (Event.evicted kind)).flatMap (Event.departs k) = if kind = k then l else [] := by
  induction l with
  | nil => simp
  | cons x l ih =>
      rw [List.map_cons, List.flatMap_cons, ih]
      by_cases hk : kind = k
      · simp [Event.departs, Event.hands, Event.evicts, hk]
      · simp [Event.departs, Event.hands, Event.evicts, hk]

theorem accepts_appendEvents (kind k : SignalKind) (s : State α m) (record : α) :
    (appendEvents kind s record).flatMap (Event.accepts k) =
      if kind = k then [record] else [] := by
  rw [appendEvents, List.flatMap_cons, accepts_evicted, List.append_nil]
  rfl

theorem departs_appendEvents (kind k : SignalKind) (s : State α m) (record : α) :
    (appendEvents kind s record).flatMap (Event.departs k) =
      if kind = k then (s.queue kind).evicted record else [] := by
  rw [appendEvents, List.flatMap_cons, departs_evicted]
  rfl

/-- Appending a record keeps the order. -/
theorem Ordered.append (hm : 1 ≤ m) {s : State α m} {tr : List (Event α)}
    (h : Ordered s.queue tr) (kind : SignalKind) (record : α) :
    Ordered (append kind s record).queue (tr ++ appendEvents kind s record) where
  queue := by
    intro k
    rw [accepted, departed, List.flatMap_append, List.flatMap_append, accepts_appendEvents,
      departs_appendEvents]
    change accepted k tr ++ _ = departed k tr ++ _ ++
      (Function.update s.queue kind ((s.queue kind).append record) k).items
    rw [h.queue k]
    by_cases hk : kind = k
    · subst hk
      rw [if_pos rfl, if_pos rfl, Function.update_self, List.append_assoc, List.append_assoc,
        Deque.evicted_append]
    · rw [if_neg hk, if_neg hk, Function.update_of_ne (Ne.symm hk), List.append_nil,
        List.append_nil]
  evictions := by
    rw [appendEvents, List.append_cons]
    have hacc : Always (OldestOfFull m) (tr ++ [Event.accepted kind record]) :=
      h.evictions.snoc trivial
    have hlen := (s.queue kind).length_evicted record
    cases hl : (s.queue kind).evicted record with
    | nil => rwa [List.map_nil, List.append_nil]
    | cons oldest others =>
        -- A full queue drops one record.
        obtain ⟨queue, hq, hfull⟩ := (s.queue kind).evicted_full record hm
          (by rw [hl]; exact List.mem_cons_self ..)
        have hothers : others = [] := by
          rw [hl, if_pos hfull, List.length_cons] at hlen
          exact List.eq_nil_of_length_eq_zero (by omega)
        subst hothers
        refine hacc.snoc ⟨tr, record, queue, rfl, ?_, ?_⟩
        · rw [h.queue kind, hq]
        · rw [← hq]
          exact hfull

theorem Ordered.appendAll (hm : 1 ≤ m) (kind : SignalKind) :
    ∀ (records : List α) {s : State α m} {tr : List (Event α)}, Ordered s.queue tr →
      Ordered (appendAll kind s records).1.queue (tr ++ (appendAll kind s records).2.1)
  | [], _, tr, h => by
      change Ordered _ (tr ++ [])
      rwa [List.append_nil]
  | record :: records, s, tr, h => by
      have ih := Ordered.appendAll hm kind records (h.append hm kind record)
      rwa [List.append_assoc] at ih

theorem Ordered.submit (hm : 1 ≤ m) (maxBatch : Int) (kind : SignalKind) (records : List α)
    {s : State α m} {tr : List (Event α)} (h : Ordered s.queue tr) :
    Ordered (submit maxBatch kind records s).1.queue
      (tr ++ (submit maxBatch kind records s).2.1) := by
  unfold Processor.submit
  by_cases hc : s.closed = true
  · rw [if_pos hc]
    change Ordered _ (tr ++ [])
    rwa [List.append_nil]
  · rw [if_neg hc]
    exact h.appendAll hm kind records

theorem accepted_appendAll (kind : SignalKind) : ∀ (records : List α) (s : State α m),
    accepted kind (appendAll kind s records).2.1 = records
  | [], _ => rfl
  | record :: records, s => by
      have ih := accepted_appendAll kind records (append kind s record)
      change accepted kind (appendEvents kind s record ++ _) = record :: records
      rw [accepted, List.flatMap_append, accepts_appendEvents, if_pos rfl]
      exact congrArg (record :: ·) ih

/-- An open processor accepts every record of a call, a closed one none. -/
theorem accepted_submit (maxBatch : Int) (kind : SignalKind) (records : List α) (s : State α m) :
    accepted kind (submit maxBatch kind records s).2.1 =
      if s.closed = true then [] else records := by
  unfold submit
  by_cases hc : s.closed = true
  · rw [if_pos hc, if_pos hc]
    rfl
  · rw [if_neg hc, if_neg hc]
    exact accepted_appendAll kind records s

/-! ### Flushing -/

/-- An event that moves no record. -/
def Event.IsStill : Event α → Prop
  | .accepted .. | .evicted .. | .handed .. => False
  | _ => True

theorem Event.IsStill.reads {e : Event α} (h : e.IsStill) (kind : SignalKind) :
    e.accepts kind = [] ∧ e.departs kind = [] := by
  cases e with
  | accepted | evicted | handed => exact h.elim
  | settled | logged | flushed | cancelled => exact ⟨rfl, rfl⟩

/-- Events that move no record keep the order. -/
theorem Ordered.still {queue : SignalKind → Deque α m} {tr es : List (Event α)}
    (h : Ordered queue tr) (hes : ∀ e ∈ es, e.IsStill) : Ordered queue (tr ++ es) where
  queue := by
    intro kind
    have hacc : es.flatMap (Event.accepts kind) = [] :=
      List.flatMap_eq_nil_iff.mpr fun e he => ((hes e he).reads kind).1
    have hdep : es.flatMap (Event.departs kind) = [] :=
      List.flatMap_eq_nil_iff.mpr fun e he => ((hes e he).reads kind).2
    rw [accepted, departed, List.flatMap_append, List.flatMap_append, hacc, hdep, List.append_nil,
      List.append_nil]
    exact h.queue kind
  evictions := h.evictions.append fun pre e he => by
    cases e with
    | evicted k record => exact (hes _ he).elim
    | _ => trivial

theorem isStill_settleEvents (s : State α m) (kind : SignalKind) (batch : List α)
    (result : ExportResult) : ∀ e ∈ settleEvents s kind batch result, e.IsStill := by
  intro e he
  cases result with
  | raised message =>
      rcases List.mem_cons.mp he with rfl | he
      · trivial
      · rw [List.mem_singleton.mp he]
        trivial
  | success | partialSuccess p | cancelled =>
      rw [List.mem_singleton.mp he]
      trivial

/-- Draining a queue hands over what it holds. -/
theorem Ordered.resume {s : State α m} {tr : List (Event α)} (h : Ordered s.queue tr) (t : Task)
    (kinds : List SignalKind) :
    Ordered (resume s t kinds).1.queue (tr ++ (resume s t kinds).2) := by
  unfold Processor.resume
  cases hn : nextBatch s.queue kinds with
  | none =>
      dsimp only
      rw [returned_queue]
      exact h.still fun e he => by
        rw [List.mem_singleton.mp he]
        trivial
  | some next =>
      obtain ⟨kind, rest⟩ := next
      refine ⟨fun k => ?_, h.evictions.snoc trivial⟩
      dsimp only
      rw [accepted, departed, List.flatMap_append, List.flatMap_append, List.flatMap_singleton,
        List.flatMap_singleton]
      change accepted k tr ++ [] = departed k tr ++
        ((if kind = k then (s.queue kind).items else []) ++ []) ++
          (Function.update s.queue kind .empty k).items
      rw [h.queue k, List.append_nil, List.append_nil]
      by_cases hk : kind = k
      · subst hk
        rw [if_pos rfl, Function.update_self, Deque.items_empty, List.append_nil]
      · rw [if_neg hk, Function.update_of_ne (Ne.symm hk), List.append_nil]

/-! ### The order of a run -/

theorem ordered_step (hm : 1 ≤ m) {s s' : State α m} {a : Action α} {tr es : List (Event α)}
    (hs : Step maxBatch s a s' es) (hc : Coherent s) (h : Ordered s.queue tr) :
    Ordered s'.queue (tr ++ es) := by
  rcases hs.cases hc with ⟨kind, records, hk, rfl, rfl⟩ | ⟨hq, hes⟩ | ⟨t, hf, hl, rfl, rfl⟩ |
    ⟨t, kind, batch, rest, result, s₁, hf, hr, rfl, rfl, rfl⟩ |
    ⟨t, kind, batch, rest, hf, rfl, rfl⟩
  · exact h.submit hm maxBatch kind records
  · rw [hq.queue]
    refine h.still ?_
    rcases hes with rfl | ⟨t, rfl⟩
    · nofun
    · intro e he
      rw [List.mem_singleton.mp he]
      trivial
  · exact Ordered.resume (s := { s with lock := some t }) h t signals
  · have hq : (settle s batch result).queue = s.queue := by
      cases result <;> rfl
    rw [← List.append_assoc]
    refine Ordered.resume (s := { settle s batch result with
      cancelling := Function.update s.cancelling t false }) ?_ t rest
    rw [show ({ settle s batch result with
      cancelling := Function.update s.cancelling t false } : State α m).queue = s.queue from hq]
    exact h.still (isStill_settleEvents s kind batch result)
  · rw [leaveFlush, left_queue]
    refine h.still fun e he => ?_
    rcases List.mem_append.mp he with he | he
    · exact isStill_settleEvents s kind batch .cancelled e he
    · rw [List.mem_singleton.mp he]
      trivial

theorem run_ordered (hm : 1 ≤ m) {s : State α m} {tr : List (Event α)} (hr : Run maxBatch s tr) :
    Ordered s.queue tr :=
  Machine.Run.invariant (I := fun s tr => Ordered s.queue tr) hr ⟨fun _ => rfl, always_nil⟩
    fun _ _ _ _ _ hr h hs => ordered_step hm hs (run_coherent hr) h

/-! ### The drops -/

/-- How many records full queues have dropped. -/
def evictions (tr : List (Event α)) : Nat :=
  (signals.map fun kind => (evicted kind tr).length).sum

theorem evictions_append (tr tr' : List (Event α)) :
    evictions (tr ++ tr') = evictions tr + evictions tr' := by
  simp only [evictions, evicted, signals, List.map_cons, List.map_nil, List.sum_cons,
    List.sum_nil, List.flatMap_append, List.length_append]
  omega

theorem lost_append (tr tr' : List (Event α)) : lost (tr ++ tr') = lost tr + lost tr' := by
  rw [lost, List.map_append, List.sum_append]
  rfl

/-- The evictions of an append are of its own signal. -/
theorem evicts_appendEvents (kind k : SignalKind) (s : State α m) (record : α) :
    evicted k (appendEvents kind s record) =
      if kind = k then (s.queue kind).evicted record else [] := by
  have hev : ∀ l : List α, (l.map (Event.evicted kind)).flatMap (Event.evicts k) =
      (l.map (Event.evicted kind)).flatMap (Event.departs k) := by
    intro l
    induction l with
    | nil => rfl
    | cons x l ih =>
        rw [List.map_cons, List.flatMap_cons, List.flatMap_cons, ih]
        rfl
  rw [← departs_appendEvents, evicted, appendEvents, List.flatMap_cons, List.flatMap_cons, hev]
  rfl

theorem evictions_appendEvents {kind : SignalKind} (hk : kind ∈ signals) (s : State α m)
    (record : α) : evictions (appendEvents kind s record) =
      if (s.queue kind).IsFull then 1 else 0 := by
  rw [← (s.queue kind).length_evicted record]
  simp only [evictions, evicts_appendEvents, signals, List.map_cons, List.map_nil, List.sum_cons,
    List.sum_nil]
  cases kind with
  | metrics | logs | traces => simp
  | profiles => exact absurd hk (by decide)

theorem lost_appendEvents (kind : SignalKind) (s : State α m) (record : α) :
    lost (appendEvents kind s record) = 0 := by
  have hev : ∀ l : List α, lost (l.map (Event.evicted kind)) = 0 := by
    intro l
    induction l with
    | nil => rfl
    | cons x l ih =>
        rw [List.map_cons, lost, List.map_cons, List.sum_cons]
        exact (Nat.zero_add _).trans ih
  rw [appendEvents, lost, List.map_cons, List.sum_cons]
  exact (Nat.zero_add _).trans (hev _)

/-- What the counter of drops says. -/
def DropsCounted (s : State α m) (tr : List (Event α)) : Prop :=
  s.dropped = evictions tr + lost tr

theorem DropsCounted.appendAll {kind : SignalKind} (hk : kind ∈ signals) :
    ∀ (records : List α) {s : State α m} {tr : List (Event α)}, DropsCounted s tr →
      DropsCounted (appendAll kind s records).1 (tr ++ (appendAll kind s records).2.1)
  | [], _, tr, h => by
      change DropsCounted _ (tr ++ [])
      rwa [List.append_nil]
  | record :: records, s, tr, h => by
      have happ : DropsCounted (Processor.append kind s record)
          (tr ++ appendEvents kind s record) := by
        unfold DropsCounted at h ⊢
        rw [evictions_append, lost_append, evictions_appendEvents hk, lost_appendEvents]
        simp only [Processor.append]
        by_cases hf : (s.queue kind).IsFull
        · rw [if_pos hf, if_pos hf]
          omega
        · rw [if_neg hf, if_neg hf]
          omega
      have ih := DropsCounted.appendAll hk records happ
      rwa [List.append_assoc] at ih

theorem resume_lost (s : State α m) (t : Task) (kinds : List SignalKind) :
    evictions (resume s t kinds).2 = 0 ∧ lost (resume s t kinds).2 = 0 := by
  rcases resume_event s t kinds with ⟨kind, batch, hes⟩ | hes
  · rw [hes]
    exact ⟨rfl, rfl⟩
  · rw [hes]
    exact ⟨rfl, rfl⟩

theorem DropsCounted.resume {s : State α m} {tr : List (Event α)} (h : DropsCounted s tr)
    (t : Task) (kinds : List SignalKind) :
    DropsCounted (resume s t kinds).1 (tr ++ (resume s t kinds).2) := by
  obtain ⟨hevictions, hlost⟩ := resume_lost s t kinds
  have hdropped : (Processor.resume s t kinds).1.dropped = s.dropped := by
    obtain ⟨_, _, _, _, _, _, he⟩ := resume_frame s t kinds
    rw [he]
  unfold DropsCounted at h ⊢
  rw [evictions_append, lost_append, hevictions, hlost, hdropped]
  exact h

/-- A batch that is settled adds to the drops when it failed. -/
theorem DropsCounted.settle {s : State α m} {tr : List (Event α)} (h : DropsCounted s tr)
    (kind : SignalKind) (batch : List α) (result : ExportResult) :
    DropsCounted (settle s batch result) (tr ++ settleEvents s kind batch result) := by
  unfold DropsCounted at h ⊢
  have hev : evictions (settleEvents s kind batch result) = 0 := by
    cases result <;> rfl
  have hlost : (Processor.settle s batch result).dropped =
      s.dropped + lost (settleEvents s kind batch result) := by
    cases result with
    | success => exact (Int.add_zero _).symm
    | partialSuccess p => exact (Int.add_zero _).symm
    | raised message => rfl
    | cancelled => rfl
  rw [evictions_append, lost_append, hev, hlost]
  omega

theorem dropsCounted_step {s s' : State α m} {a : Action α} {tr es : List (Event α)}
    (hs : Step maxBatch s a s' es) (hc : Coherent s) (h : DropsCounted s tr) :
    DropsCounted s' (tr ++ es) := by
  rcases hs.cases hc with ⟨kind, records, hk, rfl, rfl⟩ | ⟨hq, hes⟩ | ⟨t, hf, hl, rfl, rfl⟩ |
    ⟨t, kind, batch, rest, result, s₁, hf, hr, rfl, rfl, rfl⟩ |
    ⟨t, kind, batch, rest, hf, rfl, rfl⟩
  · unfold submit
    by_cases hcl : s.closed = true
    · rw [if_pos hcl]
      change DropsCounted s (tr ++ [])
      rwa [List.append_nil]
    · rw [if_neg hcl]
      exact h.appendAll hk records
  · have hz : evictions es = 0 ∧ lost es = 0 := by
      rcases hes with rfl | ⟨t, rfl⟩ <;> exact ⟨rfl, rfl⟩
    unfold DropsCounted at h ⊢
    rw [evictions_append, lost_append, hz.1, hz.2, hq.dropped]
    exact h
  · exact DropsCounted.resume (s := { s with lock := some t }) h t signals
  · rw [← List.append_assoc]
    exact DropsCounted.resume (s := { settle s batch result with
      cancelling := Function.update s.cancelling t false }) (h.settle kind batch result) t rest
  · have hset := h.settle kind batch .cancelled
    have hd : (leaveFlush { settle s batch .cancelled with lock := none } t).dropped =
        (settle s batch .cancelled).dropped := left_dropped _ t
    unfold DropsCounted at hset ⊢
    rw [← List.append_assoc, evictions_append, lost_append, hd, hset]
    rfl

/-- A record is dropped by a full queue, or with a batch that failed. -/
theorem dropped_eq {s : State α m} {tr : List (Event α)} (hr : Run maxBatch s tr) :
    s.dropped = evictions tr + lost tr :=
  Machine.Run.invariant (I := DropsCounted) hr rfl fun _ _ _ _ _ hr h hs =>
    dropsCounted_step hs (run_coherent hr) h

/-! ### What `_submit` returns -/

theorem evicted_ne_nil {d : Deque α m} {x : α} : d.evicted x ≠ [] ↔ d.IsFull := by
  have h := d.length_evicted x
  by_cases hf : d.IsFull
  · rw [if_pos hf] at h
    refine iff_of_true ?_ hf
    intro hn
    rw [hn] at h
    cases h
  · rw [if_neg hf] at h
    exact iff_of_false (fun hne => hne (List.eq_nil_of_length_eq_zero h)) hf

theorem appendAll_accepted (kind : SignalKind) : ∀ (records : List α) (s : State α m),
    (appendAll kind s records).2.2 = false ↔
      ∃ record, .evicted kind record ∈ (appendAll kind s records).2.1
  | [], s => iff_of_false nofun nofun
  | record :: records, s => by
      have ih := appendAll_accepted kind records (append kind s record)
      change (!decide (s.queue kind).IsFull && (appendAll kind (append kind s record) records).2.2) =
        false ↔ ∃ r, Event.evicted kind r ∈ appendEvents kind s record ++
          (appendAll kind (append kind s record) records).2.1
      rw [Bool.and_eq_false_iff, Bool.not_eq_false', decide_eq_true_eq, ih, ← evicted_ne_nil]
      constructor
      · rintro (hne | ⟨r, hr⟩)
        · obtain ⟨r, hr⟩ := List.exists_mem_of_ne_nil _ hne
          exact ⟨r, List.mem_append_left _ (List.mem_cons_of_mem _ (List.mem_map_of_mem hr))⟩
        · exact ⟨r, List.mem_append_right _ hr⟩
      · rintro ⟨r, hr⟩
        rcases List.mem_append.mp hr with hr | hr
        · rcases List.mem_cons.mp hr with hr | hr
          · cases hr
          · obtain ⟨y, hy, -⟩ := List.mem_map.mp hr
            exact Or.inl (List.ne_nil_of_mem hy)
        · exact Or.inr ⟨r, hr⟩

/-- A call says no when the processor is closed, or when it drops a record. -/
theorem submit_accepted (maxBatch : Int) (kind : SignalKind) (records : List α) (s : State α m) :
    (submit maxBatch kind records s).2.2 = false ↔
      s.closed = true ∨ ∃ record, .evicted kind record ∈ (submit maxBatch kind records s).2.1 := by
  unfold submit
  by_cases hc : s.closed = true
  · rw [if_pos hc]
    exact iff_of_true rfl (Or.inl hc)
  · rw [if_neg hc, or_iff_right hc]
    exact appendAll_accepted kind records s

/-! ### The claim of the queues -/

/-- **Order, duplicates and drops.**  In every run, for each signal: the batches handed to the
client, one after the other, and then the queue, are the accepted records without some positions;
each record taken out was the oldest of a full queue when a newer one was appended, and these are
the drops that are no failed batch; the queue has its bound; one batch at most is being exported;
and a call accepts its records while the processor is open, and says no exactly when the processor
is closed or the call drops a record. -/
theorem order_and_drops (hm : 1 ≤ m) {s : State α m} {tr : List (Event α)}
    (hr : Run maxBatch s tr) (kind : SignalKind) :
    Parted (handed kind tr ++ (s.queue kind).items) (evicted kind tr) (accepted kind tr) ∧
      (∀ pre record post, tr = pre ++ .evicted kind record :: post →
        ∃ before newer queue, pre = before ++ [.accepted kind newer] ∧
          accepted kind before = departed kind before ++ record :: queue ∧
          (record :: queue).length = m) ∧
      s.dropped = evictions tr + lost tr ∧
      (s.queue kind).items.length ≤ m ∧
      (∀ t t', (s.flush t).IsExporting → (s.flush t').IsExporting → t = t') ∧
      ∀ records, accepted kind (submit maxBatch kind records s).2.1 =
          (if s.closed = true then [] else records) ∧
        ((submit maxBatch kind records s).2.2 = false ↔
          s.closed = true ∨
            ∃ record, .evicted kind record ∈ (submit maxBatch kind records s).2.1) := by
  have ho := run_ordered hm hr
  refine ⟨?_, ?_, dropped_eq hr, (s.queue kind).bounded, ?_, ?_⟩
  · rw [ho.queue kind]
    have h := (parted_departed kind tr).append (Parted.kept (s.queue kind).items)
    rwa [List.append_nil] at h
  · exact fun pre record post htr => ho.evictions pre _ post htr
  · intro t t' ht ht'
    have hl := (run_coherent hr).lockHeld
    have h := (hl.holder t).mpr ht
    rw [(hl.holder t').mpr ht'] at h
    exact (Option.some.inj h).symm
  · exact fun records =>
      ⟨accepted_submit maxBatch kind records s, submit_accepted maxBatch kind records s⟩

theorem order_and_drops_exportingOne :
    Parted (handed .metrics exportingOneTrace ++ (exportingOne.queue .metrics).items)
        (evicted .metrics exportingOneTrace) (accepted .metrics exportingOneTrace) ∧
      exportingOne.dropped = evictions exportingOneTrace + lost exportingOneTrace :=
  have h := order_and_drops (Nat.le_refl 1) exportingOne_run .metrics
  ⟨h.1, h.2.2.1⟩

end OtlpClient.Processor
