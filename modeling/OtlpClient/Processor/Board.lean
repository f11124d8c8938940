import OtlpClient.Processor.Coherence
import OtlpClient.Support.History
import OtlpClient.Support.Refinement

/-!
# Processor — what it is for

The processor with its tasks, its lock and its cancellations left out: for each signal a bounded
queue that drops its oldest record, one export at a time, and counters.  A `Board` takes one step
an event.

* `refines_board`: every history of the processor is one of the board, which the state shows.
* `exports_serial`: the client sees one call at a time.
* `counters_grow`: the counters never go back.
-/

namespace OtlpClient.Processor

variable {α : Type} {m : Nat} {maxBatch : Int}

/-! ### The board -/

/-- `ProcessorStats`. -/
structure ProcessorStats where
  submitted : Int := 0
  exported : Int := 0
  dropped : Int := 0
  consecutiveFailures : Nat := 0
  lastError : Option String := none
  deriving DecidableEq, Repr

/-- `stats`. -/
def State.stats (s : State α m) : ProcessorStats where
  submitted := s.submitted
  exported := s.exported
  dropped := s.dropped
  consecutiveFailures := s.consecutiveFailures
  lastError := s.lastError

/-- A batch has come to its end: it is exported, less what the collector says it rejected, or it is
dropped. -/
def ProcessorStats.settle (stats : ProcessorStats) (n : Int) : ExportResult → ProcessorStats
  | .success =>
      { stats with consecutiveFailures := 0, lastError := none, exported := stats.exported + n }
  | .partialSuccess p =>
      { stats with
        consecutiveFailures := 0
        lastError := some ("partial success: " ++ p.message)
        exported := stats.exported + max 0 (n - p.rejected) }
  | .raised message =>
      { stats with
        consecutiveFailures := stats.consecutiveFailures + 1
        lastError := some message
        dropped := stats.dropped + n }
  | .cancelled => { stats with dropped := stats.dropped + n }

/-- What the processor shows: its queues, the batch it exports, and its counters. -/
@[ext]
structure Board (α : Type) where
  queue : SignalKind → List α
  busy : Option (SignalKind × List α) := none
  stats : ProcessorStats := {}

namespace Board

def empty : Board α where
  queue _ := []

/-- A record is queued. -/
def accept (b : Board α) (kind : SignalKind) (record : α) : Board α :=
  { b with
    queue := Function.update b.queue kind (b.queue kind ++ [record])
    stats := { b.stats with submitted := b.stats.submitted + 1 } }

/-- A record is dropped, and the others stay. -/
def evict (b : Board α) (kind : SignalKind) (others : List α) : Board α :=
  { b with
    queue := Function.update b.queue kind others
    stats := { b.stats with dropped := b.stats.dropped + 1 } }

/-- The whole queue is exported. -/
def hand (b : Board α) (kind : SignalKind) : Board α :=
  { b with queue := Function.update b.queue kind [], busy := some (kind, b.queue kind) }

/-- The export ends. -/
def settle (b : Board α) (batch : List α) (result : ExportResult) : Board α :=
  { b with busy := none, stats := b.stats.settle batch.length result }

/-- The steps of a board whose queues hold `m` records: each puts out the one event it is. -/
inductive Step (m : Nat) : Machine (Board α) Unit (Event α) where
  | accept {b : Board α} {kind : SignalKind} {record : α} (hk : kind ∈ signals)
      (hroom : (b.queue kind).length ≤ m) :
      Step m b () (b.accept kind record) [.accepted kind record]
  -- The one record too many is the oldest.
  | evict {b : Board α} {kind : SignalKind} {oldest : α} {others : List α}
      (hq : b.queue kind = oldest :: others) (hfull : others.length = m) :
      Step m b () (b.evict kind others) [.evicted kind oldest]
  | hand {b : Board α} {kind : SignalKind} (hk : kind ∈ signals) (hbusy : b.busy = none)
      (hne : b.queue kind ≠ []) (hroom : (b.queue kind).length ≤ m) :
      Step m b () (b.hand kind) [.handed kind (b.queue kind)]
  | settle {b : Board α} {kind : SignalKind} {batch : List α} (result : ExportResult)
      (hbusy : b.busy = some (kind, batch)) :
      Step m b () (b.settle batch result) [.settled kind batch result]
  | log {b : Board α} (kind : SignalKind) :
      Step m b () b [.logged kind (failureLevel b.stats.consecutiveFailures)]
  | flush {b : Board α} (t : Task) (hbusy : b.busy = none) : Step m b () b [.flushed t]
  | cancel {b : Board α} (t : Task) : Step m b () b [.cancelled t]

end Board

/-- The batch that is being exported. -/
def State.busy (s : State α m) : Option (SignalKind × List α) :=
  match s.lock.map s.flush with
  | some (.exporting kind batch _) => some (kind, batch)
  | _ => none

def State.board (s : State α m) : Board α where
  queue kind := (s.queue kind).items
  busy := s.busy
  stats := s.stats

/-! ### The processor refines it -/

theorem busy_none {s : State α m} (h : s.lock = none) : s.busy = none := by
  unfold State.busy
  rw [h]
  rfl

theorem busy_some {s : State α m} {t : Task} {kind : SignalKind} {batch : List α}
    {rest : List SignalKind} (hl : s.lock = some t) (hf : s.flush t = .exporting kind batch rest) :
    s.busy = some (kind, batch) := by
  unfold State.busy
  rw [hl, Option.map_some, hf]

/-- Nothing of the board moves where the queues, the lock, the exports and the counters stay. -/
theorem board_eq {s s' : State α m} (hc : Coherent s) (hq : s'.queue = s.queue)
    (hl : s'.lock = s.lock) (hstats : s'.stats = s.stats)
    (hexp : ∀ t kind batch rest, s'.flush t = .exporting kind batch rest ↔
      s.flush t = .exporting kind batch rest) : s'.board = s.board := by
  have hbusy : s'.busy = s.busy := by
    cases hlock : s.lock with
    | none => rw [busy_none hlock, busy_none (hl.trans hlock)]
    | some t =>
        -- The holder exports in both.
        obtain ⟨kind, batch, rest, hf⟩ := (hc.lockHeld.holder t).mp hlock
        rw [busy_some hlock hf, busy_some (hl.trans hlock) ((hexp t kind batch rest).mpr hf)]
  unfold State.board
  rw [hq, hbusy, hstats]

theorem stats_settle (s : State α m) (batch : List α) (result : ExportResult) :
    (settle s batch result).stats = s.stats.settle batch.length result := by
  cases result with
  | success =>
      simp [settle, ProcessorStats.settle, State.stats]
  | partialSuccess p => rfl
  | raised message => rfl
  | cancelled => rfl

/-- The lists of a queue that one more is put into. -/
theorem items_update (queue : SignalKind → Deque α m) (kind : SignalKind) (d : Deque α m) :
    (fun k => (Function.update queue kind d k).items) =
      Function.update (fun k => (queue k).items) kind d.items := by
  funext k
  by_cases hk : k = kind
  · subst hk
    rw [Function.update_self, Function.update_self]
  · rw [Function.update_of_ne hk, Function.update_of_ne hk]

/-- An append is an acceptance, and an eviction where the queue is full. -/
theorem board_append {kind : SignalKind} (hk : kind ∈ signals) (s : State α m) (record : α) :
    Machine.Run (Board.Step m) s.board (append kind s record).board
      (appendEvents kind s record) := by
  have haccept := Machine.Run.one
    (@Board.Step.accept _ _ s.board _ record hk (s.queue kind).bounded)
  have hitems := (s.queue kind).evicted_append record
  have hlen := (s.queue kind).length_evicted record
  have hqueue : (append kind s record).board.queue =
      Function.update s.board.queue kind ((s.queue kind).append record).items :=
    items_update s.queue kind _
  have haccepted : (s.board.accept kind record).queue kind = (s.queue kind).items ++ [record] :=
    Function.update_self _ _ _
  rw [appendEvents]
  by_cases hfull : (s.queue kind).IsFull
  · rw [if_pos hfull] at hlen
    obtain ⟨oldest, hold⟩ := List.length_eq_one_iff.mp hlen
    rw [hold, List.singleton_append] at hitems
    rw [hold]
    have hrest : ((s.queue kind).append record).items.length = m := by
      have h := congrArg List.length hitems
      rw [List.length_cons, List.length_append, List.length_singleton] at h
      rw [Deque.IsFull] at hfull
      omega
    have hboard : (append kind s record).board =
        (s.board.accept kind record).evict kind ((s.queue kind).append record).items := by
      refine Board.ext ?_ rfl ?_
      · rw [hqueue]
        exact (Function.update_idem _ _ _).symm
      · simp [State.board, State.stats, append, if_pos hfull, Board.accept, Board.evict]
    rw [hboard]
    exact haccept.trans (.one (.evict (haccepted.trans hitems.symm) hrest))
  · rw [if_neg hfull] at hlen
    rw [List.eq_nil_of_length_eq_zero hlen, List.nil_append] at hitems
    rw [List.eq_nil_of_length_eq_zero hlen]
    have hboard : (append kind s record).board = s.board.accept kind record := by
      refine Board.ext ?_ rfl ?_
      · rw [hqueue, hitems]
        rfl
      · simp [State.board, State.stats, append, if_neg hfull, Board.accept]
    rw [hboard]
    exact haccept

theorem board_submit {kind : SignalKind} (hk : kind ∈ signals) (maxBatch : Int)
    (records : List α) (s : State α m) :
    Machine.Run (Board.Step m) s.board (submit maxBatch kind records s).1.board
      (submit maxBatch kind records s).2.1 := by
  have hall : ∀ (records : List α) (s : State α m),
      Machine.Run (Board.Step m) s.board (appendAll kind s records).1.board
        (appendAll kind s records).2.1 := by
    intro records
    induction records with
    | nil => exact fun _ => .start
    | cons record records ih =>
        intro s
        exact (board_append hk s record).trans (ih (append kind s record))
  unfold submit
  by_cases hclosed : s.closed = true
  · rw [if_pos hclosed]
    exact .start
  · rw [if_neg hclosed]
    exact hall records s

/-- The loop of `flush` hands a batch over, or returns. -/
theorem board_resume {s : State α m} {t : Task} {kinds : List SignalKind} (hl : s.lock = some t)
    (hkinds : kinds ⊆ signals) :
    Machine.Run (Board.Step m) { s.board with busy := none } (resume s t kinds).1.board
      (resume s t kinds).2 := by
  unfold resume
  cases hn : nextBatch s.queue kinds with
  | some next =>
      obtain ⟨kind, rest⟩ := next
      obtain ⟨before, rfl, -, hne⟩ := nextBatch_some hn
      have hhand : Board.hand { s.board with busy := none } kind =
          State.board { s with
            queue := Function.update s.queue kind .empty
            flush := Function.update s.flush t (.exporting kind (s.queue kind).items rest) } := by
        have hf : Function.update s.flush t (.exporting kind (s.queue kind).items rest) t =
            .exporting kind (s.queue kind).items rest := Function.update_self _ _ _
        refine Board.ext (items_update s.queue kind .empty).symm ?_ rfl
        exact (busy_some (s := { s with
          queue := Function.update s.queue kind .empty
          flush := Function.update s.flush t _ }) hl hf).symm
      dsimp only
      rw [← hhand]
      exact .one (.hand (b := { s.board with busy := none }) (hkinds (by simp)) rfl hne
        (s.queue kind).bounded)
  | none =>
      have hleft : State.board (returned { s with
          lock := none, flush := Function.update s.flush t .idle } t) =
          { s.board with busy := none } := by
        have hlock : (returned { s with
            lock := none, flush := Function.update s.flush t .idle } t).lock = none :=
          returned_lock _ t
        refine Board.ext ?_ (busy_none hlock) ?_
        · change (fun kind => ((returned _ t).queue kind).items) = _
          rw [returned_queue]
          rfl
        · cases t <;> rfl
      dsimp only
      rw [hleft]
      exact .one (.flush t rfl)

/-- The end of an export, and what is logged of it. -/
theorem board_settle {s : State α m} {t : Task} {kind : SignalKind} {batch : List α}
    {rest : List SignalKind} (hl : s.lock = some t) (hf : s.flush t = .exporting kind batch rest)
    (result : ExportResult) :
    Machine.Run (Board.Step m) s.board (s.board.settle batch result)
      (settleEvents s kind batch result) := by
  have hsettle := Machine.Run.one
    (Board.Step.settle (m := m) (b := s.board) result (busy_some hl hf))
  cases result with
  | raised message => exact hsettle.trans (.one (.log kind))
  | success => exact hsettle
  | partialSuccess p => exact hsettle
  | cancelled => exact hsettle

/-- Each step of the processor is a run of the board. -/
theorem refines_step {s s' : State α m} {a : Action α} {es : List (Event α)}
    (hs : Step maxBatch s a s' es) (hc : Coherent s) :
    Machine.Run (Board.Step m) s.board s'.board es := by
  have hidle : ∀ {t : Task}, s.flush t = .idle → ¬ (s.flush t).IsExporting := by
    intro _ ht
    rw [ht]
    exact not_isExporting_idle
  -- What moves neither queue, lock, export nor counter.
  have hstill : ∀ {s' : State α m}, s'.board = s.board →
      Machine.Run (Board.Step m) s.board s'.board ([] : List (Event α)) := by
    intro s' h
    rw [h]
    exact .start
  have hleave : ∀ {t : Task}, ¬ (s.flush t).IsExporting →
      Machine.Run (Board.Step m) s.board (leaveFlush s t).board [Event.cancelled t] := by
    intro t ht
    have hexp : ∀ t' kind batch rest, (leaveFlush s t).flush t' = .exporting kind batch rest ↔
        s.flush t' = .exporting kind batch rest := by
      rw [show (leaveFlush s t).flush = Function.update s.flush t .idle from left_flush _ t]
      exact exporting_update ht not_isExporting_idle
    have hstats : (leaveFlush s t).stats = s.stats := by
      cases t <;> rfl
    have hboard : (leaveFlush s t).board = s.board :=
      board_eq hc (left_queue _ t) (left_lock _ t) hstats hexp
    rw [hboard]
    exact .one (.cancel t)
  cases hs with
  | @submit _ kind records hk => exact board_submit hk maxBatch records s
  | enter _ _ => exact hstill rfl
  | start _ _ => exact hstill rfl
  | wakeUp hb _ =>
      have hf := hc.background (by rw [hb]; nofun)
      exact hstill (board_eq hc rfl rfl rfl (exporting_update (hidle hf) not_isExporting_acquiring))
  | call hf =>
      exact hstill (board_eq hc rfl rfl rfl (exporting_update (hidle hf) not_isExporting_acquiring))
  | @acquire _ t hf hct hl =>
      have hboard : { State.board { s with lock := some t } with busy := none } = s.board :=
        Board.ext rfl (busy_none hl).symm rfl
      rw [← hboard]
      exact board_resume rfl (List.Subset.refl _)
  | @finish _ t kind batch rest result hf hr =>
      have hl := (hc.lockHeld.holder t).mpr ⟨_, _, _, hf⟩
      refine (board_settle hl hf result).trans ?_
      have hboard : { State.board { settle s batch result with
          cancelling := Function.update s.cancelling t false } with busy := none } =
          s.board.settle batch result := by
        obtain ⟨exported, dropped, failures, error, hset⟩ := settle_frame s batch result
        refine Board.ext ?_ rfl (stats_settle s batch result)
        rw [hset]
        rfl
      rw [← hboard]
      refine board_resume ?_ (hc.lockHeld.kinds _ _ _ _ hf).2
      obtain ⟨exported, dropped, failures, error, hset⟩ := settle_frame s batch result
      rw [hset]
      exact hl
  | @abort _ t kind batch rest hf =>
      have hl := (hc.lockHeld.holder t).mpr ⟨_, _, _, hf⟩
      refine (board_settle hl hf .cancelled).trans ?_
      have hboard : State.board (leaveFlush { settle s batch .cancelled with lock := none } t) =
          s.board.settle batch .cancelled := by
        refine Board.ext ?_ (busy_none (left_lock _ t)) ?_
        · change (fun kind => ((left _ t).queue kind).items) = _
          rw [left_queue]
          rfl
        · cases t <;> rfl
      rw [hboard]
      exact .one (.cancel t)
  | cancel _ =>
      obtain ⟨cancelling, he⟩ := cancel_frame s _
      rw [he]
      exact hstill rfl
  | deliver hb _ =>
      refine hleave (hidle ?_)
      rcases hb with hb | hb <;> exact hc.background (by rw [hb]; nofun)
  | deliverAcquiring hf _ => exact hleave (by rw [hf]; exact not_isExporting_acquiring)
  | exitBlock he =>
      have hf := hc.exit (by rw [he]; nofun)
      rcases exitBlock_frame s with ⟨-, heq⟩ | ⟨cancelling, heq, -⟩
      · rw [heq]
        exact hstill (board_eq hc rfl rfl rfl
          (exporting_update (hidle hf) not_isExporting_acquiring))
      · rw [heq]
        exact hstill rfl
  | join he _ =>
      have hf := hc.exit (by rw [he]; nofun)
      exact hstill (board_eq hc rfl rfl rfl (exporting_update (hidle hf) not_isExporting_acquiring))

/-- So is a run from any coherent state. -/
theorem board_run {s s' : State α m} {es : List (Event α)} (hc : Coherent s)
    (hr : Machine.Run (Step maxBatch) s s' es) :
    Machine.Run (Board.Step m) s.board s'.board es :=
  hr.refines (f := State.board) (I := Coherent) hc (fun _ _ _ _ hs => hs.coherent)
    fun _ _ _ _ => refines_step

/-- **The processor is what it is for.**  Every history of the processor, with any interleaving of
its tasks and any cancellations, is a history of the board, which ends as the state shows. -/
theorem refines_board {s : State α m} {tr : List (Event α)} (hr : Run maxBatch s tr) :
    Machine.Run (Board.Step m) .empty s.board tr :=
  board_run init_coherent hr

theorem refines_board_exportingOne :
    Machine.Run (Board.Step 1) .empty exportingOne.board exportingOneTrace :=
  refines_board exportingOne_run

/-! ### One export at a time -/

/-- The batch whose export an event begins, or ends. -/
def Event.moves (busy : Option (SignalKind × List α)) :
    Event α → Option (SignalKind × List α)
  | .handed kind batch => some (kind, batch)
  | .settled .. => none
  | _ => busy

/-- The batch whose export has begun and not ended. -/
def underWay (tr : List (Event α)) : Option (SignalKind × List α) := tr.foldl Event.moves none

/-- An export begins where none is under way, of a batch that is not empty and fits into a queue; it
ends where it is; and a flush returns where none is. -/
def Serial (m : Nat) (pre : List (Event α)) : Event α → Prop
  | .handed _ batch => underWay pre = none ∧ batch ≠ [] ∧ batch.length ≤ m
  | .settled kind batch _ => underWay pre = some (kind, batch)
  | .flushed _ => underWay pre = none
  | _ => True

theorem underWay_snoc (tr : List (Event α)) (e : Event α) :
    underWay (tr ++ [e]) = e.moves (underWay tr) := by
  rw [underWay, List.foldl_append]
  rfl

/-- The board begins and ends one export after the other. -/
theorem Board.serial {b : Board α} {tr : List (Event α)}
    (hr : Machine.Run (Board.Step m) .empty b tr) :
    Always (Serial m) tr ∧ underWay tr = b.busy ∧
      ∀ kind batch, b.busy = some (kind, batch) → batch.length ≤ m := by
  refine Machine.Run.invariant (I := fun b tr => Always (Serial m) tr ∧ underWay tr = b.busy ∧
    ∀ kind batch, b.busy = some (kind, batch) → batch.length ≤ m) hr
    ⟨always_nil, rfl, nofun⟩ ?_
  rintro b ⟨⟩ b' tr es - ⟨hserial, hbusy, hlen⟩ hs
  cases hs with
  | accept hk hroom => exact ⟨hserial.snoc trivial, (underWay_snoc ..).trans hbusy, hlen⟩
  | evict hq hfull => exact ⟨hserial.snoc trivial, (underWay_snoc ..).trans hbusy, hlen⟩
  | hand hk hnone hne hroom =>
      refine ⟨hserial.snoc ⟨hbusy.trans hnone, hne, hroom⟩, underWay_snoc .., ?_⟩
      rintro kind batch ⟨⟩
      exact hroom
  | settle result hsome =>
      exact ⟨hserial.snoc (hbusy.trans hsome), underWay_snoc .., nofun⟩
  | log kind => exact ⟨hserial.snoc trivial, (underWay_snoc ..).trans hbusy, hlen⟩
  | flush t hnone =>
      exact ⟨hserial.snoc (hbusy.trans hnone), (underWay_snoc ..).trans hbusy, hlen⟩
  | cancel t => exact ⟨hserial.snoc trivial, (underWay_snoc ..).trans hbusy, hlen⟩

/-- How many records the processor holds. -/
def held (s : State α m) : Nat :=
  (signals.map fun kind => (s.queue kind).items.length).sum +
    match s.busy with
    | some (_, batch) => batch.length
    | none => 0

/-- **The client sees one call at a time.**  In every run, an export begins only where none is under
way, of a batch that is not empty and no longer than a queue; each one that begins is the next to
end; a flush returns only where none is under way; and the processor holds the records of three
queues and one batch at most. -/
theorem exports_serial {s : State α m} {tr : List (Event α)} (hr : Run maxBatch s tr) :
    Always (Serial m) tr ∧ underWay tr = s.busy ∧ held s ≤ 4 * m := by
  obtain ⟨hserial, hbusy, hlen⟩ := Board.serial (board_run init_coherent hr)
  refine ⟨hserial, hbusy, ?_⟩
  have hmetrics := (s.queue .metrics).bounded
  have hlogs := (s.queue .logs).bounded
  have htraces := (s.queue .traces).bounded
  have hbatch : (match s.busy with
      | some (_, batch) => batch.length
      | none => 0) ≤ m := by
    cases hb : s.busy with
    | none => exact Nat.zero_le m
    | some next => exact hlen next.1 next.2 hb
  unfold held
  simp only [signals, List.map_cons, List.map_nil, List.sum_cons, List.sum_nil]
  omega

theorem exports_serial_exportingOne :
    Always (Serial 1) exportingOneTrace ∧ underWay exportingOneTrace = exportingOne.busy ∧
      held exportingOne ≤ 4 * 1 :=
  exports_serial exportingOne_run

/-! ### The counters -/

/-- What an event does to the counters. -/
def ProcessorStats.count (stats : ProcessorStats) : Event α → ProcessorStats
  | .accepted .. => { stats with submitted := stats.submitted + 1 }
  | .evicted .. => { stats with dropped := stats.dropped + 1 }
  | .settled _ batch result => stats.settle batch.length result
  | _ => stats

/-- No counter goes back. -/
structure ProcessorStats.Grows (stats stats' : ProcessorStats) : Prop where
  submitted : stats.submitted ≤ stats'.submitted
  exported : stats.exported ≤ stats'.exported
  dropped : stats.dropped ≤ stats'.dropped

theorem ProcessorStats.Grows.refl (stats : ProcessorStats) : stats.Grows stats :=
  ⟨Int.le_refl _, Int.le_refl _, Int.le_refl _⟩

theorem ProcessorStats.Grows.trans {stats stats' stats'' : ProcessorStats}
    (h : stats.Grows stats') (h' : stats'.Grows stats'') : stats.Grows stats'' :=
  ⟨Int.le_trans h.submitted h'.submitted, Int.le_trans h.exported h'.exported,
    Int.le_trans h.dropped h'.dropped⟩

theorem ProcessorStats.grows_settle (stats : ProcessorStats) (batch : List α)
    (result : ExportResult) : stats.Grows (stats.settle batch.length result) := by
  have hlen : 0 ≤ (batch.length : Int) := Int.natCast_nonneg _
  cases result with
  | success => exact ⟨Int.le_refl _, Int.le_add_of_nonneg_right hlen, Int.le_refl _⟩
  | partialSuccess p =>
      exact ⟨Int.le_refl _, Int.le_add_of_nonneg_right (Int.le_max_left _ _), Int.le_refl _⟩
  | raised message => exact ⟨Int.le_refl _, Int.le_refl _, Int.le_add_of_nonneg_right hlen⟩
  | cancelled => exact ⟨Int.le_refl _, Int.le_refl _, Int.le_add_of_nonneg_right hlen⟩

theorem ProcessorStats.grows_count (stats : ProcessorStats) (e : Event α) :
    stats.Grows (stats.count e) := by
  have hone : (0 : Int) ≤ 1 := by decide
  cases e with
  | accepted kind record =>
      exact ⟨Int.le_add_of_nonneg_right hone, Int.le_refl _, Int.le_refl _⟩
  | evicted kind record =>
      exact ⟨Int.le_refl _, Int.le_refl _, Int.le_add_of_nonneg_right hone⟩
  | settled kind batch result => exact stats.grows_settle batch result
  | _ => exact .refl stats

theorem ProcessorStats.grows_foldl (stats : ProcessorStats) (es : List (Event α)) :
    stats.Grows (es.foldl ProcessorStats.count stats) := by
  induction es generalizing stats with
  | nil => exact .refl stats
  | cons e es ih => exact (stats.grows_count e).trans (ih (stats.count e))

/-- The counters of a board are what its events make of them. -/
theorem Board.stats_eq {b b' : Board α} {tr : List (Event α)}
    (hr : Machine.Run (Board.Step m) b b' tr) :
    b'.stats = tr.foldl ProcessorStats.count b.stats := by
  refine Machine.Run.invariant
    (I := fun b' tr => b'.stats = tr.foldl ProcessorStats.count b.stats) hr rfl ?_
  rintro b₁ ⟨⟩ b₂ tr es - hstats hs
  rw [List.foldl_append, ← hstats]
  cases hs <;> rfl

/-- **The counters never go back.**  From every state a run reaches, the counters of a later state
are the earlier ones and what has happened since, which lowers none of the three. -/
theorem counters_grow {s s' : State α m} {tr es : List (Event α)} (hr : Run maxBatch s tr)
    (h : Machine.Run (Step maxBatch) s s' es) :
    s'.stats = es.foldl ProcessorStats.count s.stats ∧ s.stats.Grows s'.stats := by
  have hstats : s'.stats = es.foldl ProcessorStats.count s.stats :=
    Board.stats_eq (board_run (run_coherent hr) h)
  refine ⟨hstats, ?_⟩
  rw [hstats]
  exact s.stats.grows_foldl es

theorem counters_grow_exportingOne :
    exportingOne.stats = exportingOneTrace.foldl ProcessorStats.count (init : State Nat 1).stats ∧
      (init : State Nat 1).stats.Grows exportingOne.stats :=
  counters_grow .start exportingOne_run

end OtlpClient.Processor
