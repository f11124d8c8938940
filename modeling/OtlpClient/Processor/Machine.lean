import Mathlib.Logic.Function.Basic
import OtlpClient.Model.Common
import OtlpClient.Outcomes
import OtlpClient.Support.Deque
import OtlpClient.Support.Machine

/-!
# Processor — the machine

`processor.py` as a machine.  A step takes the event loop from one suspension point of one task to
the next: every stretch of code between two awaits is one step, and which task moves is open.
Three kinds of task run the code: the background task (`_run`), the task of the `async with` block
once it is in `__aexit__`, and any number of callers of `flush`.

`asyncio` is read as documented, and no more finely than the code needs: whoever waits for a free
lock may get it, a timer may fire at any time, and a task that is cancelled sees `CancelledError` at
the await it is at.

* `submit`, `settle`, `resume`: what the code does between two awaits.
* `Step`: the steps.
-/

namespace OtlpClient.Processor

/-- A task that may hold the lock. -/
inductive Task where
  | background
  | exit
  | caller (n : Nat)
  deriving DecidableEq, Repr

/-- Where a task is in `flush`. -/
inductive FlushPc (α : Type) where
  | idle
  /-- At `async with self._lock`. -/
  | acquiring
  /-- At `await self._export_batch(kind, batch)`, with the signals still to come. -/
  | exporting (kind : SignalKind) (batch : List α) (rest : List SignalKind)

/-- Where the background task is in `_run`. -/
inductive BackgroundPc where
  | absent
  | created
  /-- At `await self._wake.wait()`. -/
  | waiting
  /-- At `await self.flush()`. -/
  | flushing
  | finished
  deriving DecidableEq, Repr

/-- Where the task of the block is in `__aexit__`. -/
inductive ExitPc where
  | notEntered
  /-- At `await self._task`. -/
  | joining
  /-- At `await self.flush()`. -/
  | flushing
  | returned
  /-- Left by `CancelledError`. -/
  | raised
  deriving DecidableEq, Repr

/-- How an export ended. -/
inductive ExportResult where
  | success
  | partialSuccess (p : PartialSuccess)
  /-- An `Exception`, by its text. -/
  | raised (message : String)
  /-- `CancelledError`. -/
  | cancelled
  deriving DecidableEq, Repr

/-- The level a failure is logged at. -/
inductive LogLevel where
  | warning
  | debug
  deriving DecidableEq, Repr

/-- What a step does that its state does not keep. -/
inductive Event (α : Type) where
  /-- A record is appended to its queue. -/
  | accepted (kind : SignalKind) (record : α)
  /-- An append drops the oldest record. -/
  | evicted (kind : SignalKind) (record : α)
  /-- A batch is handed to the client. -/
  | handed (kind : SignalKind) (batch : List α)
  /-- The export of a batch ends. -/
  | settled (kind : SignalKind) (batch : List α) (result : ExportResult)
  /-- A failed export is logged. -/
  | logged (kind : SignalKind) (level : LogLevel)
  /-- `flush` returns in a task. -/
  | flushed (t : Task)
  /-- `CancelledError` leaves `flush`, or the wait before it, in a task. -/
  | cancelled (t : Task)

/-- The keys of `_queues`, in order. -/
def signals : List SignalKind := [.metrics, .logs, .traces]

/-- The processor and the tasks in it; `m` is `max_queue`. -/
structure State (α : Type) (m : Nat) where
  queue : SignalKind → Deque α m
  wake : Bool := false
  closed : Bool := false
  /-- The holder of `_lock`. -/
  lock : Option Task := none
  flushed : Bool := false
  submitted : Int := 0
  exported : Int := 0
  dropped : Int := 0
  consecutiveFailures : Nat := 0
  lastError : Option String := none
  flush : Task → FlushPc α
  background : BackgroundPc := .absent
  exit : ExitPc := .notEntered
  /-- `CancelledError` is due at the await of the task. -/
  cancelling : Task → Bool

variable {α : Type} {m : Nat}

/-- A processor that has just been built. -/
def init : State α m where
  queue _ := .empty
  flush _ := .idle
  cancelling _ := false

/-! ### `_submit` -/

/-- `queue.append(record)`, with the counters. -/
def append (kind : SignalKind) (s : State α m) (record : α) : State α m :=
  { s with
    queue := Function.update s.queue kind ((s.queue kind).append record)
    submitted := s.submitted + 1
    dropped := if (s.queue kind).IsFull then s.dropped + 1 else s.dropped }

def appendEvents (kind : SignalKind) (s : State α m) (record : α) : List (Event α) :=
  .accepted kind record :: ((s.queue kind).evicted record).map (.evicted kind)

/-- The loop of `_submit`: the state, the events, and whether no record was dropped. -/
def appendAll (kind : SignalKind) (s : State α m) : List α → State α m × List (Event α) × Bool
  | [] => (s, [], true)
  | record :: records =>
      let (s', es, accepted) := appendAll kind (append kind s record) records
      (s', appendEvents kind s record ++ es, !decide (s.queue kind).IsFull && accepted)

/-- `_submit`. -/
def submit (maxBatch : Int) (kind : SignalKind) (records : List α) (s : State α m) :
    State α m × List (Event α) × Bool :=
  if s.closed then (s, [], false)
  else
    -- The length the queue ends with sets the event, whatever was dropped on the way.
    let (s', es, accepted) := appendAll kind s records
    ({ s' with wake := s'.wake || decide (maxBatch ≤ (s'.queue kind).items.length) }, es, accepted)

/-! ### `flush` -/

/-- The first signal with something queued, and the signals after it. -/
def nextBatch (queue : SignalKind → Deque α m) :
    List SignalKind → Option (SignalKind × List SignalKind)
  | [] => none
  | kind :: rest =>
      if (queue kind).items.isEmpty then nextBatch queue rest else some (kind, rest)

/-- `flush` returns in a task. -/
def returned (s : State α m) : Task → State α m
  | .background => { s with background := .waiting, flushed := true }
  | .exit => { s with exit := .returned }
  | .caller _ => s

/-- `CancelledError` leaves the task's flush, or its wait. -/
def left (s : State α m) : Task → State α m
  | .background => { s with background := .finished }
  | .exit => { s with exit := .raised }
  | .caller _ => s

section Frames

variable (s : State α m) (t : Task)

@[simp] theorem returned_queue : (returned s t).queue = s.queue := by cases t <;> rfl
@[simp] theorem returned_lock : (returned s t).lock = s.lock := by cases t <;> rfl
@[simp] theorem returned_flush : (returned s t).flush = s.flush := by cases t <;> rfl
@[simp] theorem returned_closed : (returned s t).closed = s.closed := by cases t <;> rfl
@[simp] theorem returned_submitted : (returned s t).submitted = s.submitted := by cases t <;> rfl
@[simp] theorem returned_exported : (returned s t).exported = s.exported := by cases t <;> rfl
@[simp] theorem returned_dropped : (returned s t).dropped = s.dropped := by cases t <;> rfl
@[simp] theorem returned_cancelling : (returned s t).cancelling = s.cancelling := by
  cases t <;> rfl

theorem returned_exit {t : Task} (ht : t ≠ .exit) : (returned s t).exit = s.exit := by
  cases t with
  | exit => exact absurd rfl ht
  | background => rfl
  | caller n => rfl

@[simp] theorem left_queue : (left s t).queue = s.queue := by cases t <;> rfl
@[simp] theorem left_lock : (left s t).lock = s.lock := by cases t <;> rfl
@[simp] theorem left_flush : (left s t).flush = s.flush := by cases t <;> rfl
@[simp] theorem left_closed : (left s t).closed = s.closed := by cases t <;> rfl
@[simp] theorem left_submitted : (left s t).submitted = s.submitted := by cases t <;> rfl
@[simp] theorem left_exported : (left s t).exported = s.exported := by cases t <;> rfl
@[simp] theorem left_dropped : (left s t).dropped = s.dropped := by cases t <;> rfl
@[simp] theorem left_cancelling : (left s t).cancelling = s.cancelling := by cases t <;> rfl

end Frames

/-- The loop of `flush` from the signals still to come: drain the next queue that is not empty and
hand its batch over, or release the lock and return. -/
def resume (s : State α m) (t : Task) (kinds : List SignalKind) : State α m × List (Event α) :=
  match nextBatch s.queue kinds with
  | some (kind, rest) =>
      let batch := (s.queue kind).items
      ({ s with
          queue := Function.update s.queue kind .empty
          flush := Function.update s.flush t (.exporting kind batch rest) },
        [.handed kind batch])
  | none =>
      -- `async with self._lock` is left.
      (returned { s with lock := none, flush := Function.update s.flush t .idle } t, [.flushed t])

/-- `_log_export_failure`. -/
def failureLevel (consecutiveFailures : Nat) : LogLevel :=
  if consecutiveFailures = 1 then .warning else .debug

/-- The counters after the export of a batch. -/
def settle (s : State α m) (batch : List α) : ExportResult → State α m
  | .success =>
      { s with
        consecutiveFailures := 0
        lastError := none
        exported := s.exported + max 0 (batch.length : Int) }
  -- The count of the collector is clamped from below only.
  | .partialSuccess p =>
      { s with
        consecutiveFailures := 0
        lastError := some ("partial success: " ++ p.message)
        exported := s.exported + max 0 (batch.length - p.rejected) }
  | .raised message =>
      { s with
        consecutiveFailures := s.consecutiveFailures + 1
        lastError := some message
        dropped := s.dropped + batch.length }
  -- The batch has left its queue: it is dropped, and the error goes on.
  | .cancelled => { s with dropped := s.dropped + batch.length }

/-- What the end of an export puts out. -/
def settleEvents (s : State α m) (kind : SignalKind) (batch : List α) (result : ExportResult) :
    List (Event α) :=
  match result with
  | .raised _ =>
      [.settled kind batch result, .logged kind (failureLevel (s.consecutiveFailures + 1))]
  | _ => [.settled kind batch result]

/-! ### Cancellation -/

/-- The task has not ended, so that `cancel` does something to it. -/
def IsLive (s : State α m) : Task → Prop
  | .background => s.background ≠ .absent ∧ s.background ≠ .finished
  | .exit => s.exit = .joining ∨ s.exit = .flushing
  | .caller n => s.flush (.caller n) ≠ .idle

/-- `CancelledError` leaves `flush`, at the lock or during an export. -/
def leaveFlush (s : State α m) (t : Task) : State α m :=
  left { s with
    flush := Function.update s.flush t .idle
    cancelling := Function.update s.cancelling t false } t

/-- `self._task.cancel()`. -/
def cancelBackground (s : State α m) : State α m :=
  if s.background = .absent ∨ s.background = .finished then s
  else { s with cancelling := Function.update s.cancelling .background true }

/-- `cancel` of a task.  One that awaits the background task cancels that too. -/
def cancel (s : State α m) (t : Task) : State α m :=
  let s := { s with cancelling := Function.update s.cancelling t true }
  if t = .exit ∧ s.exit = .joining then cancelBackground s else s

/-! ### `__aexit__` -/

/-- `__aexit__`, until it awaits the background task, or the lock where there is no such task. -/
def exitBlock (s : State α m) : State α m :=
  let s := { s with closed := true }
  if s.background = .absent then
    { s with exit := .flushing, flush := Function.update s.flush .exit .acquiring }
  else { cancelBackground s with exit := .joining }

/-! ### The steps -/

/-- Which task moves, or what it is told. -/
inductive Action (α : Type) where
  | submit (kind : SignalKind) (records : List α)
  /-- `__aenter__`. -/
  | enter
  /-- The background task runs for the first time. -/
  | start
  /-- `_wake` is set, or the timeout of the background task fires. -/
  | wakeUp
  /-- A caller calls `flush`. -/
  | call (n : Nat)
  | acquire (t : Task)
  /-- The export of a task ends. -/
  | finish (t : Task) (result : ExportResult)
  | cancel (t : Task)
  /-- `CancelledError` is raised in a task that is not exporting. -/
  | deliver (t : Task)
  /-- `__aexit__` is entered. -/
  | exitBlock
  /-- The background task that `__aexit__` awaits has ended. -/
  | join

/-- The steps of the processor.  `flush` raises nothing but `CancelledError`, so the net that `_run`
and `__aexit__` put around it for any other exception has nothing to catch. -/
inductive Step (maxBatch : Int) : Machine (State α m) (Action α) (Event α) where
  | submit {s : State α m} {kind : SignalKind} {records : List α} (hk : kind ∈ signals) :
      Step maxBatch s (.submit kind records) (submit maxBatch kind records s).1
        (submit maxBatch kind records s).2.1
  | enter {s : State α m} (hb : s.background = .absent) (he : s.exit = .notEntered) :
      Step maxBatch s .enter { s with background := .created } []
  | start {s : State α m} (hb : s.background = .created)
      (hc : s.cancelling .background = false) :
      Step maxBatch s .start { s with background := .waiting } []
  -- Both events are cleared before the lock is awaited.
  | wakeUp {s : State α m} (hb : s.background = .waiting)
      (hc : s.cancelling .background = false) :
      Step maxBatch s .wakeUp
        { s with
          wake := false
          flushed := false
          background := .flushing
          flush := Function.update s.flush .background .acquiring } []
  | call {s : State α m} {n : Nat} (hf : s.flush (.caller n) = .idle) :
      Step maxBatch s (.call n)
        { s with flush := Function.update s.flush (.caller n) .acquiring } []
  | acquire {s : State α m} {t : Task} (hf : s.flush t = .acquiring)
      (hc : s.cancelling t = false) (hl : s.lock = none) :
      Step maxBatch s (.acquire t) (resume { s with lock := some t } t signals).1
        (resume { s with lock := some t } t signals).2
  -- An export that ends another way keeps the `CancelledError` that was due in it.
  | finish {s : State α m} {t : Task} {kind : SignalKind} {batch : List α}
      {rest : List SignalKind} {result : ExportResult}
      (hf : s.flush t = .exporting kind batch rest) (hr : result ≠ .cancelled) :
      Step maxBatch s (.finish t result)
        (resume { settle s batch result with
          cancelling := Function.update s.cancelling t false } t rest).1
        (settleEvents s kind batch result ++
          (resume { settle s batch result with
            cancelling := Function.update s.cancelling t false } t rest).2)
  | abort {s : State α m} {t : Task} {kind : SignalKind} {batch : List α}
      {rest : List SignalKind} (hf : s.flush t = .exporting kind batch rest) :
      Step maxBatch s (.finish t .cancelled)
        (leaveFlush { settle s batch .cancelled with lock := none } t)
        (settleEvents s kind batch .cancelled ++ [.cancelled t])
  | cancel {s : State α m} {t : Task} (ht : IsLive s t) :
      Step maxBatch s (.cancel t) (cancel s t) []
  -- Before its first step, or at `self._wake.wait()`.
  | deliver {s : State α m} (hb : s.background = .created ∨ s.background = .waiting)
      (hc : s.cancelling .background = true) :
      Step maxBatch s (.deliver .background) (leaveFlush s .background) [.cancelled .background]
  | deliverAcquiring {s : State α m} {t : Task} (hf : s.flush t = .acquiring)
      (hc : s.cancelling t = true) :
      Step maxBatch s (.deliver t) (leaveFlush s t) [.cancelled t]
  | exitBlock {s : State α m} (he : s.exit = .notEntered) :
      Step maxBatch s .exitBlock (exitBlock s) []
  -- `except asyncio.CancelledError: pass`, whichever task the error was due in.
  | join {s : State α m} (he : s.exit = .joining) (hb : s.background = .finished) :
      Step maxBatch s .join
        { s with
          exit := .flushing
          flush := Function.update s.flush .exit .acquiring
          cancelling := Function.update s.cancelling .exit false } []

/-- A run of the processor, from its construction. -/
abbrev Run (maxBatch : Int) : State α m → List (Event α) → Prop :=
  Machine.Run (Step maxBatch) init

/-! ### A short run -/

/-- Two records are submitted to a queue of one, and a caller flushes. -/
def calling : State Nat 1 :=
  let s := (submit 512 .metrics [1, 2] (init : State Nat 1)).1
  { s with flush := Function.update s.flush (.caller 0) .acquiring }

/-- The caller exports the record that was not dropped. -/
def exportingOne : State Nat 1 :=
  (resume { calling with lock := some (.caller 0) } (.caller 0) signals).1

/-- What has happened until then. -/
def exportingOneTrace : List (Event Nat) :=
  [.accepted .metrics 1, .accepted .metrics 2, .evicted .metrics 1, .handed .metrics [2]]

theorem exportingOne_run : Run 512 exportingOne exportingOneTrace :=
  ((Machine.Run.start.next (.submit (by decide))).next (.call rfl)).next
    (Step.acquire (s := calling) (t := .caller 0) rfl rfl rfl)

end OtlpClient.Processor
