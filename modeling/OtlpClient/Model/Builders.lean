import OtlpClient.Model.Logs
import OtlpClient.Model.Metrics
import OtlpClient.Model.Traces

/-!
# Model — the builders

`gauge`, `sum_`, `log_record` and `span`, and the flags.  The arguments of a builder are a
structure, with its defaults.

* `readSpanFlags_spanFlags`: the flags of a span tell what they were built from.
-/

namespace OtlpClient.Model

/-! ### Metrics -/

/-- The arguments of `gauge`. -/
structure GaugeArguments where
  name : String
  value : NumberValue
  timeUnixNano : Int
  unit : String := ""
  description : String := ""
  attributes : Option Attributes := none

/-- The arguments of `sum_`. -/
structure SumArguments extends GaugeArguments where
  startTimeUnixNano : Option Int := none
  isMonotonic : Bool := true
  temporality : AggregationTemporality := .cumulative

/-- `gauge`. -/
def gauge (a : GaugeArguments) : Metric :=
  let point : NumberDataPoint :=
    { timeUnixNano := a.timeUnixNano, value := a.value, attributes := a.attributes.getD [] }
  { name := a.name, data := .gauge [point], unit := a.unit, description := a.description }

/-- `sum_`. -/
def sum_ (a : SumArguments) : Metric :=
  let point : NumberDataPoint :=
    { timeUnixNano := a.timeUnixNano, value := a.value, attributes := a.attributes.getD [],
      startTimeUnixNano := a.startTimeUnixNano }
  { name := a.name, data := .sum [point] a.temporality a.isMonotonic, unit := a.unit,
    description := a.description }

/-- `DATA_POINT_FLAGS_NO_RECORDED_VALUE`. -/
def dataPointFlagsNoRecordedValue : Nat := 0x1

/-- `data_point_flags`. -/
def dataPointFlags (noRecordedValue : Bool) : Int :=
  if noRecordedValue then dataPointFlagsNoRecordedValue else 0

/-! ### Logs -/

/-- `severity.name`. -/
def severityName : SeverityNumber → String
  | .unspecified => "UNSPECIFIED"
  | .trace => "TRACE"
  | .debug => "DEBUG"
  | .info => "INFO"
  | .warn => "WARN"
  | .error => "ERROR"
  | .fatal => "FATAL"

/-- The arguments of `log_record`. -/
structure LogArguments where
  body : AnyValue
  timeUnixNano : Int
  observedTimeUnixNano : Option Int := none
  severity : SeverityNumber := .unspecified
  severityText : Option String := none
  attributes : Option Attributes := none
  traceId : Option Bytes := none
  spanId : Option Bytes := none
  eventName : String := ""

/-- `log_record`. -/
def logRecord (a : LogArguments) : LogRecord where
  timeUnixNano := a.timeUnixNano
  observedTimeUnixNano := a.observedTimeUnixNano.getD a.timeUnixNano
  body := a.body
  severityNumber := a.severity
  severityText :=
    match a.severityText with
    | some text => text
    | none => if a.severity = .unspecified then "" else severityName a.severity
  attributes := a.attributes.getD []
  traceId := a.traceId
  spanId := a.spanId
  eventName := a.eventName

/-! ### Traces -/

/-- The arguments of `span`. -/
structure SpanArguments where
  name : String
  traceId : Bytes
  spanId : Bytes
  startTimeUnixNano : Int
  endTimeUnixNano : Int
  kind : SpanKind := .unspecified
  parentSpanId : Option Bytes := none
  traceState : String := ""
  flags : Int := 0
  attributes : Option Attributes := none
  events : List SpanEvent := []
  links : List SpanLink := []
  statusCode : StatusCode := .unset
  statusMessage : String := ""

/-- `span`: a status that says nothing is left out. -/
def span (a : SpanArguments) : Span where
  traceId := a.traceId
  spanId := a.spanId
  name := a.name
  startTimeUnixNano := a.startTimeUnixNano
  endTimeUnixNano := a.endTimeUnixNano
  kind := a.kind
  parentSpanId := a.parentSpanId
  traceState := a.traceState
  flags := a.flags
  attributes := a.attributes.getD []
  events := a.events
  links := a.links
  status :=
    if a.statusCode = .unset ∧ a.statusMessage = "" then none
    else some { code := a.statusCode, message := a.statusMessage }

/-- `SPAN_FLAGS_CONTEXT_HAS_IS_REMOTE`. -/
def spanFlagsContextHasIsRemote : Nat := 0x100

/-- `SPAN_FLAGS_CONTEXT_IS_REMOTE`. -/
def spanFlagsContextIsRemote : Nat := 0x200

/-- `span_flags`: `is_remote` may be unknown. -/
def spanFlags (sampled : Bool) (isRemote : Option Bool) : Nat :=
  let flags := if sampled then 0x01 else 0
  match isRemote with
  | none => flags
  | some isRemote =>
      let flags := flags ||| spanFlagsContextHasIsRemote
      if isRemote then flags ||| spanFlagsContextIsRemote else flags

/-- What the flags of a span say. -/
def readSpanFlags (flags : Nat) : Bool × Option Bool :=
  (flags &&& 0x1 ≠ 0,
    if flags &&& spanFlagsContextHasIsRemote = 0 then none
    else some (flags &&& spanFlagsContextIsRemote ≠ 0))

/-- The three states of `is_remote` are told apart, and so is the sampled flag. -/
theorem readSpanFlags_spanFlags (sampled : Bool) (isRemote : Option Bool) :
    readSpanFlags (spanFlags sampled isRemote) = (sampled, isRemote) ∧
      spanFlags sampled isRemote < 2 ^ 32 := by
  cases sampled <;> rcases isRemote with _ | _ | _ <;> decide

end OtlpClient.Model
