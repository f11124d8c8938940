import OtlpClient.Encoding.Json

/-!
# Encoding — reading a document back

A decoder from OTLP/JSON documents to the model, one definition a model type: the inverse the
encoder has no counterpart of in the source.  A key that is missing reads as the default of its
field.

`normalize` is what the encoding forgets: an absent start time is `0`, an absent version is `""`,
an absent id is no bytes, an absent status is the default status.
-/

namespace OtlpClient

open Proto

/-! ### Normal forms -/

def InstrumentationScope.normalize (s : InstrumentationScope) : InstrumentationScope :=
  { s with version := some (s.version.getD "") }

def Exemplar.normalize (e : Exemplar) : Exemplar :=
  { e with spanId := some (e.spanId.getD []), traceId := some (e.traceId.getD []) }

def NumberDataPoint.normalize (p : NumberDataPoint) : NumberDataPoint :=
  { p with
    startTimeUnixNano := some (p.startTimeUnixNano.getD 0)
    exemplars := p.exemplars.map Exemplar.normalize }

def HistogramDataPoint.normalize (p : HistogramDataPoint) : HistogramDataPoint :=
  { p with
    startTimeUnixNano := some (p.startTimeUnixNano.getD 0)
    exemplars := p.exemplars.map Exemplar.normalize }

def ExponentialHistogramDataPoint.normalize (p : ExponentialHistogramDataPoint) :
    ExponentialHistogramDataPoint :=
  { p with
    startTimeUnixNano := some (p.startTimeUnixNano.getD 0)
    exemplars := p.exemplars.map Exemplar.normalize }

def SummaryDataPoint.normalize (p : SummaryDataPoint) : SummaryDataPoint :=
  { p with startTimeUnixNano := some (p.startTimeUnixNano.getD 0) }

def MetricData.normalize : MetricData → MetricData
  | .gauge points => .gauge (points.map NumberDataPoint.normalize)
  | .sum points t monotonic => .sum (points.map NumberDataPoint.normalize) t monotonic
  | .histogram points t => .histogram (points.map HistogramDataPoint.normalize) t
  | .exponentialHistogram points t =>
      .exponentialHistogram (points.map ExponentialHistogramDataPoint.normalize) t
  | .summary points => .summary (points.map SummaryDataPoint.normalize)

def Metric.normalize (m : Metric) : Metric := { m with data := m.data.normalize }

def ScopeMetrics.normalize (sm : ScopeMetrics) : ScopeMetrics :=
  ⟨sm.scope.normalize, sm.metrics.map Metric.normalize⟩

def ResourceMetrics.normalize (rm : ResourceMetrics) : ResourceMetrics :=
  ⟨rm.resource, rm.scopeMetrics.map ScopeMetrics.normalize⟩

def LogRecord.normalize (r : LogRecord) : LogRecord :=
  { r with traceId := some (r.traceId.getD []), spanId := some (r.spanId.getD []) }

def ScopeLogs.normalize (sl : ScopeLogs) : ScopeLogs :=
  ⟨sl.scope.normalize, sl.logRecords.map LogRecord.normalize⟩

def ResourceLogs.normalize (rl : ResourceLogs) : ResourceLogs :=
  ⟨rl.resource, rl.scopeLogs.map ScopeLogs.normalize⟩

def Span.normalize (s : Span) : Span :=
  { s with
    parentSpanId := some (s.parentSpanId.getD [])
    status := some (s.status.getD {}) }

def ScopeSpans.normalize (ss : ScopeSpans) : ScopeSpans :=
  ⟨ss.scope.normalize, ss.spans.map Span.normalize⟩

def ResourceSpans.normalize (rs : ResourceSpans) : ResourceSpans :=
  ⟨rs.resource, rs.scopeSpans.map ScopeSpans.normalize⟩

/-! ### Readers of one entry -/

def asInt : Json → Option Int
  | .null => some 0
  | .int n => some n
  | .str s => decimal? s
  | _ => none

def asString : Json → Option String
  | .null => some ""
  | .str s => some s
  | _ => none

def asId : Json → Option Bytes
  | .null => some []
  | .str s => unhex? s
  | _ => none

def asDouble : Json → Option Binary64
  | .null => some .posZero
  | .float x => some x
  | _ => none

def asOptionalDouble : Json → Option (Option Binary64)
  | .null => some none
  | .float x => some (some x)
  | _ => none

def asBool : Json → Option Bool
  | .bool b => some b
  | _ => none

def asList {α : Type} (f : Json → Option α) : Json → Option (List α)
  | .null => some []
  | .arr js => js.mapM f
  | _ => none

/-- An integer of an enumeration. -/
def asEnum {α : Type} (f : α → Int) (members : List α) (j : Json) : Option α := do
  let n ← asInt j
  members.find? fun x => f x == n

/-! ### Attribute values -/

mutual
def decodeAnyValue : Json → Option AnyValue
  | .obj [("boolValue", .bool b)] => some (.bool b)
  | .obj [("intValue", .str s)] => (decimal? s).map .int
  | .obj [("doubleValue", .float x)] => some (.float x)
  | .obj [("stringValue", .str s)] => some (.str s)
  | .obj [("bytesValue", .str s)] => (unb64? s).map .bytes
  | .obj [("kvlistValue", .obj [("values", .arr js)])] => (decodeKeyValues js).map .mapping
  | .obj [("arrayValue", .obj [("values", .arr js)])] => (decodeAnyValues js).map .sequence
  | _ => none

def decodeAnyValues : List Json → Option (List AnyValue)
  | [] => some []
  | j :: js => do return (← decodeAnyValue j) :: (← decodeAnyValues js)

def decodeKeyValues : List Json → Option Attributes
  | [] => some []
  | .obj [("key", .str key), ("value", j)] :: js => do
      return (key, ← decodeAnyValue j) :: (← decodeKeyValues js)
  | _ => none
end

/-- The attributes of a dict. -/
def asAttributes : Json → Option Attributes
  | .null => some []
  | .arr js => decodeKeyValues js
  | _ => none

def decodeResource (j : Json) : Option Resource := do
  return ⟨← asAttributes (j.get "attributes"), ← asInt (j.get "droppedAttributesCount")⟩

def decodeScope (j : Json) : Option InstrumentationScope := do
  return ⟨← asString (j.get "name"), some (← asString (j.get "version")),
    ← asAttributes (j.get "attributes")⟩

/-! ### Metrics -/

/-- The two keys of a measurement. -/
def decodeValue (j : Json) : Option NumberValue :=
  match j.get "asInt", j.get "asDouble" with
  | .str s, .null => (decimal? s).map .int
  | .null, .float x => some (.float x)
  | _, _ => none

def decodeExemplar (j : Json) : Option Exemplar := do
  return {
    filteredAttributes := ← asAttributes (j.get "filteredAttributes")
    timeUnixNano := ← asInt (j.get "timeUnixNano")
    value := ← decodeValue j
    spanId := some (← asId (j.get "spanId"))
    traceId := some (← asId (j.get "traceId")) }

def decodeNumberPoint (j : Json) : Option NumberDataPoint := do
  return {
    attributes := ← asAttributes (j.get "attributes")
    startTimeUnixNano := some (← asInt (j.get "startTimeUnixNano"))
    timeUnixNano := ← asInt (j.get "timeUnixNano")
    flags := ← asInt (j.get "flags")
    exemplars := ← asList decodeExemplar (j.get "exemplars")
    value := ← decodeValue j }

def decodeHistogramPoint (j : Json) : Option HistogramDataPoint := do
  return {
    attributes := ← asAttributes (j.get "attributes")
    startTimeUnixNano := some (← asInt (j.get "startTimeUnixNano"))
    timeUnixNano := ← asInt (j.get "timeUnixNano")
    count := ← asInt (j.get "count")
    sum := ← asOptionalDouble (j.get "sum")
    bucketCounts := ← asList asInt (j.get "bucketCounts")
    explicitBounds := ← asList asDouble (j.get "explicitBounds")
    flags := ← asInt (j.get "flags")
    exemplars := ← asList decodeExemplar (j.get "exemplars")
    min := ← asOptionalDouble (j.get "min")
    max := ← asOptionalDouble (j.get "max") }

def decodeBuckets (j : Json) : Option Buckets := do
  return ⟨← asInt (j.get "offset"), ← asList asInt (j.get "bucketCounts")⟩

def decodeExponentialPoint (j : Json) : Option ExponentialHistogramDataPoint := do
  return {
    attributes := ← asAttributes (j.get "attributes")
    startTimeUnixNano := some (← asInt (j.get "startTimeUnixNano"))
    timeUnixNano := ← asInt (j.get "timeUnixNano")
    count := ← asInt (j.get "count")
    sum := ← asOptionalDouble (j.get "sum")
    scale := ← asInt (j.get "scale")
    zeroCount := ← asInt (j.get "zeroCount")
    positive := ← decodeBuckets (j.get "positive")
    negative := ← decodeBuckets (j.get "negative")
    min := ← asOptionalDouble (j.get "min")
    max := ← asOptionalDouble (j.get "max")
    flags := ← asInt (j.get "flags")
    exemplars := ← asList decodeExemplar (j.get "exemplars")
    zeroThreshold := ← asDouble (j.get "zeroThreshold") }

def decodeQuantile (j : Json) : Option ValueAtQuantile := do
  return ⟨← asDouble (j.get "quantile"), ← asDouble (j.get "value")⟩

def decodeSummaryPoint (j : Json) : Option SummaryDataPoint := do
  return {
    attributes := ← asAttributes (j.get "attributes")
    startTimeUnixNano := some (← asInt (j.get "startTimeUnixNano"))
    timeUnixNano := ← asInt (j.get "timeUnixNano")
    count := ← asInt (j.get "count")
    sum := ← asDouble (j.get "sum")
    quantileValues := ← asList decodeQuantile (j.get "quantileValues")
    flags := ← asInt (j.get "flags") }

def asTemporality : Json → Option AggregationTemporality :=
  asEnum AggregationTemporality.toInt [.unspecified, .delta, .cumulative]

/-- The keys the data of a metric may stand under. -/
def dataKeys : List String := ["gauge", "sum", "histogram", "exponentialHistogram", "summary"]

/-- The data of a metric, under the key of its type and no other. -/
def decodeMetricData (j : Json) : Option MetricData :=
  match j.get "gauge", j.get "sum", j.get "histogram", j.get "exponentialHistogram",
    j.get "summary" with
  | .null, .null, .null, .null, .null => none
  | d, .null, .null, .null, .null => do
      return .gauge (← asList decodeNumberPoint (d.get "dataPoints"))
  | .null, d, .null, .null, .null => do
      return .sum (← asList decodeNumberPoint (d.get "dataPoints"))
        (← asTemporality (d.get "aggregationTemporality")) (← asBool (d.get "isMonotonic"))
  | .null, .null, d, .null, .null => do
      return .histogram (← asList decodeHistogramPoint (d.get "dataPoints"))
        (← asTemporality (d.get "aggregationTemporality"))
  | .null, .null, .null, d, .null => do
      return .exponentialHistogram (← asList decodeExponentialPoint (d.get "dataPoints"))
        (← asTemporality (d.get "aggregationTemporality"))
  | .null, .null, .null, .null, d => do
      return .summary (← asList decodeSummaryPoint (d.get "dataPoints"))
  | _, _, _, _, _ => none

def decodeMetric (j : Json) : Option Metric := do
  return {
    name := ← asString (j.get "name")
    description := ← asString (j.get "description")
    unit := ← asString (j.get "unit")
    data := ← decodeMetricData j }

def decodeScopeMetrics (j : Json) : Option ScopeMetrics := do
  return ⟨← decodeScope (j.get "scope"), ← asList decodeMetric (j.get "metrics")⟩

def decodeOneResourceMetrics (j : Json) : Option ResourceMetrics := do
  return ⟨← decodeResource (j.get "resource"),
    ← asList decodeScopeMetrics (j.get "scopeMetrics")⟩

def decodeResourceMetrics (j : Json) : Option (List ResourceMetrics) :=
  asList decodeOneResourceMetrics (j.get "resourceMetrics")

/-! ### Logs -/

def asSeverity : Json → Option SeverityNumber :=
  asEnum SeverityNumber.toInt [.unspecified, .trace, .debug, .info, .warn, .error, .fatal]

def decodeLogRecord (j : Json) : Option LogRecord := do
  return {
    timeUnixNano := ← asInt (j.get "timeUnixNano")
    observedTimeUnixNano := ← asInt (j.get "observedTimeUnixNano")
    severityNumber := ← asSeverity (j.get "severityNumber")
    severityText := ← asString (j.get "severityText")
    body := ← decodeAnyValue (j.get "body")
    attributes := ← asAttributes (j.get "attributes")
    traceId := some (← asId (j.get "traceId"))
    spanId := some (← asId (j.get "spanId"))
    eventName := ← asString (j.get "eventName")
    flags := ← asInt (j.get "flags") }

def decodeScopeLogs (j : Json) : Option ScopeLogs := do
  return ⟨← decodeScope (j.get "scope"), ← asList decodeLogRecord (j.get "logRecords")⟩

def decodeOneResourceLogs (j : Json) : Option ResourceLogs := do
  return ⟨← decodeResource (j.get "resource"), ← asList decodeScopeLogs (j.get "scopeLogs")⟩

def decodeResourceLogs (j : Json) : Option (List ResourceLogs) :=
  asList decodeOneResourceLogs (j.get "resourceLogs")

/-! ### Traces -/

def asSpanKind : Json → Option SpanKind :=
  asEnum SpanKind.toInt [.unspecified, .internal, .server, .client, .producer, .consumer]

def asStatusCode : Json → Option StatusCode := asEnum StatusCode.toInt [.unset, .ok, .error]

def decodeSpanEvent (j : Json) : Option SpanEvent := do
  return ⟨← asInt (j.get "timeUnixNano"), ← asString (j.get "name"),
    ← asAttributes (j.get "attributes")⟩

def decodeSpanLink (j : Json) : Option SpanLink := do
  return {
    traceId := ← asId (j.get "traceId")
    spanId := ← asId (j.get "spanId")
    traceState := ← asString (j.get "traceState")
    flags := ← asInt (j.get "flags")
    attributes := ← asAttributes (j.get "attributes") }

def decodeStatus (j : Json) : Option Status := do
  return ⟨← asStatusCode (j.get "code"), ← asString (j.get "message")⟩

def decodeSpan (j : Json) : Option Span := do
  return {
    traceId := ← asId (j.get "traceId")
    spanId := ← asId (j.get "spanId")
    parentSpanId := some (← asId (j.get "parentSpanId"))
    name := ← asString (j.get "name")
    kind := ← asSpanKind (j.get "kind")
    startTimeUnixNano := ← asInt (j.get "startTimeUnixNano")
    endTimeUnixNano := ← asInt (j.get "endTimeUnixNano")
    traceState := ← asString (j.get "traceState")
    flags := ← asInt (j.get "flags")
    attributes := ← asAttributes (j.get "attributes")
    events := ← asList decodeSpanEvent (j.get "events")
    links := ← asList decodeSpanLink (j.get "links")
    status := some (← decodeStatus (j.get "status")) }

def decodeScopeSpans (j : Json) : Option ScopeSpans := do
  return ⟨← decodeScope (j.get "scope"), ← asList decodeSpan (j.get "spans")⟩

def decodeOneResourceSpans (j : Json) : Option ResourceSpans := do
  return ⟨← decodeResource (j.get "resource"), ← asList decodeScopeSpans (j.get "scopeSpans")⟩

def decodeResourceSpans (j : Json) : Option (List ResourceSpans) :=
  asList decodeOneResourceSpans (j.get "resourceSpans")

end OtlpClient
