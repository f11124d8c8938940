import OtlpClient.Encoding.Primitives
import OtlpClient.Model.Logs
import OtlpClient.Model.Metrics
import OtlpClient.Model.Traces

/-!
# Encoding — OTLP/JSON

The document builders of `encoding/json.py`, one definition a function, entries in the order the
source writes them.  A builder raises where the source does: on a bool as a measurement, on an
attribute value of no known class, on an integer `str` refuses.
-/

namespace OtlpClient

open Proto

/-- `u64(x) if x is not None else None`. -/
def optU64 : Option Int → Except PyError Json
  | none => return .null
  | some x => return .str (← u64 x)

/-- `hex_id(x) if x else None`: absent for `None` and for no bytes. -/
def optHexId : Option Bytes → Json
  | none | some [] => .null
  | some x => .str (hexId x)

/-- `x if x or math.copysign(1.0, x) < 0 else None`. -/
def keepDouble (x : Binary64) : Json := if !x.isZero || x.negative then .float x else .null

def encodeResource (resource : Resource) : Except PyError Json := do
  return omitEmpty
    [("attributes", .arr (← encodeAttributes resource.attributes)),
      ("droppedAttributesCount", orNone resource.droppedAttributesCount)]

def encodeScope (scope : InstrumentationScope) : Except PyError Json := do
  return omitEmpty
    [("name", .str scope.name),
      ("version", optional .str scope.version),
      ("attributes", .arr (← encodeAttributes scope.attributes))]

/-- The one entry of `value_field`.  A bool is refused before an int is recognised. -/
def valueField (refusal : String) : NumberValue → Except PyError (String × Json)
  | .bool _ => throw (.typeError refusal)
  | .int value => return ("asInt", .str (← u64 value))
  | .float value => return ("asDouble", .float value)

/-! ### Metrics -/

def encodeExemplar (exemplar : Exemplar) : Except PyError Json := do
  let field ← valueField "exemplar values must be int or float, not bool" exemplar.value
  return omitEmpty
    [("filteredAttributes", .arr (← encodeAttributes exemplar.filteredAttributes)),
      ("timeUnixNano", .str (← u64 exemplar.timeUnixNano)),
      field,
      ("spanId", optHexId exemplar.spanId),
      ("traceId", optHexId exemplar.traceId)]

def encodeNumberPoint (point : NumberDataPoint) : Except PyError Json := do
  let field ← valueField "metric data point values must be int or float, not bool" point.value
  return omitEmpty
    [("attributes", .arr (← encodeAttributes point.attributes)),
      ("startTimeUnixNano", ← optU64 point.startTimeUnixNano),
      ("timeUnixNano", .str (← u64 point.timeUnixNano)),
      ("flags", orNone point.flags),
      ("exemplars", .arr (← point.exemplars.mapM encodeExemplar)),
      field]

/-- `[u64(c) for c in counts]`. -/
def encodeCounts (counts : List Int) : Except PyError Json := do
  return .arr (← counts.mapM fun c => return .str (← u64 c))

def encodeHistogramPoint (point : HistogramDataPoint) : Except PyError Json := do
  return omitEmpty
    [("attributes", .arr (← encodeAttributes point.attributes)),
      ("startTimeUnixNano", ← optU64 point.startTimeUnixNano),
      ("timeUnixNano", .str (← u64 point.timeUnixNano)),
      ("count", .str (← u64 point.count)),
      ("sum", optional .float point.sum),
      ("bucketCounts", ← encodeCounts point.bucketCounts),
      ("explicitBounds", .arr (point.explicitBounds.map .float)),
      ("flags", orNone point.flags),
      ("exemplars", .arr (← point.exemplars.mapM encodeExemplar)),
      ("min", optional .float point.min),
      ("max", optional .float point.max)]

def encodeBuckets (buckets : Buckets) : Except PyError Json := do
  return omitEmpty
    [("offset", orNone buckets.offset),
      ("bucketCounts", ← encodeCounts buckets.bucketCounts)]

def encodeExponentialPoint (point : ExponentialHistogramDataPoint) : Except PyError Json := do
  return omitEmpty
    [("attributes", .arr (← encodeAttributes point.attributes)),
      ("startTimeUnixNano", ← optU64 point.startTimeUnixNano),
      ("timeUnixNano", .str (← u64 point.timeUnixNano)),
      ("count", .str (← u64 point.count)),
      ("sum", optional .float point.sum),
      ("scale", orNone point.scale),
      -- `u64(point.zero_count) if point.zero_count else None`
      ("zeroCount", ← optU64 (if point.zeroCount = 0 then none else some point.zeroCount)),
      ("positive", ← encodeBuckets point.positive),
      ("negative", ← encodeBuckets point.negative),
      ("min", optional .float point.min),
      ("max", optional .float point.max),
      ("flags", orNone point.flags),
      ("exemplars", .arr (← point.exemplars.mapM encodeExemplar)),
      ("zeroThreshold", keepDouble point.zeroThreshold)]

def encodeQuantile (q : ValueAtQuantile) : Json :=
  .obj [("quantile", .float q.quantile), ("value", .float q.value)]

def encodeSummaryPoint (point : SummaryDataPoint) : Except PyError Json := do
  return omitEmpty
    [("attributes", .arr (← encodeAttributes point.attributes)),
      ("startTimeUnixNano", ← optU64 point.startTimeUnixNano),
      ("timeUnixNano", .str (← u64 point.timeUnixNano)),
      ("count", .str (← u64 point.count)),
      ("sum", keepDouble point.sum),
      ("quantileValues", .arr (point.quantileValues.map encodeQuantile)),
      ("flags", orNone point.flags)]

/-- The entry `_encode_metric` gives the data. -/
def encodeMetricData : MetricData → Except PyError (String × Json)
  | .gauge points =>
      return ("gauge", .obj [("dataPoints", .arr (← points.mapM encodeNumberPoint))])
  | .sum points temporality monotonic =>
      return ("sum", .obj
        [("dataPoints", .arr (← points.mapM encodeNumberPoint)),
          ("aggregationTemporality", .int temporality.toInt),
          ("isMonotonic", .bool monotonic)])
  | .histogram points temporality =>
      return ("histogram", .obj
        [("dataPoints", .arr (← points.mapM encodeHistogramPoint)),
          ("aggregationTemporality", .int temporality.toInt)])
  | .exponentialHistogram points temporality =>
      return ("exponentialHistogram", .obj
        [("dataPoints", .arr (← points.mapM encodeExponentialPoint)),
          ("aggregationTemporality", .int temporality.toInt)])
  | .summary points =>
      return ("summary", .obj [("dataPoints", .arr (← points.mapM encodeSummaryPoint))])

def encodeMetric (metric : Metric) : Except PyError Json := do
  let body ← encodeMetricData metric.data
  return omitEmpty
    [("name", .str metric.name),
      ("description", .str metric.description),
      ("unit", .str metric.unit),
      body]

def encodeScopeMetrics (scopeMetrics : ScopeMetrics) : Except PyError Json := do
  return omitEmpty
    [("scope", ← encodeScope scopeMetrics.scope),
      ("metrics", .arr (← scopeMetrics.metrics.mapM encodeMetric))]

/-- One element of `resourceMetrics`. -/
def encodeOneResourceMetrics (rm : ResourceMetrics) : Except PyError Json := do
  return omitEmpty
    [("resource", ← encodeResource rm.resource),
      ("scopeMetrics", .arr (← rm.scopeMetrics.mapM encodeScopeMetrics))]

def encodeResourceMetrics (data : List ResourceMetrics) : Except PyError Json := do
  return .obj [("resourceMetrics", .arr (← data.mapM encodeOneResourceMetrics))]

/-! ### Logs -/

def encodeLogRecord (record : LogRecord) : Except PyError Json := do
  return omitEmpty
    [("timeUnixNano", .str (← u64 record.timeUnixNano)),
      ("observedTimeUnixNano", .str (← u64 record.observedTimeUnixNano)),
      ("severityNumber", orNone record.severityNumber.toInt),
      ("severityText", .str record.severityText),
      ("body", ← encodeAnyValue record.body),
      ("attributes", .arr (← encodeAttributes record.attributes)),
      ("traceId", optHexId record.traceId),
      ("spanId", optHexId record.spanId),
      ("eventName", .str record.eventName),
      ("flags", orNone record.flags)]

/-- One element of `scopeLogs`. -/
def encodeScopeLogs (sl : ScopeLogs) : Except PyError Json := do
  return omitEmpty
    [("scope", ← encodeScope sl.scope),
      ("logRecords", .arr (← sl.logRecords.mapM encodeLogRecord))]

/-- One element of `resourceLogs`. -/
def encodeOneResourceLogs (rl : ResourceLogs) : Except PyError Json := do
  return omitEmpty
    [("resource", ← encodeResource rl.resource),
      ("scopeLogs", .arr (← rl.scopeLogs.mapM encodeScopeLogs))]

def encodeResourceLogs (data : List ResourceLogs) : Except PyError Json := do
  return .obj [("resourceLogs", .arr (← data.mapM encodeOneResourceLogs))]

/-! ### Traces -/

def encodeSpanEvent (event : SpanEvent) : Except PyError Json := do
  return omitEmpty
    [("timeUnixNano", .str (← u64 event.timeUnixNano)),
      ("name", .str event.name),
      ("attributes", .arr (← encodeAttributes event.attributes))]

def encodeSpanLink (link : SpanLink) : Except PyError Json := do
  return omitEmpty
    [("traceId", .str (hexId link.traceId)),
      ("spanId", .str (hexId link.spanId)),
      ("traceState", .str link.traceState),
      ("flags", orNone link.flags),
      ("attributes", .arr (← encodeAttributes link.attributes))]

/-- The status entry of `_encode_span`, `{}` when it carries nothing. -/
def encodeStatus (status : Status) : Json :=
  omitEmpty [("code", orNone status.code.toInt), ("message", .str status.message)]

def encodeSpan (item : Span) : Except PyError Json := do
  return omitEmpty
    [("traceId", .str (hexId item.traceId)),
      ("spanId", .str (hexId item.spanId)),
      ("parentSpanId", optHexId item.parentSpanId),
      ("name", .str item.name),
      ("kind", orNone item.kind.toInt),
      ("startTimeUnixNano", .str (← u64 item.startTimeUnixNano)),
      ("endTimeUnixNano", .str (← u64 item.endTimeUnixNano)),
      ("traceState", .str item.traceState),
      ("flags", orNone item.flags),
      ("attributes", .arr (← encodeAttributes item.attributes)),
      ("events", .arr (← item.events.mapM encodeSpanEvent)),
      ("links", .arr (← item.links.mapM encodeSpanLink)),
      ("status", optional encodeStatus item.status)]

/-- One element of `scopeSpans`. -/
def encodeScopeSpans (ss : ScopeSpans) : Except PyError Json := do
  return omitEmpty
    [("scope", ← encodeScope ss.scope),
      ("spans", .arr (← ss.spans.mapM encodeSpan))]

/-- One element of `resourceSpans`. -/
def encodeOneResourceSpans (rs : ResourceSpans) : Except PyError Json := do
  return omitEmpty
    [("resource", ← encodeResource rs.resource),
      ("scopeSpans", .arr (← rs.scopeSpans.mapM encodeScopeSpans))]

def encodeResourceSpans (data : List ResourceSpans) : Except PyError Json := do
  return .obj [("resourceSpans", .arr (← data.mapM encodeOneResourceSpans))]

end OtlpClient
