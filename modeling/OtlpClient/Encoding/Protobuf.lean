import OtlpClient.Encoding.Schema
import OtlpClient.Model.Logs
import OtlpClient.Model.Metrics
import OtlpClient.Model.Traces

/-!
# Encoding — OTLP/protobuf

The message builders of `encoding/protobuf.py`, up to `SerializeToString`: each calls the message
class of its type with the source's keyword arguments.
-/

namespace OtlpClient.Protobuf

open Proto

/-- A message class called with keyword arguments. -/
abbrev build (m : Msg) (kwargs : List (String × Option Value)) : Except PyError Value :=
  otlp.construct m kwargs

mutual
def anyValue : AnyValue → Except PyError Value
  | .bool value => build .anyValue [("bool_value", some (.bool value))]
  | .int value => build .anyValue [("int_value", some (.int value))]
  | .float value => build .anyValue [("double_value", some (.double value))]
  | .str value => build .anyValue [("string_value", some (.str value))]
  | .bytes value => build .anyValue [("bytes_value", some (.bytes value))]
  | .mapping items => do
      let kvs ← build .keyValueList [("values", some (.list (← keyValues items)))]
      build .anyValue [("kvlist_value", some kvs)]
  | .sequence vs => do
      let array ← build .arrayValue [("values", some (.list (← anyValues vs)))]
      build .anyValue [("array_value", some array)]
  | .other type => throw (.typeError ("unsupported attribute value type: " ++ type))

def anyValues : List AnyValue → Except PyError (List Value)
  | [] => return []
  | v :: vs => return (← anyValue v) :: (← anyValues vs)

def keyValues : List (String × AnyValue) → Except PyError (List Value)
  | [] => return []
  | item :: items => return (← keyValue item) :: (← keyValues items)

def keyValue : String × AnyValue → Except PyError Value
  | (key, value) => do
      build .keyValue [("key", some (.str key)), ("value", some (← anyValue value))]
end

/-- A Resource that carries nothing worth wire presence. -/
def resourceIsEmpty (resource : Resource) : Bool :=
  resource.attributes.isEmpty && resource.droppedAttributesCount == 0

def resource (r : Resource) : Except PyError Value := do
  build .resource
    [("attributes", some (.list (← keyValues r.attributes))),
      ("dropped_attributes_count", some (.int r.droppedAttributesCount))]

/-- An InstrumentationScope that carries nothing worth wire presence. -/
def scopeIsEmpty (scope : InstrumentationScope) : Bool :=
  scope.name == "" && (scope.version.getD "") == "" && scope.attributes.isEmpty

def scope (s : InstrumentationScope) : Except PyError Value := do
  build .instrumentationScope
    [("name", some (.str s.name)),
      ("version", some (.str (s.version.getD ""))),
      ("attributes", some (.list (← keyValues s.attributes)))]

/-- `None if empty else message`: the argument of a field with explicit presence. -/
def unlessEmpty (empty : Bool) (message : Except PyError Value) : Except PyError (Option Value) :=
  if empty then return none else return some (← message)

/-! ### Metrics -/

/-- A Buckets side that carries nothing worth wire presence. -/
def bucketsIsEmpty (b : Buckets) : Bool := b.offset == 0 && b.bucketCounts.isEmpty

def ints (ns : List Int) : Value := .list (ns.map .int)

def buckets (b : Buckets) : Except PyError Value :=
  build .buckets
    [("offset", some (.int b.offset)), ("bucket_counts", some (ints b.bucketCounts))]

/-- The keyword argument for a measurement; a bool is refused. -/
def valueArgument (refusal : String) : NumberValue → Except PyError (String × Option Value)
  | .bool _ => throw (.typeError refusal)
  | .int value => return ("as_int", some (.int value))
  | .float value => return ("as_double", some (.double value))

def exemplar (e : Exemplar) : Except PyError Value := do
  let value ← valueArgument "exemplar values must be int or float, not bool" e.value
  build .exemplar
    [value,
      ("filtered_attributes", some (.list (← keyValues e.filteredAttributes))),
      ("time_unix_nano", some (.int e.timeUnixNano)),
      ("span_id", some (.bytes (e.spanId.getD []))),
      ("trace_id", some (.bytes (e.traceId.getD [])))]

def numberPoint (point : NumberDataPoint) : Except PyError Value := do
  let attributes ← keyValues point.attributes
  let exemplars ← point.exemplars.mapM exemplar
  let value ← valueArgument "metric data point values must be int or float, not bool" point.value
  build .numberDataPoint
    [value,
      ("attributes", some (.list attributes)),
      ("time_unix_nano", some (.int point.timeUnixNano)),
      ("start_time_unix_nano", some (.int (point.startTimeUnixNano.getD 0))),
      ("flags", some (.int point.flags)),
      ("exemplars", some (.list exemplars))]

/-- The `HistogramDataPoint` of `_metric`. -/
def histogramPoint (p : HistogramDataPoint) : Except PyError Value := do
  build .histogramDataPoint
    [("attributes", some (.list (← keyValues p.attributes))),
      ("time_unix_nano", some (.int p.timeUnixNano)),
      ("start_time_unix_nano", some (.int (p.startTimeUnixNano.getD 0))),
      ("count", some (.int p.count)),
      ("sum", p.sum.map .double),
      ("bucket_counts", some (ints p.bucketCounts)),
      ("explicit_bounds", some (.list (p.explicitBounds.map .double))),
      ("flags", some (.int p.flags)),
      ("min", p.min.map .double),
      ("max", p.max.map .double),
      ("exemplars", some (.list (← p.exemplars.mapM exemplar)))]

/-- The `ExponentialHistogramDataPoint` of `_metric`. -/
def exponentialPoint (p : ExponentialHistogramDataPoint) : Except PyError Value := do
  build .exponentialHistogramDataPoint
    [("attributes", some (.list (← keyValues p.attributes))),
      ("time_unix_nano", some (.int p.timeUnixNano)),
      ("start_time_unix_nano", some (.int (p.startTimeUnixNano.getD 0))),
      ("count", some (.int p.count)),
      ("sum", p.sum.map .double),
      ("scale", some (.int p.scale)),
      ("zero_count", some (.int p.zeroCount)),
      ("min", p.min.map .double),
      ("max", p.max.map .double),
      ("flags", some (.int p.flags)),
      ("exemplars", some (.list (← p.exemplars.mapM exemplar))),
      ("zero_threshold", some (.double p.zeroThreshold)),
      ("positive", ← unlessEmpty (bucketsIsEmpty p.positive) (buckets p.positive)),
      ("negative", ← unlessEmpty (bucketsIsEmpty p.negative) (buckets p.negative))]

/-- The `ValueAtQuantile` of `_metric`. -/
def quantile (q : ValueAtQuantile) : Except PyError Value :=
  build .valueAtQuantile
    [("quantile", some (.double q.quantile)), ("value", some (.double q.value))]

/-- The `SummaryDataPoint` of `_metric`. -/
def summaryPoint (p : SummaryDataPoint) : Except PyError Value := do
  build .summaryDataPoint
    [("attributes", some (.list (← keyValues p.attributes))),
      ("time_unix_nano", some (.int p.timeUnixNano)),
      ("start_time_unix_nano", some (.int (p.startTimeUnixNano.getD 0))),
      ("count", some (.int p.count)),
      ("sum", some (.double p.sum)),
      ("quantile_values", some (.list (← p.quantileValues.mapM quantile))),
      ("flags", some (.int p.flags))]

/-- The keyword argument `_metric` gives the data. -/
def metricData : MetricData → Except PyError (String × Option Value)
  | .gauge points => do
      let m ← build .gauge [("data_points", some (.list (← points.mapM numberPoint)))]
      return ("gauge", some m)
  | .sum points temporality monotonic => do
      let m ← build .sum
        [("data_points", some (.list (← points.mapM numberPoint))),
          ("aggregation_temporality", some (.int temporality.toInt)),
          ("is_monotonic", some (.bool monotonic))]
      return ("sum", some m)
  | .histogram points temporality => do
      let m ← build .histogram
        [("aggregation_temporality", some (.int temporality.toInt)),
          ("data_points", some (.list (← points.mapM histogramPoint)))]
      return ("histogram", some m)
  | .exponentialHistogram points temporality => do
      let points ← points.mapM exponentialPoint
      let m ← build .exponentialHistogram
        [("aggregation_temporality", some (.int temporality.toInt)),
          ("data_points", some (.list points))]
      return ("exponential_histogram", some m)
  | .summary points => do
      let m ← build .summary [("data_points", some (.list (← points.mapM summaryPoint)))]
      return ("summary", some m)

def metric (m : Metric) : Except PyError Value := do
  let data ← metricData m.data
  build .metric
    [("name", some (.str m.name)),
      ("description", some (.str m.description)),
      ("unit", some (.str m.unit)),
      data]

/-- The `ScopeMetrics` of `_encode_metrics`. -/
def scopeMetrics (sm : ScopeMetrics) : Except PyError Value := do
  build .scopeMetrics
    [("scope", ← unlessEmpty (scopeIsEmpty sm.scope) (scope sm.scope)),
      ("metrics", some (.list (← sm.metrics.mapM metric)))]

/-- The `ResourceMetrics` of `_encode_metrics`. -/
def resourceMetrics (rm : ResourceMetrics) : Except PyError Value := do
  build .resourceMetrics
    [("resource", ← unlessEmpty (resourceIsEmpty rm.resource) (resource rm.resource)),
      ("scope_metrics", some (.list (← rm.scopeMetrics.mapM scopeMetrics)))]

/-- The request of `_encode_metrics`. -/
def encodeMetrics (data : List ResourceMetrics) : Except PyError Value := do
  build .exportMetricsServiceRequest
    [("resource_metrics", some (.list (← data.mapM resourceMetrics)))]

/-! ### Logs -/

def logRecord (record : LogRecord) : Except PyError Value := do
  build .logRecord
    [("time_unix_nano", some (.int record.timeUnixNano)),
      ("observed_time_unix_nano", some (.int record.observedTimeUnixNano)),
      ("severity_number", some (.int record.severityNumber.toInt)),
      ("severity_text", some (.str record.severityText)),
      ("body", some (← anyValue record.body)),
      ("attributes", some (.list (← keyValues record.attributes))),
      ("trace_id", some (.bytes (record.traceId.getD []))),
      ("span_id", some (.bytes (record.spanId.getD []))),
      ("event_name", some (.str record.eventName)),
      ("flags", some (.int record.flags))]

/-- The `ScopeLogs` of `_encode_logs`. -/
def scopeLogs (sl : ScopeLogs) : Except PyError Value := do
  build .scopeLogs
    [("scope", ← unlessEmpty (scopeIsEmpty sl.scope) (scope sl.scope)),
      ("log_records", some (.list (← sl.logRecords.mapM logRecord)))]

/-- The `ResourceLogs` of `_encode_logs`. -/
def resourceLogs (rl : ResourceLogs) : Except PyError Value := do
  build .resourceLogs
    [("resource", ← unlessEmpty (resourceIsEmpty rl.resource) (resource rl.resource)),
      ("scope_logs", some (.list (← rl.scopeLogs.mapM scopeLogs)))]

/-- The request of `_encode_logs`. -/
def encodeLogs (data : List ResourceLogs) : Except PyError Value := do
  build .exportLogsServiceRequest
    [("resource_logs", some (.list (← data.mapM resourceLogs)))]

/-! ### Traces -/

/-- The `Span.Event` of `_span`. -/
def spanEvent (e : SpanEvent) : Except PyError Value := do
  build .event
    [("time_unix_nano", some (.int e.timeUnixNano)),
      ("name", some (.str e.name)),
      ("attributes", some (.list (← keyValues e.attributes)))]

/-- The `Span.Link` of `_span`. -/
def spanLink (link : SpanLink) : Except PyError Value := do
  build .link
    [("trace_id", some (.bytes link.traceId)),
      ("span_id", some (.bytes link.spanId)),
      ("trace_state", some (.str link.traceState)),
      ("attributes", some (.list (← keyValues link.attributes))),
      ("flags", some (.int link.flags))]

/-- The `status` argument of `_span`: left unset when the status carries nothing. -/
def statusArgument : Option Status → Except PyError (Option Value)
  | none => return none
  | some status =>
      if status.code ≠ .unset ∨ status.message ≠ "" then do
        return some (← build .status
          [("code", some (.int status.code.toInt)), ("message", some (.str status.message))])
      else return none

def span (item : Span) : Except PyError Value := do
  build .span
    [("trace_id", some (.bytes item.traceId)),
      ("span_id", some (.bytes item.spanId)),
      ("parent_span_id", some (.bytes (item.parentSpanId.getD []))),
      ("name", some (.str item.name)),
      ("kind", some (.int item.kind.toInt)),
      ("start_time_unix_nano", some (.int item.startTimeUnixNano)),
      ("end_time_unix_nano", some (.int item.endTimeUnixNano)),
      ("trace_state", some (.str item.traceState)),
      ("flags", some (.int item.flags)),
      ("attributes", some (.list (← keyValues item.attributes))),
      ("events", some (.list (← item.events.mapM spanEvent))),
      ("links", some (.list (← item.links.mapM spanLink))),
      ("status", ← statusArgument item.status)]

/-- The `ScopeSpans` of `_encode_traces`. -/
def scopeSpans (ss : ScopeSpans) : Except PyError Value := do
  build .scopeSpans
    [("scope", ← unlessEmpty (scopeIsEmpty ss.scope) (scope ss.scope)),
      ("spans", some (.list (← ss.spans.mapM span)))]

/-- The `ResourceSpans` of `_encode_traces`. -/
def resourceSpans (rs : ResourceSpans) : Except PyError Value := do
  build .resourceSpans
    [("resource", ← unlessEmpty (resourceIsEmpty rs.resource) (resource rs.resource)),
      ("scope_spans", some (.list (← rs.scopeSpans.mapM scopeSpans)))]

/-- The request of `_encode_traces`. -/
def encodeTraces (data : List ResourceSpans) : Except PyError Value := do
  build .exportTraceServiceRequest
    [("resource_spans", some (.list (← data.mapM resourceSpans)))]

end OtlpClient.Protobuf
