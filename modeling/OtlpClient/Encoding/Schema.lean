import OtlpClient.Proto.Schema

/-!
# Encoding — the OTLP message types

The fields of the messages the encoders build, in the order of their numbers, from
`opentelemetry/proto/{common,resource,metrics,logs,trace}/v1` and the three export requests.
Fixed-width and varint integers of one range are one type here; a trace or span id is an `id`,
whose JSON form is hex.
-/

namespace OtlpClient

open Proto

/-- The message types. -/
inductive Msg where
  | anyValue
  | arrayValue
  | keyValueList
  | keyValue
  | instrumentationScope
  | resource
  | exportMetricsServiceRequest
  | resourceMetrics
  | scopeMetrics
  | metric
  | gauge
  | sum
  | histogram
  | exponentialHistogram
  | summary
  | numberDataPoint
  | histogramDataPoint
  | exponentialHistogramDataPoint
  | buckets
  | summaryDataPoint
  | valueAtQuantile
  | exemplar
  | exportLogsServiceRequest
  | resourceLogs
  | scopeLogs
  | logRecord
  | exportTraceServiceRequest
  | resourceSpans
  | scopeSpans
  | span
  | event
  | link
  | status
  deriving DecidableEq

/-- The OTLP schema. -/
def otlp : Schema Msg
  | .anyValue =>
      [⟨"string_value", "stringValue", .string, .oneof "value"⟩,
        ⟨"bool_value", "boolValue", .bool, .oneof "value"⟩,
        ⟨"int_value", "intValue", .int64, .oneof "value"⟩,
        ⟨"double_value", "doubleValue", .double, .oneof "value"⟩,
        ⟨"array_value", "arrayValue", .message .arrayValue, .oneof "value"⟩,
        ⟨"kvlist_value", "kvlistValue", .message .keyValueList, .oneof "value"⟩,
        ⟨"bytes_value", "bytesValue", .bytes, .oneof "value"⟩]
  | .arrayValue => [⟨"values", "values", .message .anyValue, .repeated⟩]
  | .keyValueList => [⟨"values", "values", .message .keyValue, .repeated⟩]
  | .keyValue =>
      [⟨"key", "key", .string, .implicit⟩, ⟨"value", "value", .message .anyValue, .explicit⟩]
  | .instrumentationScope =>
      [⟨"name", "name", .string, .implicit⟩,
        ⟨"version", "version", .string, .implicit⟩,
        ⟨"attributes", "attributes", .message .keyValue, .repeated⟩,
        ⟨"dropped_attributes_count", "droppedAttributesCount", .uint32, .implicit⟩]
  | .resource =>
      [⟨"attributes", "attributes", .message .keyValue, .repeated⟩,
        ⟨"dropped_attributes_count", "droppedAttributesCount", .uint32, .implicit⟩]
  | .exportMetricsServiceRequest =>
      [⟨"resource_metrics", "resourceMetrics", .message .resourceMetrics, .repeated⟩]
  | .resourceMetrics =>
      [⟨"resource", "resource", .message .resource, .explicit⟩,
        ⟨"scope_metrics", "scopeMetrics", .message .scopeMetrics, .repeated⟩,
        ⟨"schema_url", "schemaUrl", .string, .implicit⟩]
  | .scopeMetrics =>
      [⟨"scope", "scope", .message .instrumentationScope, .explicit⟩,
        ⟨"metrics", "metrics", .message .metric, .repeated⟩,
        ⟨"schema_url", "schemaUrl", .string, .implicit⟩]
  | .metric =>
      [⟨"name", "name", .string, .implicit⟩,
        ⟨"description", "description", .string, .implicit⟩,
        ⟨"unit", "unit", .string, .implicit⟩,
        ⟨"gauge", "gauge", .message .gauge, .oneof "data"⟩,
        ⟨"sum", "sum", .message .sum, .oneof "data"⟩,
        ⟨"histogram", "histogram", .message .histogram, .oneof "data"⟩,
        ⟨"exponential_histogram", "exponentialHistogram", .message .exponentialHistogram,
          .oneof "data"⟩,
        ⟨"summary", "summary", .message .summary, .oneof "data"⟩,
        ⟨"metadata", "metadata", .message .keyValue, .repeated⟩]
  | .gauge => [⟨"data_points", "dataPoints", .message .numberDataPoint, .repeated⟩]
  | .sum =>
      [⟨"data_points", "dataPoints", .message .numberDataPoint, .repeated⟩,
        ⟨"aggregation_temporality", "aggregationTemporality", .enum, .implicit⟩,
        ⟨"is_monotonic", "isMonotonic", .bool, .implicit⟩]
  | .histogram =>
      [⟨"data_points", "dataPoints", .message .histogramDataPoint, .repeated⟩,
        ⟨"aggregation_temporality", "aggregationTemporality", .enum, .implicit⟩]
  | .exponentialHistogram =>
      [⟨"data_points", "dataPoints", .message .exponentialHistogramDataPoint, .repeated⟩,
        ⟨"aggregation_temporality", "aggregationTemporality", .enum, .implicit⟩]
  | .summary => [⟨"data_points", "dataPoints", .message .summaryDataPoint, .repeated⟩]
  | .numberDataPoint =>
      [⟨"start_time_unix_nano", "startTimeUnixNano", .uint64, .implicit⟩,
        ⟨"time_unix_nano", "timeUnixNano", .uint64, .implicit⟩,
        ⟨"as_double", "asDouble", .double, .oneof "value"⟩,
        ⟨"exemplars", "exemplars", .message .exemplar, .repeated⟩,
        ⟨"as_int", "asInt", .int64, .oneof "value"⟩,
        ⟨"attributes", "attributes", .message .keyValue, .repeated⟩,
        ⟨"flags", "flags", .uint32, .implicit⟩]
  | .histogramDataPoint =>
      [⟨"start_time_unix_nano", "startTimeUnixNano", .uint64, .implicit⟩,
        ⟨"time_unix_nano", "timeUnixNano", .uint64, .implicit⟩,
        ⟨"count", "count", .uint64, .implicit⟩,
        ⟨"sum", "sum", .double, .explicit⟩,
        ⟨"bucket_counts", "bucketCounts", .uint64, .repeated⟩,
        ⟨"explicit_bounds", "explicitBounds", .double, .repeated⟩,
        ⟨"exemplars", "exemplars", .message .exemplar, .repeated⟩,
        ⟨"attributes", "attributes", .message .keyValue, .repeated⟩,
        ⟨"flags", "flags", .uint32, .implicit⟩,
        ⟨"min", "min", .double, .explicit⟩,
        ⟨"max", "max", .double, .explicit⟩]
  | .exponentialHistogramDataPoint =>
      [⟨"attributes", "attributes", .message .keyValue, .repeated⟩,
        ⟨"start_time_unix_nano", "startTimeUnixNano", .uint64, .implicit⟩,
        ⟨"time_unix_nano", "timeUnixNano", .uint64, .implicit⟩,
        ⟨"count", "count", .uint64, .implicit⟩,
        ⟨"sum", "sum", .double, .explicit⟩,
        ⟨"scale", "scale", .int32, .implicit⟩,
        ⟨"zero_count", "zeroCount", .uint64, .implicit⟩,
        ⟨"positive", "positive", .message .buckets, .explicit⟩,
        ⟨"negative", "negative", .message .buckets, .explicit⟩,
        ⟨"flags", "flags", .uint32, .implicit⟩,
        ⟨"exemplars", "exemplars", .message .exemplar, .repeated⟩,
        ⟨"min", "min", .double, .explicit⟩,
        ⟨"max", "max", .double, .explicit⟩,
        ⟨"zero_threshold", "zeroThreshold", .double, .implicit⟩]
  | .buckets =>
      [⟨"offset", "offset", .int32, .implicit⟩,
        ⟨"bucket_counts", "bucketCounts", .uint64, .repeated⟩]
  | .summaryDataPoint =>
      [⟨"start_time_unix_nano", "startTimeUnixNano", .uint64, .implicit⟩,
        ⟨"time_unix_nano", "timeUnixNano", .uint64, .implicit⟩,
        ⟨"count", "count", .uint64, .implicit⟩,
        ⟨"sum", "sum", .double, .implicit⟩,
        ⟨"quantile_values", "quantileValues", .message .valueAtQuantile, .repeated⟩,
        ⟨"attributes", "attributes", .message .keyValue, .repeated⟩,
        ⟨"flags", "flags", .uint32, .implicit⟩]
  | .valueAtQuantile =>
      [⟨"quantile", "quantile", .double, .implicit⟩, ⟨"value", "value", .double, .implicit⟩]
  | .exemplar =>
      [⟨"time_unix_nano", "timeUnixNano", .uint64, .implicit⟩,
        ⟨"as_double", "asDouble", .double, .oneof "value"⟩,
        ⟨"span_id", "spanId", .id, .implicit⟩,
        ⟨"trace_id", "traceId", .id, .implicit⟩,
        ⟨"as_int", "asInt", .int64, .oneof "value"⟩,
        ⟨"filtered_attributes", "filteredAttributes", .message .keyValue, .repeated⟩]
  | .exportLogsServiceRequest =>
      [⟨"resource_logs", "resourceLogs", .message .resourceLogs, .repeated⟩]
  | .resourceLogs =>
      [⟨"resource", "resource", .message .resource, .explicit⟩,
        ⟨"scope_logs", "scopeLogs", .message .scopeLogs, .repeated⟩,
        ⟨"schema_url", "schemaUrl", .string, .implicit⟩]
  | .scopeLogs =>
      [⟨"scope", "scope", .message .instrumentationScope, .explicit⟩,
        ⟨"log_records", "logRecords", .message .logRecord, .repeated⟩,
        ⟨"schema_url", "schemaUrl", .string, .implicit⟩]
  | .logRecord =>
      [⟨"time_unix_nano", "timeUnixNano", .uint64, .implicit⟩,
        ⟨"severity_number", "severityNumber", .enum, .implicit⟩,
        ⟨"severity_text", "severityText", .string, .implicit⟩,
        ⟨"body", "body", .message .anyValue, .explicit⟩,
        ⟨"attributes", "attributes", .message .keyValue, .repeated⟩,
        ⟨"dropped_attributes_count", "droppedAttributesCount", .uint32, .implicit⟩,
        ⟨"flags", "flags", .uint32, .implicit⟩,
        ⟨"trace_id", "traceId", .id, .implicit⟩,
        ⟨"span_id", "spanId", .id, .implicit⟩,
        ⟨"observed_time_unix_nano", "observedTimeUnixNano", .uint64, .implicit⟩,
        ⟨"event_name", "eventName", .string, .implicit⟩]
  | .exportTraceServiceRequest =>
      [⟨"resource_spans", "resourceSpans", .message .resourceSpans, .repeated⟩]
  | .resourceSpans =>
      [⟨"resource", "resource", .message .resource, .explicit⟩,
        ⟨"scope_spans", "scopeSpans", .message .scopeSpans, .repeated⟩,
        ⟨"schema_url", "schemaUrl", .string, .implicit⟩]
  | .scopeSpans =>
      [⟨"scope", "scope", .message .instrumentationScope, .explicit⟩,
        ⟨"spans", "spans", .message .span, .repeated⟩,
        ⟨"schema_url", "schemaUrl", .string, .implicit⟩]
  | .span =>
      [⟨"trace_id", "traceId", .id, .implicit⟩,
        ⟨"span_id", "spanId", .id, .implicit⟩,
        ⟨"trace_state", "traceState", .string, .implicit⟩,
        ⟨"parent_span_id", "parentSpanId", .id, .implicit⟩,
        ⟨"name", "name", .string, .implicit⟩,
        ⟨"kind", "kind", .enum, .implicit⟩,
        ⟨"start_time_unix_nano", "startTimeUnixNano", .uint64, .implicit⟩,
        ⟨"end_time_unix_nano", "endTimeUnixNano", .uint64, .implicit⟩,
        ⟨"attributes", "attributes", .message .keyValue, .repeated⟩,
        ⟨"dropped_attributes_count", "droppedAttributesCount", .uint32, .implicit⟩,
        ⟨"events", "events", .message .event, .repeated⟩,
        ⟨"dropped_events_count", "droppedEventsCount", .uint32, .implicit⟩,
        ⟨"links", "links", .message .link, .repeated⟩,
        ⟨"dropped_links_count", "droppedLinksCount", .uint32, .implicit⟩,
        ⟨"status", "status", .message .status, .explicit⟩,
        ⟨"flags", "flags", .uint32, .implicit⟩]
  | .event =>
      [⟨"time_unix_nano", "timeUnixNano", .uint64, .implicit⟩,
        ⟨"name", "name", .string, .implicit⟩,
        ⟨"attributes", "attributes", .message .keyValue, .repeated⟩,
        ⟨"dropped_attributes_count", "droppedAttributesCount", .uint32, .implicit⟩]
  | .link =>
      [⟨"trace_id", "traceId", .id, .implicit⟩,
        ⟨"span_id", "spanId", .id, .implicit⟩,
        ⟨"trace_state", "traceState", .string, .implicit⟩,
        ⟨"attributes", "attributes", .message .keyValue, .repeated⟩,
        ⟨"dropped_attributes_count", "droppedAttributesCount", .uint32, .implicit⟩,
        ⟨"flags", "flags", .uint32, .implicit⟩]
  | .status =>
      [⟨"message", "message", .string, .implicit⟩, ⟨"code", "code", .enum, .implicit⟩]

end OtlpClient
