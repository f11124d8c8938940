import OtlpClient.Encoding.Agree
import OtlpClient.Encoding.Serialized
import OtlpClient.Encoding.Written

/-!
# Encoding — what the protobuf encoder refuses

* `*_accepted`: a message builder returns exactly when every leaf of its tree is an integer in the
  range of its field.
* `protobufEncode_accepted`: the encoder returns exactly when that holds of the payload, and it is
  nested no deeper than `SerializeToString` writes.
* **`sameVerdict_iff`**: when the two encoders take the same payloads.
-/

namespace OtlpClient

open Proto

section Ranges

variable {n : Int}

@[simp] theorem inRange_int32 : (Leaf.int32 n).InRange ↔ IsInt32 n := Iff.rfl
@[simp] theorem inRange_uint32 : (Leaf.uint32 n).InRange ↔ IsUint32 n := Iff.rfl
@[simp] theorem inRange_int64 : (Leaf.int64 n).InRange ↔ IsInt64 n := Iff.rfl
@[simp] theorem inRange_uint64 : (Leaf.uint64 n).InRange ↔ IsUint64 n := Iff.rfl
@[simp] theorem inRange_unsupported (type : String) : ¬ (Leaf.unsupported type).InRange := id
@[simp] theorem inRange_bool (b : Bool) : ¬ (Leaf.bool b).InRange := id

@[simp]
theorem int32_inRange : (FieldType.int32 : FieldType Msg).inRange n = true ↔ IsInt32 n := by
  simp [FieldType.inRange, IsInt32]

@[simp]
theorem uint32_inRange : (FieldType.uint32 : FieldType Msg).inRange n = true ↔ IsUint32 n := by
  simp [FieldType.inRange, IsUint32]

@[simp]
theorem int64_inRange : (FieldType.int64 : FieldType Msg).inRange n = true ↔ IsInt64 n := by
  simp [FieldType.inRange, IsInt64]

@[simp]
theorem uint64_inRange : (FieldType.uint64 : FieldType Msg).inRange n = true ↔ IsUint64 n := by
  simp [FieldType.inRange, IsUint64]

end Ranges

/-! ### Attribute values -/

section Wrappers

variable {vs : List Value} {v : Value}

theorem arrayValue_accepted :
    Yields (Protobuf.build .arrayValue [("values", some (.list vs))]) Value.IsMsg ↔
      ∀ v ∈ vs, v.IsMsg := by
  refine Iff.trans (construct_yields rfl List.nodup_nil) ?_
  simp [otlp]

theorem keyValueList_accepted :
    Yields (Protobuf.build .keyValueList [("values", some (.list vs))]) Value.IsMsg ↔
      ∀ v ∈ vs, v.IsMsg := by
  refine Iff.trans (construct_yields rfl List.nodup_nil) ?_
  simp [otlp]

theorem array_accepted :
    Yields (Protobuf.build .anyValue [("array_value", some v)]) Value.IsMsg ↔ v.IsMsg := by
  refine Iff.trans (construct_yields rfl (List.nodup_singleton _)) ?_
  simp [otlp]

theorem kvlist_accepted :
    Yields (Protobuf.build .anyValue [("kvlist_value", some v)]) Value.IsMsg ↔ v.IsMsg := by
  refine Iff.trans (construct_yields rfl (List.nodup_singleton _)) ?_
  simp [otlp]

end Wrappers

mutual
@[simp]
theorem anyValue_accepted : ∀ {v : AnyValue},
    Yields (Protobuf.anyValue v) Value.IsMsg ↔ ∀ l ∈ v.leaves, l.InRange
  | .bool b => by
      rw [Protobuf.anyValue]
      refine Iff.trans (construct_yields rfl (List.nodup_singleton _)) ?_
      simp [otlp, AnyValue.leaves]
  | .int n => by
      rw [Protobuf.anyValue]
      refine Iff.trans (construct_yields rfl (List.nodup_singleton _)) ?_
      simp [otlp, AnyValue.leaves]
  | .float x => by
      rw [Protobuf.anyValue]
      refine Iff.trans (construct_yields rfl (List.nodup_singleton _)) ?_
      simp [otlp, AnyValue.leaves]
  | .str s => by
      rw [Protobuf.anyValue]
      refine Iff.trans (construct_yields rfl (List.nodup_singleton _)) ?_
      simp [otlp, AnyValue.leaves]
  | .bytes b => by
      rw [Protobuf.anyValue]
      refine Iff.trans (construct_yields rfl (List.nodup_singleton _)) ?_
      simp [otlp, AnyValue.leaves]
  | .sequence vs => by
      simp only [Protobuf.anyValue, AnyValue.leaves, yields_bind, array_accepted,
        arrayValue_accepted, anyValues_accepted]
  | .mapping items => by
      simp only [Protobuf.anyValue, AnyValue.leaves, yields_bind, kvlist_accepted,
        keyValueList_accepted, keyValues_accepted]
  | .other type => by simp [Protobuf.anyValue, AnyValue.leaves]

theorem anyValues_accepted : ∀ {vs : List AnyValue},
    Yields (Protobuf.anyValues vs) (fun values => ∀ v ∈ values, v.IsMsg) ↔
      ∀ l ∈ AnyValue.leavesList vs, l.InRange
  | [] => by simp [Protobuf.anyValues, AnyValue.leavesList]
  | v :: vs => by
      simp only [AnyValue.leavesList, List.forall_mem_append]
      simp [Protobuf.anyValues, anyValue_accepted, anyValues_accepted]

@[simp]
theorem keyValues_accepted : ∀ {items : List (String × AnyValue)},
    Yields (Protobuf.keyValues items) (fun values => ∀ v ∈ values, v.IsMsg) ↔
      ∀ l ∈ AnyValue.leavesItems items, l.InRange
  | [] => by simp [Protobuf.keyValues, AnyValue.leavesItems]
  | item :: items => by
      simp only [AnyValue.leavesItems, List.forall_mem_append]
      simp [Protobuf.keyValues, keyValue_accepted, keyValues_accepted]

theorem keyValue_accepted : ∀ {item : String × AnyValue},
    Yields (Protobuf.keyValue item) Value.IsMsg ↔ ∀ l ∈ AnyValue.leavesItem item, l.InRange
  | (key, v) => by
      simp only [Protobuf.keyValue, yields_bind]
      refine Iff.trans (yields_congr fun value => construct_yields rfl List.nodup_nil) ?_
      simp [otlp, AnyValue.leavesItem, anyValue_accepted]
end

/-! ### Resource and scope -/

/-- A message that is left unset when it carries nothing. -/
@[simp]
theorem unlessEmpty_yields {empty : Bool} {x : Except PyError Value} {P : Value → Prop} :
    Yields (Protobuf.unlessEmpty empty x) (fun a => ∀ v, a = some v → P v) ↔
      (empty = false → Yields x P) := by
  cases empty with
  | true => simp [Protobuf.unlessEmpty]
  | false => simp [Protobuf.unlessEmpty]

theorem resource_accepted {r : Resource} :
    Yields (Protobuf.resource r) Value.IsMsg ↔ ∀ l ∈ r.leaves, l.InRange := by
  simp only [Protobuf.resource, Resource.leaves, yields_bind, List.forall_mem_append]
  refine Iff.trans (yields_congr fun attributes => construct_yields rfl List.nodup_nil) ?_
  simp [otlp]

/-- An empty resource has nothing to refuse. -/
@[simp]
theorem resource_accepted_unless {r : Resource} :
    (Protobuf.resourceIsEmpty r = false → Yields (Protobuf.resource r) Value.IsMsg) ↔
      ∀ l ∈ r.leaves, l.InRange := by
  rw [resource_accepted]
  refine ⟨fun h => ?_, fun h _ => h⟩
  cases he : Protobuf.resourceIsEmpty r with
  | false => exact h he
  | true =>
      simp only [Protobuf.resourceIsEmpty, Bool.and_eq_true, List.isEmpty_iff, beq_iff_eq] at he
      obtain ⟨hattributes, hdropped⟩ := he
      simp [Resource.leaves, hattributes, hdropped, AnyValue.leavesItems]
      decide

theorem scope_accepted {s : InstrumentationScope} :
    Yields (Protobuf.scope s) Value.IsMsg ↔ ∀ l ∈ s.attributes.leaves, l.InRange := by
  simp only [Protobuf.scope, yields_bind]
  refine Iff.trans (yields_congr fun attributes => construct_yields rfl List.nodup_nil) ?_
  simp [otlp]

/-- An empty scope has nothing to refuse. -/
@[simp]
theorem scope_accepted_unless {s : InstrumentationScope} :
    (Protobuf.scopeIsEmpty s = false → Yields (Protobuf.scope s) Value.IsMsg) ↔
      ∀ l ∈ s.attributes.leaves, l.InRange := by
  rw [scope_accepted]
  refine ⟨fun h => ?_, fun h _ => h⟩
  cases he : Protobuf.scopeIsEmpty s with
  | false => exact h he
  | true =>
      simp only [Protobuf.scopeIsEmpty, Bool.and_eq_true, List.isEmpty_iff] at he
      rw [he.2]
      simp [AnyValue.leavesItems]

/-! ### Metrics -/

@[simp]
theorem exemplar_accepted {e : Exemplar} :
    Yields (Protobuf.exemplar e) Value.IsMsg ↔ ∀ l ∈ e.leaves, l.InRange := by
  simp only [Exemplar.leaves, List.forall_mem_append]
  cases hv : e.value with
  | bool b => simp [Protobuf.exemplar, Protobuf.valueArgument, hv, NumberValue.leaves]
  | int n =>
      simp only [Protobuf.exemplar, Protobuf.valueArgument, hv, yields_bind, yields_pure]
      refine Iff.trans (yields_congr fun attributes =>
        construct_yields rfl (List.nodup_singleton _)) ?_
      simp [otlp, NumberValue.leaves, and_comm, and_left_comm]
  | float x =>
      simp only [Protobuf.exemplar, Protobuf.valueArgument, hv, yields_bind, yields_pure]
      refine Iff.trans (yields_congr fun attributes =>
        construct_yields rfl (List.nodup_singleton _)) ?_
      simp [otlp, NumberValue.leaves, and_comm]

/-- A time that may be `None`. -/
@[simp]
theorem isUint64_getD {n : Option Int} : IsUint64 (n.getD 0) ↔ ∀ k ∈ n, IsUint64 k := by
  cases n with
  | none => exact iff_of_true (by decide) nofun
  | some k => simp

@[simp]
theorem numberPoint_accepted {p : NumberDataPoint} :
    Yields (Protobuf.numberPoint p) Value.IsMsg ↔ ∀ l ∈ p.leaves, l.InRange := by
  simp only [NumberDataPoint.leaves, List.forall_mem_append, List.forall_mem_cons,
    List.forall_mem_flatMap, List.forall_mem_map]
  cases hv : p.value with
  | bool b => simp [Protobuf.numberPoint, Protobuf.valueArgument, hv, NumberValue.leaves]
  | int n =>
      simp only [Protobuf.numberPoint, Protobuf.valueArgument, hv, yields_bind, yields_pure]
      refine Iff.trans (yields_congr fun attributes => yields_congr fun exemplars =>
        construct_yields rfl (List.nodup_singleton _)) ?_
      simp [otlp, NumberValue.leaves, yields_mapM]
      simp only [and_assoc, and_comm, and_left_comm]
  | float x =>
      simp only [Protobuf.numberPoint, Protobuf.valueArgument, hv, yields_bind, yields_pure]
      refine Iff.trans (yields_congr fun attributes => yields_congr fun exemplars =>
        construct_yields rfl (List.nodup_singleton _)) ?_
      simp [otlp, NumberValue.leaves, yields_mapM]
      simp only [and_assoc, and_comm, and_left_comm]

@[simp]
theorem histogramPoint_accepted {p : HistogramDataPoint} :
    Yields (Protobuf.histogramPoint p) Value.IsMsg ↔ ∀ l ∈ p.leaves, l.InRange := by
  simp only [HistogramDataPoint.leaves, Protobuf.histogramPoint, yields_bind,
    List.forall_mem_append, List.forall_mem_cons, List.forall_mem_flatMap, List.forall_mem_map]
  refine Iff.trans (yields_congr fun attributes => yields_congr fun exemplars =>
    construct_yields rfl List.nodup_nil) ?_
  simp [otlp, Protobuf.ints, yields_mapM]
  simp only [and_assoc, and_comm, and_left_comm]

theorem buckets_accepted {b : Buckets} :
    Yields (Protobuf.buckets b) Value.IsMsg ↔ ∀ l ∈ b.leaves, l.InRange := by
  simp only [Buckets.leaves, Protobuf.buckets, List.forall_mem_cons, List.forall_mem_map]
  refine Iff.trans (construct_yields rfl List.nodup_nil) ?_
  simp [otlp, Protobuf.ints]

/-- An empty side has nothing to refuse. -/
@[simp]
theorem buckets_accepted_unless {b : Buckets} :
    (Protobuf.bucketsIsEmpty b = false → Yields (Protobuf.buckets b) Value.IsMsg) ↔
      ∀ l ∈ b.leaves, l.InRange := by
  rw [buckets_accepted]
  refine ⟨fun h => ?_, fun h _ => h⟩
  cases he : Protobuf.bucketsIsEmpty b with
  | false => exact h he
  | true =>
      simp only [Protobuf.bucketsIsEmpty, Bool.and_eq_true, List.isEmpty_iff, beq_iff_eq] at he
      obtain ⟨hoffset, hcounts⟩ := he
      rw [Buckets.leaves, hoffset, hcounts, List.map_nil, List.forall_mem_singleton]
      decide

@[simp]
theorem exponentialPoint_accepted {p : ExponentialHistogramDataPoint} :
    Yields (Protobuf.exponentialPoint p) Value.IsMsg ↔ ∀ l ∈ p.leaves, l.InRange := by
  simp only [ExponentialHistogramDataPoint.leaves, Protobuf.exponentialPoint, yields_bind,
    List.forall_mem_append, List.forall_mem_cons, List.forall_mem_flatMap, List.forall_mem_map]
  refine Iff.trans (yields_congr fun attributes => yields_congr fun exemplars =>
    yields_congr fun positive => yields_congr fun negative =>
      construct_yields rfl List.nodup_nil) ?_
  simp [otlp, yields_mapM]
  simp only [and_assoc, and_comm, and_left_comm]

theorem quantile_accepted {q : ValueAtQuantile} : Yields (Protobuf.quantile q) Value.IsMsg := by
  rw [Protobuf.quantile, construct_yields]
  · simp [otlp]
  · rfl
  · exact List.nodup_nil

@[simp]
theorem summaryPoint_accepted {p : SummaryDataPoint} :
    Yields (Protobuf.summaryPoint p) Value.IsMsg ↔ ∀ l ∈ p.leaves, l.InRange := by
  simp only [SummaryDataPoint.leaves, Protobuf.summaryPoint, yields_bind,
    List.forall_mem_append, List.forall_mem_cons, List.forall_mem_map]
  refine Iff.trans (yields_congr fun attributes => yields_congr fun quantiles =>
    construct_yields rfl List.nodup_nil) ?_
  simp [otlp, yields_mapM, quantile_accepted]
  simp only [and_assoc, and_comm, and_left_comm]

section Data

variable {points : List Value}

@[simp]
theorem temporality_inRange (t : AggregationTemporality) :
    (FieldType.enum : FieldType Msg).inRange t.toInt = true := t.inRange

theorem gauge_accepted :
    Yields (Protobuf.build .gauge [("data_points", some (.list points))]) Value.IsMsg ↔
      ∀ p ∈ points, p.IsMsg := by
  refine Iff.trans (construct_yields rfl List.nodup_nil) ?_
  simp [otlp]

theorem sum_accepted {temporality : AggregationTemporality} {monotonic : Bool} :
    Yields (Protobuf.build .sum
      [("data_points", some (.list points)),
        ("aggregation_temporality", some (.int temporality.toInt)),
        ("is_monotonic", some (.bool monotonic))]) Value.IsMsg ↔ ∀ p ∈ points, p.IsMsg := by
  refine Iff.trans (construct_yields rfl List.nodup_nil) ?_
  simp [otlp]

theorem histogram_accepted {temporality : AggregationTemporality} :
    Yields (Protobuf.build .histogram
      [("aggregation_temporality", some (.int temporality.toInt)),
        ("data_points", some (.list points))]) Value.IsMsg ↔ ∀ p ∈ points, p.IsMsg := by
  refine Iff.trans (construct_yields rfl List.nodup_nil) ?_
  simp [otlp]

theorem exponentialHistogram_accepted {temporality : AggregationTemporality} :
    Yields (Protobuf.build .exponentialHistogram
      [("aggregation_temporality", some (.int temporality.toInt)),
        ("data_points", some (.list points))]) Value.IsMsg ↔ ∀ p ∈ points, p.IsMsg := by
  refine Iff.trans (construct_yields rfl List.nodup_nil) ?_
  simp [otlp]

theorem summary_accepted :
    Yields (Protobuf.build .summary [("data_points", some (.list points))]) Value.IsMsg ↔
      ∀ p ∈ points, p.IsMsg := by
  refine Iff.trans (construct_yields rfl List.nodup_nil) ?_
  simp [otlp]

end Data

@[simp]
theorem metric_accepted {m : Metric} :
    Yields (Protobuf.metric m) Value.IsMsg ↔ ∀ l ∈ m.data.leaves, l.InRange := by
  cases hd : m.data with
  | gauge points =>
      rw [MetricData.leaves, List.forall_mem_flatMap]
      simp only [Protobuf.metric, Protobuf.metricData, hd, yields_bind, yields_pure]
      refine Iff.trans (yields_congr fun points => yields_congr fun data =>
        construct_yields rfl (List.nodup_singleton _)) ?_
      simp [otlp, gauge_accepted, yields_mapM]
  | sum points temporality monotonic =>
      rw [MetricData.leaves, List.forall_mem_flatMap]
      simp only [Protobuf.metric, Protobuf.metricData, hd, yields_bind, yields_pure]
      refine Iff.trans (yields_congr fun points => yields_congr fun data =>
        construct_yields rfl (List.nodup_singleton _)) ?_
      simp [otlp, sum_accepted, yields_mapM]
  | histogram points temporality =>
      rw [MetricData.leaves, List.forall_mem_flatMap]
      simp only [Protobuf.metric, Protobuf.metricData, hd, yields_bind, yields_pure]
      refine Iff.trans (yields_congr fun points => yields_congr fun data =>
        construct_yields rfl (List.nodup_singleton _)) ?_
      simp [otlp, histogram_accepted, yields_mapM]
  | exponentialHistogram points temporality =>
      rw [MetricData.leaves, List.forall_mem_flatMap]
      simp only [Protobuf.metric, Protobuf.metricData, hd, yields_bind, yields_pure]
      refine Iff.trans (yields_congr fun points => yields_congr fun data =>
        construct_yields rfl (List.nodup_singleton _)) ?_
      simp [otlp, exponentialHistogram_accepted, yields_mapM]
  | summary points =>
      rw [MetricData.leaves, List.forall_mem_flatMap]
      simp only [Protobuf.metric, Protobuf.metricData, hd, yields_bind, yields_pure]
      refine Iff.trans (yields_congr fun points => yields_congr fun data =>
        construct_yields rfl (List.nodup_singleton _)) ?_
      simp [otlp, summary_accepted, yields_mapM]

@[simp]
theorem scopeMetrics_accepted {sm : ScopeMetrics} :
    Yields (Protobuf.scopeMetrics sm) Value.IsMsg ↔ ∀ l ∈ sm.leaves, l.InRange := by
  simp only [ScopeMetrics.leaves, Protobuf.scopeMetrics, yields_bind, List.forall_mem_append,
    List.forall_mem_flatMap]
  refine Iff.trans (yields_congr fun scope => yields_congr fun metrics =>
    construct_yields rfl List.nodup_nil) ?_
  simp [otlp, yields_mapM]

@[simp]
theorem resourceMetrics_accepted {rm : ResourceMetrics} :
    Yields (Protobuf.resourceMetrics rm) Value.IsMsg ↔ ∀ l ∈ rm.leaves, l.InRange := by
  simp only [ResourceMetrics.leaves, Protobuf.resourceMetrics, yields_bind,
    List.forall_mem_append, List.forall_mem_flatMap]
  refine Iff.trans (yields_congr fun resource => yields_congr fun scopeMetrics =>
    construct_yields rfl List.nodup_nil) ?_
  simp [otlp, yields_mapM]

/-! ### Logs -/

@[simp]
theorem severity_inRange (s : SeverityNumber) :
    (FieldType.enum : FieldType Msg).inRange s.toInt = true := s.inRange

@[simp]
theorem logRecord_accepted {r : LogRecord} :
    Yields (Protobuf.logRecord r) Value.IsMsg ↔ ∀ l ∈ r.leaves, l.InRange := by
  simp only [LogRecord.leaves, Protobuf.logRecord, yields_bind, List.forall_mem_append,
    List.forall_mem_cons]
  refine Iff.trans (yields_congr fun body => yields_congr fun attributes =>
    construct_yields rfl List.nodup_nil) ?_
  simp [otlp]
  simp only [and_assoc, and_comm, and_left_comm]

@[simp]
theorem scopeLogs_accepted {sl : ScopeLogs} :
    Yields (Protobuf.scopeLogs sl) Value.IsMsg ↔ ∀ l ∈ sl.leaves, l.InRange := by
  simp only [ScopeLogs.leaves, Protobuf.scopeLogs, yields_bind, List.forall_mem_append,
    List.forall_mem_flatMap]
  refine Iff.trans (yields_congr fun scope => yields_congr fun logRecords =>
    construct_yields rfl List.nodup_nil) ?_
  simp [otlp, yields_mapM]

@[simp]
theorem resourceLogs_accepted {rl : ResourceLogs} :
    Yields (Protobuf.resourceLogs rl) Value.IsMsg ↔ ∀ l ∈ rl.leaves, l.InRange := by
  simp only [ResourceLogs.leaves, Protobuf.resourceLogs, yields_bind, List.forall_mem_append,
    List.forall_mem_flatMap]
  refine Iff.trans (yields_congr fun resource => yields_congr fun scopeLogs =>
    construct_yields rfl List.nodup_nil) ?_
  simp [otlp, yields_mapM]

/-! ### Traces -/

@[simp]
theorem spanEvent_accepted {e : SpanEvent} :
    Yields (Protobuf.spanEvent e) Value.IsMsg ↔ ∀ l ∈ e.leaves, l.InRange := by
  simp only [SpanEvent.leaves, Protobuf.spanEvent, yields_bind, List.forall_mem_cons]
  refine Iff.trans (yields_congr fun attributes => construct_yields rfl List.nodup_nil) ?_
  simp [otlp, and_comm]

@[simp]
theorem spanLink_accepted {l : SpanLink} :
    Yields (Protobuf.spanLink l) Value.IsMsg ↔ ∀ leaf ∈ l.leaves, leaf.InRange := by
  simp only [SpanLink.leaves, Protobuf.spanLink, yields_bind, List.forall_mem_cons]
  refine Iff.trans (yields_congr fun attributes => construct_yields rfl List.nodup_nil) ?_
  simp [otlp, and_comm]

theorem status_accepted {status : Status} :
    Yields (Protobuf.build .status
      [("code", some (.int status.code.toInt)), ("message", some (.str status.message))])
      Value.IsMsg := by
  rw [construct_yields]
  · simp [otlp, StatusCode.inRange]
  · rfl
  · exact List.nodup_nil

/-- A status is never refused. -/
@[simp]
theorem statusArgument_accepted {status : Option Status} :
    Yields (Protobuf.statusArgument status) fun a => ∀ v, a = some v → v.IsMsg := by
  cases status with
  | none => simp [Protobuf.statusArgument]
  | some status =>
      unfold Protobuf.statusArgument
      dsimp only
      split
      · simpa using status_accepted
      · simp

@[simp]
theorem spanKind_inRange (k : SpanKind) :
    (FieldType.enum : FieldType Msg).inRange k.toInt = true := k.inRange

@[simp]
theorem span_accepted {s : Span} :
    Yields (Protobuf.span s) Value.IsMsg ↔ ∀ l ∈ s.leaves, l.InRange := by
  simp only [Span.leaves, Protobuf.span, yields_bind, List.forall_mem_append,
    List.forall_mem_cons, List.forall_mem_flatMap]
  refine Iff.trans (yields_congr fun attributes => yields_congr fun events =>
    yields_congr fun links => yields_congr fun status => construct_yields rfl List.nodup_nil) ?_
  simp [otlp, yields_mapM]
  simp only [and_assoc, and_comm, and_left_comm]

@[simp]
theorem scopeSpans_accepted {ss : ScopeSpans} :
    Yields (Protobuf.scopeSpans ss) Value.IsMsg ↔ ∀ l ∈ ss.leaves, l.InRange := by
  simp only [ScopeSpans.leaves, Protobuf.scopeSpans, yields_bind, List.forall_mem_append,
    List.forall_mem_flatMap]
  refine Iff.trans (yields_congr fun scope => yields_congr fun spans =>
    construct_yields rfl List.nodup_nil) ?_
  simp [otlp, yields_mapM]

@[simp]
theorem resourceSpans_accepted {rs : ResourceSpans} :
    Yields (Protobuf.resourceSpans rs) Value.IsMsg ↔ ∀ l ∈ rs.leaves, l.InRange := by
  simp only [ResourceSpans.leaves, Protobuf.resourceSpans, yields_bind, List.forall_mem_append,
    List.forall_mem_flatMap]
  refine Iff.trans (yields_congr fun resource => yields_congr fun scopeSpans =>
    construct_yields rfl List.nodup_nil) ?_
  simp [otlp, yields_mapM]

/-! ### Payloads -/

theorem encodeMetrics_accepted {data : List ResourceMetrics} :
    Yields (Protobuf.encodeMetrics data) Value.IsMsg ↔
      ∀ rm ∈ data, ∀ l ∈ rm.leaves, l.InRange := by
  simp only [Protobuf.encodeMetrics, yields_bind]
  refine Iff.trans (yields_congr fun values => construct_yields rfl List.nodup_nil) ?_
  simp [otlp, yields_mapM]

theorem encodeLogs_accepted {data : List ResourceLogs} :
    Yields (Protobuf.encodeLogs data) Value.IsMsg ↔ ∀ rl ∈ data, ∀ l ∈ rl.leaves, l.InRange := by
  simp only [Protobuf.encodeLogs, yields_bind]
  refine Iff.trans (yields_congr fun values => construct_yields rfl List.nodup_nil) ?_
  simp [otlp, yields_mapM]

theorem encodeTraces_accepted {data : List ResourceSpans} :
    Yields (Protobuf.encodeTraces data) Value.IsMsg ↔
      ∀ rs ∈ data, ∀ l ∈ rs.leaves, l.InRange := by
  simp only [Protobuf.encodeTraces, yields_bind]
  refine Iff.trans (yields_congr fun values => construct_yields rfl List.nodup_nil) ?_
  simp [otlp, yields_mapM]

/-- What is built is a message. -/
theorem request_isMsg {kind : SignalKind} {data : Payload kind} :
    Ensures (requestMessage kind data) Value.IsMsg := by
  cases kind with
  | metrics => exact Ensures.bind Ensures.trivial fun values _ => construct_isMsg
  | logs => exact Ensures.bind Ensures.trivial fun values _ => construct_isMsg
  | traces => exact Ensures.bind Ensures.trivial fun values _ => construct_isMsg
  | profiles => exact Ensures.throw

theorem request_accepted {kind : SignalKind} (hk : kind ≠ .profiles) {data : Payload kind} :
    Yields (requestMessage kind data) (fun _ => True) ↔ ∀ l ∈ data.leaves, l.InRange := by
  rw [request_isMsg.yields_iff]
  cases kind with
  | metrics => exact encodeMetrics_accepted.trans List.forall_mem_flatMap.symm
  | logs => exact encodeLogs_accepted.trans List.forall_mem_flatMap.symm
  | traces => exact encodeTraces_accepted.trans List.forall_mem_flatMap.symm
  | profiles => exact absurd rfl hk

/-- **What the protobuf encoder refuses.**  It returns exactly when every leaf of the payload is an
integer in the range of its field, and the payload is nested no deeper than `SerializeToString`
writes. -/
theorem protobufEncode_accepted {s : Serializer} {kind : SignalKind} (hk : kind ≠ .profiles)
    {data : Payload kind} :
    Yields (ProtobufEncoder.encode s kind data) (fun _ => True) ↔
      (∀ l ∈ data.leaves, l.InRange) ∧ s.Nests data := by
  rw [← request_accepted hk, ProtobufEncoder.encode]
  cases hmessage : requestMessage kind data with
  | ok message =>
      rw [serializes_iff hmessage, yields_ok]
      exact (and_iff_right trivial).symm
  | error e => exact iff_of_false yields_error fun h => yields_error h.1

/-! ### The same trees -/

/-- Both encoders take the payload or both refuse it, and none that the JSON encoder writes has an
integer out of the range of its field. -/
def SameVerdict (d : Dumper) (s : Serializer) {kind : SignalKind} (data : Payload kind) : Prop :=
  (Raises (JSONEncoder.encode d kind data) ↔ Raises (ProtobufEncoder.encode s kind data)) ∧
    (Yields (JSONEncoder.encode d kind data) (fun _ => True) → ∀ l ∈ data.leaves, l.InRange)

/-- **Two encoders, one verdict.**  They agree on a payload of integers in range that is nested no
deeper than either writes; on one with a leaf that the JSON encoder refuses; and on one nested deeper
than the JSON library writes, where the protobuf encoder refuses something too.  The range of a field
is checked by the message classes alone, and the two libraries stop at different levels. -/
theorem sameVerdict_iff (d : Dumper) (s : Serializer) {kind : SignalKind} (data : Payload kind) :
    SameVerdict d s data ↔
      ((∀ l ∈ data.leaves, l.InRange) ∧ d.Nests data ∧ s.Nests data) ∨
        (∃ l ∈ data.leaves, ¬ l.Written d) ∨
        (¬ d.Nests data ∧ ((∃ l ∈ data.leaves, ¬ l.InRange) ∨ ¬ s.Nests data)) := by
  by_cases hk : kind = .profiles
  · subst hk
    have hraises : SameVerdict d s (show Payload .profiles from data) :=
      ⟨iff_of_true ⟨_, rfl⟩ ⟨_, rfl⟩, fun _ => nofun⟩
    refine iff_of_true hraises (.inl ⟨nofun, ?_, fun n _ => Nat.zero_le n⟩)
    cases d with
    | stdlib => trivial
    | orjson lib => exact Nat.zero_le lib.levels
  · rw [SameVerdict, raises_iff, raises_iff, jsonEncode_written hk, protobufEncode_accepted hk,
      not_iff_not]
    have hwritten : (∀ l ∈ data.leaves, l.InRange) → ∀ l ∈ data.leaves, l.Written d :=
      fun h l hl => (h l hl).written
    have hrefused : (∃ l ∈ data.leaves, ¬ l.Written d) ↔ ¬ ∀ l ∈ data.leaves, l.Written d := by
      simp only [not_forall, exists_prop]
    have houtside : (∃ l ∈ data.leaves, ¬ l.InRange) ↔ ¬ ∀ l ∈ data.leaves, l.InRange := by
      simp only [not_forall, exists_prop]
    rw [hrefused, houtside]
    constructor
    · rintro ⟨hiff, -⟩
      by_cases hjson : (∀ l ∈ data.leaves, l.Written d) ∧ d.Nests data
      · obtain ⟨hrange, hnests⟩ := hiff.mp hjson
        exact .inl ⟨hrange, hjson.2, hnests⟩
      · have hprotobuf := not_and_or.mp fun h => hjson (hiff.mpr h)
        by_cases hleaves : ∀ l ∈ data.leaves, l.Written d
        · exact .inr (.inr ⟨fun hnests => hjson ⟨hleaves, hnests⟩, hprotobuf⟩)
        · exact .inr (.inl hleaves)
    · rintro (⟨hrange, hd, hs⟩ | hleaves | ⟨hd, hprotobuf⟩)
      · exact ⟨iff_of_true ⟨hwritten hrange, hd⟩ ⟨hrange, hs⟩, fun _ => hrange⟩
      · exact ⟨iff_of_false (fun h => hleaves h.1) fun h => hleaves (hwritten h.1),
          fun h => absurd h.1 hleaves⟩
      · exact ⟨iff_of_false (fun h => hd h.2) (not_and_or.mpr hprotobuf), fun h => absurd h.2 hd⟩

/-- A log record whose body is the first integer past `int64`. -/
def wideBody : Payload .logs :=
  ([{ resource := {}
      scopeLogs := [{ scope := { name := "" }
                      logRecords := [{ timeUnixNano := 1, observedTimeUnixNano := 1
                                       body := .int (2 ^ 63) }] }] }] : List ResourceLogs)

theorem wideBody_leaves : wideBody.leaves =
    [.uint32 0, .uint64 1, .uint64 1, .uint32 0, .int64 (2 ^ 63)] := rfl

theorem wideBody_written {d : Dumper} : ∀ l ∈ wideBody.leaves, l.Written d := by
  rw [wideBody_leaves]
  simp only [List.forall_mem_cons, written_uint32, written_uint64, written_int64]
  exact ⟨writes_of_isInt64 (by decide), printable_of_le (by decide), printable_of_le (by decide),
    writes_of_isInt64 (by decide), printable_of_le (by decide), List.forall_mem_nil _⟩

/-- Every library writes its levels. -/
theorem wideBody_nests (d : Dumper) : d.Nests wideBody := by
  cases d with
  | stdlib => trivial
  | orjson lib =>
      have hdepth : wideBody.depth (.json lib.empty) = 8 := by
        simp [wideBody, Payload.depth, Levels.field, Levels.json, ResourceLogs.depth,
          Resource.depth, ScopeLogs.depth, InstrumentationScope.depth, LogRecord.depth,
          Attributes.depth, AnyValue.depth, AnyValue.depthItems]
      exact Nat.le_trans (Nat.le_of_eq hdepth) (Nat.le_trans (by decide) lib.levels_ge)

/-- The JSON encoder writes an `intValue` that the protobuf encoder refuses. -/
theorem intValue_overflows :
    (∀ s, ¬ SameVerdict .stdlib s wideBody) ∧ ∀ lib s, ¬ SameVerdict (.orjson lib) s wideBody := by
  have hwide : ∀ d s, ¬ SameVerdict d s wideBody := by
    intro d s h
    have hjson := (jsonEncode_written (by decide)).mpr ⟨@wideBody_written d, wideBody_nests d⟩
    have hrange := h.2 hjson (.int64 (2 ^ 63)) (by rw [wideBody_leaves]; decide)
    exact absurd hrange (by decide)
  exact ⟨hwide .stdlib, fun lib => hwide (.orjson lib)⟩

end OtlpClient
