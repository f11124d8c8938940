import OtlpClient.Encoding.Entries

/-!
# Encoding — the two encoders agree

One theorem a message type, from the rules of `Entries.lean`: the builders of both encoders
return, and the document reads as the message.

**`encoders_agree`**: on well-typed trees with finite floats the JSON document of a request, read
with the proto3 JSON mapping, is the protobuf request, presence included.
-/

namespace OtlpClient

open Proto

/-! ### Resource and scope -/

theorem resource_encodes {r : Resource} (h : r.WellTyped Binary64.IsFinite) :
    ∃ doc, encodeResource r = .ok doc ∧ doc.isEmpty = Protobuf.resourceIsEmpty r ∧
      Encodes (.message .resource) (.ok doc) (Protobuf.resource r) := by
  obtain ⟨docs, vals, hdocs, hvals, hr⟩ := attributes_encode h.attributes
  simp only [encodeResource, Protobuf.resource, hdocs, hvals, ok_bind, pure_ok]
  refine ⟨_, rfl, ?_, Encodes.sparse ?_ List.nodup_nil rfl⟩
  · simp [isEmpty_omitEmpty, isEmpty_orNone, encodeAttributes_isEmpty hdocs,
      Protobuf.resourceIsEmpty]
  · simp only [otlp, List.forall_mem_cons]
    exact ⟨Agrees.list hr rfl, keeps_orNone h.droppedAttributesCount.inRange, List.forall_mem_nil _⟩

theorem scope_encodes {s : InstrumentationScope} (h : s.WellTyped Binary64.IsFinite) :
    ∃ doc, encodeScope s = .ok doc ∧ doc.isEmpty = Protobuf.scopeIsEmpty s ∧
      Encodes (.message .instrumentationScope) (.ok doc) (Protobuf.scope s) := by
  obtain ⟨docs, vals, hdocs, hvals, hr⟩ := attributes_encode h.attributes
  simp only [encodeScope, Protobuf.scope, hdocs, hvals, ok_bind, pure_ok]
  refine ⟨_, rfl, ?_, Encodes.sparse ?_ List.nodup_nil rfl⟩
  · cases hv : s.version <;>
      simp [isEmpty_omitEmpty, encodeAttributes_isEmpty hdocs, Protobuf.scopeIsEmpty, optional,
        hv, Bool.and_assoc]
  · simp only [otlp, List.forall_mem_cons]
    exact ⟨keeps_str, keeps_optional_str, Agrees.list hr rfl, Agrees.absent, List.forall_mem_nil _⟩

/-! ### Metrics -/

theorem exemplar_encodes {e : Exemplar} (h : e.WellTyped Binary64.IsFinite) :
    Encodes (.message .exemplar) (encodeExemplar e) (Protobuf.exemplar e) := by
  obtain ⟨docs, vals, hdocs, hvals, hattributes⟩ := attributes_encode h.filteredAttributes
  have hvalue := h.value
  cases hv : e.value with
  | bool b => rw [hv] at hvalue; exact hvalue.elim
  | int n =>
      rw [hv, NumberValue.WellTyped] at hvalue
      simp only [encodeExemplar, Protobuf.exemplar, valueField, Protobuf.valueArgument, hv, hdocs,
        hvals, hvalue.u64, h.timeUnixNano.u64, ok_bind, pure_ok]
      refine Encodes.sparse ?_ (List.nodup_singleton _) rfl
      simp only [otlp, List.forall_mem_cons]
      exact ⟨keeps_u64 h.timeUnixNano, Agrees.absent, keeps_optHexId, keeps_optHexId,
        keeps_asInt hvalue, Agrees.list hattributes rfl, List.forall_mem_nil _⟩
  | float x =>
      rw [hv, NumberValue.WellTyped] at hvalue
      simp only [encodeExemplar, Protobuf.exemplar, valueField, Protobuf.valueArgument, hv, hdocs,
        hvals, h.timeUnixNano.u64, ok_bind, pure_ok]
      refine Encodes.sparse ?_ (List.nodup_singleton _) rfl
      simp only [otlp, List.forall_mem_cons]
      exact ⟨keeps_u64 h.timeUnixNano, keeps_asDouble hvalue, keeps_optHexId,
        keeps_optHexId, Agrees.absent, Agrees.list hattributes rfl, List.forall_mem_nil _⟩

theorem numberPoint_encodes {p : NumberDataPoint} (h : p.WellTyped Binary64.IsFinite) :
    Encodes (.message .numberDataPoint) (encodeNumberPoint p) (Protobuf.numberPoint p) := by
  obtain ⟨docs, vals, hdocs, hvals, hattributes⟩ := attributes_encode h.attributes
  obtain ⟨start, hstart, hstartTime⟩ := optU64_keeps h.startTimeUnixNano
  obtain ⟨edocs, evals, hedocs, hevals, hexemplars⟩ :=
    EncodesList.mapM fun e he => exemplar_encodes (h.exemplars e he)
  have hvalue := h.value
  cases hv : p.value with
  | bool b => rw [hv] at hvalue; exact hvalue.elim
  | int n =>
      rw [hv, NumberValue.WellTyped] at hvalue
      simp only [encodeNumberPoint, Protobuf.numberPoint, valueField, Protobuf.valueArgument, hv,
        hdocs, hvals, hstart, hedocs, hevals, hvalue.u64, h.timeUnixNano.u64, ok_bind, pure_ok]
      refine Encodes.sparse ?_ (List.nodup_singleton _) rfl
      simp only [otlp, List.forall_mem_cons]
      exact ⟨hstartTime, keeps_u64 h.timeUnixNano, Agrees.absent, Agrees.list hexemplars rfl,
        keeps_asInt hvalue, Agrees.list hattributes rfl, keeps_orNone h.flags.inRange,
        List.forall_mem_nil _⟩
  | float x =>
      rw [hv, NumberValue.WellTyped] at hvalue
      simp only [encodeNumberPoint, Protobuf.numberPoint, valueField, Protobuf.valueArgument, hv,
        hdocs, hvals, hstart, hedocs, hevals, h.timeUnixNano.u64, ok_bind, pure_ok]
      refine Encodes.sparse ?_ (List.nodup_singleton _) rfl
      simp only [otlp, List.forall_mem_cons]
      exact ⟨hstartTime, keeps_u64 h.timeUnixNano, keeps_asDouble hvalue,
        Agrees.list hexemplars rfl, Agrees.absent, Agrees.list hattributes rfl,
        keeps_orNone h.flags.inRange, List.forall_mem_nil _⟩

theorem histogramPoint_encodes {p : HistogramDataPoint} (h : p.WellTyped Binary64.IsFinite) :
    Encodes (.message .histogramDataPoint) (encodeHistogramPoint p)
      (Protobuf.histogramPoint p) := by
  obtain ⟨docs, vals, hdocs, hvals, hattributes⟩ := attributes_encode h.attributes
  obtain ⟨start, hstart, hstartTime⟩ := optU64_keeps h.startTimeUnixNano
  obtain ⟨edocs, evals, hedocs, hevals, hexemplars⟩ :=
    EncodesList.mapM fun e he => exemplar_encodes (h.exemplars e he)
  have hbounds := forall₂_map fun x hx => reads_double (h.explicitBounds x hx)
  simp only [encodeHistogramPoint, Protobuf.histogramPoint, hdocs, hvals, hstart,
    encodeCounts_eq h.bucketCounts, hedocs, hevals, h.timeUnixNano.u64, h.count.u64, ok_bind,
    pure_ok]
  refine Encodes.sparse ?_ List.nodup_nil rfl
  simp only [otlp, List.forall_mem_cons]
  exact ⟨hstartTime, keeps_u64 h.timeUnixNano, keeps_u64 h.count, keeps_optional_double h.sum,
    keeps_counts h.bucketCounts, Agrees.list hbounds rfl, Agrees.list hexemplars rfl,
    Agrees.list hattributes rfl, keeps_orNone h.flags.inRange, keeps_optional_double h.min,
    keeps_optional_double h.max, List.forall_mem_nil _⟩

theorem buckets_encodes {b : Buckets} (h : b.WellTyped) :
    ∃ doc, encodeBuckets b = .ok doc ∧ doc.isEmpty = Protobuf.bucketsIsEmpty b ∧
      Encodes (.message .buckets) (.ok doc) (Protobuf.buckets b) := by
  simp only [encodeBuckets, Protobuf.buckets, encodeCounts_eq h.bucketCounts, ok_bind, pure_ok]
  refine ⟨_, rfl, ?_, Encodes.sparse ?_ List.nodup_nil rfl⟩
  · simp [isEmpty_omitEmpty, isEmpty_orNone, Protobuf.bucketsIsEmpty]
  · simp only [otlp, List.forall_mem_cons]
    exact ⟨keeps_orNone h.offset.inRange, keeps_counts h.bucketCounts, List.forall_mem_nil _⟩

/-- `u64(x) if x else None`. -/
theorem optU64_nonzero {n : Int} {name key : String} (h : IsUint64 n) :
    ∃ j, optU64 (if n = 0 then none else some n) = .ok j ∧
      Keeps ⟨name, key, .uint64, .implicit⟩ j (some (.int n)) := by
  by_cases hn : n = 0
  · subst hn
    exact ⟨.null, rfl, Agrees.default rfl rfl rfl⟩
  · rw [if_neg hn, optU64, h.u64]
    exact ⟨_, rfl, keeps_u64 h⟩

theorem exponentialPoint_encodes {p : ExponentialHistogramDataPoint}
    (h : p.WellTyped Binary64.IsFinite) :
    Encodes (.message .exponentialHistogramDataPoint) (encodeExponentialPoint p)
      (Protobuf.exponentialPoint p) := by
  obtain ⟨docs, vals, hdocs, hvals, hattributes⟩ := attributes_encode h.attributes
  obtain ⟨start, hstart, hstartTime⟩ := optU64_keeps h.startTimeUnixNano
  obtain ⟨zero, hzero, hzeroCount⟩ := optU64_nonzero h.zeroCount
  obtain ⟨pos, hpos, hposEmpty, hposDoc⟩ := buckets_encodes h.positive
  obtain ⟨parg, hparg, hpositive⟩ := unlessEmpty_keeps hposDoc hposEmpty
  obtain ⟨neg, hneg, hnegEmpty, hnegDoc⟩ := buckets_encodes h.negative
  obtain ⟨narg, hnarg, hnegative⟩ := unlessEmpty_keeps hnegDoc hnegEmpty
  obtain ⟨edocs, evals, hedocs, hevals, hexemplars⟩ :=
    EncodesList.mapM fun e he => exemplar_encodes (h.exemplars e he)
  simp only [encodeExponentialPoint, Protobuf.exponentialPoint, hdocs, hvals, hstart, hzero, hpos,
    hparg, hneg, hnarg, hedocs, hevals, h.timeUnixNano.u64, h.count.u64, ok_bind, pure_ok]
  refine Encodes.sparse ?_ List.nodup_nil rfl
  simp only [otlp, List.forall_mem_cons]
  exact ⟨Agrees.list hattributes rfl, hstartTime, keeps_u64 h.timeUnixNano, keeps_u64 h.count,
    keeps_optional_double h.sum, keeps_orNone h.scale.inRange, hzeroCount, hpositive, hnegative,
    keeps_orNone h.flags.inRange, Agrees.list hexemplars rfl, keeps_optional_double h.min,
    keeps_optional_double h.max, keeps_keepDouble h.zeroThreshold, List.forall_mem_nil _⟩

theorem quantile_encodes {q : ValueAtQuantile} (h : q.WellTyped Binary64.IsFinite) :
    Encodes (.message .valueAtQuantile) (.ok (encodeQuantile q)) (Protobuf.quantile q) := by
  rw [encodeQuantile, Protobuf.quantile]
  refine Encodes.dict ?_ List.nodup_nil rfl
  simp only [otlp, List.forall_mem_cons]
  exact ⟨Agrees.value (reads_double h.quantile) (by simp),
    Agrees.value (reads_double h.value) (by simp), List.forall_mem_nil _⟩

theorem summaryPoint_encodes {p : SummaryDataPoint} (h : p.WellTyped Binary64.IsFinite) :
    Encodes (.message .summaryDataPoint) (encodeSummaryPoint p) (Protobuf.summaryPoint p) := by
  obtain ⟨docs, vals, hdocs, hvals, hattributes⟩ := attributes_encode h.attributes
  obtain ⟨start, hstart, hstartTime⟩ := optU64_keeps h.startTimeUnixNano
  obtain ⟨qvals, hqvals, hquantiles⟩ :=
    EncodesList.map fun q hq => quantile_encodes (h.quantileValues q hq)
  simp only [encodeSummaryPoint, Protobuf.summaryPoint, hdocs, hvals, hstart, hqvals,
    h.timeUnixNano.u64, h.count.u64, ok_bind, pure_ok]
  refine Encodes.sparse ?_ List.nodup_nil rfl
  simp only [otlp, List.forall_mem_cons]
  exact ⟨hstartTime, keeps_u64 h.timeUnixNano, keeps_u64 h.count, keeps_keepDouble h.sum,
    Agrees.list hquantiles rfl, Agrees.list hattributes rfl, keeps_orNone h.flags.inRange,
    List.forall_mem_nil _⟩

theorem AggregationTemporality.inRange (t : AggregationTemporality) :
    (FieldType.enum : FieldType Msg).inRange t.toInt = true := by
  cases t <;> rfl

/-- The fields of `Metric.data`. -/
def dataFields : List (FieldDesc Msg) :=
  (otlp .metric).filter fun f => f.label = .oneof "data"

/-- A histogram of either kind has points and a temporality. -/
theorem histogramData_encodes (m : Msg) {p : Msg}
    (hm : otlp m = [⟨"data_points", "dataPoints", .message p, .repeated⟩,
      ⟨"aggregation_temporality", "aggregationTemporality", .enum, .implicit⟩])
    (temporality : AggregationTemporality) {docs : List Json} {vals : List Value}
    (hr : List.Forall₂ (Reads otlp (.message p)) docs vals) :
    Encodes (.message m) (.ok (.obj [("dataPoints", .arr docs),
        ("aggregationTemporality", .int temporality.toInt)]))
      (otlp.construct m [("aggregation_temporality", some (.int temporality.toInt)),
        ("data_points", some (.list vals))]) := by
  refine Encodes.dict ?_ ?_ ?_
  · rw [hm]
    simp only [List.forall_mem_cons]
    exact ⟨Agrees.kept hr rfl, Agrees.value (reads_int rfl temporality.inRange) (by simp),
      List.forall_mem_nil _⟩
  · rw [Exclusive, hm]
    exact List.nodup_nil
  · rw [decide_eq_true_eq, Keyed, hm]
    exact of_decide_eq_true rfl

/-- The entry and the argument of the data: one field of the oneof, and a dict that is not
empty. -/
theorem metricData_encodes {d : MetricData} (h : d.WellTyped Binary64.IsFinite) :
    ∃ f ∈ dataFields, ∃ doc val, encodeMetricData d = .ok (f.jsonName, doc) ∧
      Protobuf.metricData d = .ok (f.name, some val) ∧ Reads otlp f.type doc val ∧
      doc.isEmpty = false := by
  cases d with
  | gauge points =>
      obtain ⟨docs, vals, hdocs, hvals, hr⟩ := EncodesList.mapM fun p hp =>
        numberPoint_encodes (h p hp)
      obtain ⟨val, hval, hread⟩ := (Encodes.single .gauge
        ⟨"data_points", "dataPoints", .message .numberDataPoint, .repeated⟩ (by decide)
        (Agrees.kept hr rfl)).of_ok
      refine ⟨⟨"gauge", "gauge", .message .gauge, .oneof "data"⟩, by decide, _, val, ?_, ?_, hread,
        rfl⟩
      · rw [encodeMetricData, hdocs]
        rfl
      · simp only [Protobuf.metricData, Protobuf.build, hvals, ok_bind, hval]
        rfl
  | sum points temporality monotonic =>
      obtain ⟨docs, vals, hdocs, hvals, hr⟩ := EncodesList.mapM fun p hp =>
        numberPoint_encodes (h p hp)
      have hfields : ∀ f ∈ otlp .sum, Agrees otlp f
          ([("dataPoints", Json.arr docs), ("aggregationTemporality", .int temporality.toInt),
            ("isMonotonic", .bool monotonic)].lookup f.jsonName)
          (argument [("data_points", some (.list vals)),
            ("aggregation_temporality", some (.int temporality.toInt)),
            ("is_monotonic", some (.bool monotonic))] f) := by
        simp only [otlp, List.forall_mem_cons]
        exact ⟨Agrees.kept hr rfl, Agrees.value (reads_int rfl temporality.inRange) (by simp),
          Agrees.value reads_bool (by simp), List.forall_mem_nil _⟩
      obtain ⟨val, hval, hread⟩ := (Encodes.dict hfields List.nodup_nil rfl).of_ok
      refine ⟨⟨"sum", "sum", .message .sum, .oneof "data"⟩, by decide, _, val, ?_, ?_, hread, rfl⟩
      · rw [encodeMetricData, hdocs]
        rfl
      · simp only [Protobuf.metricData, Protobuf.build, hvals, ok_bind, hval]
        rfl
  | histogram points temporality =>
      obtain ⟨docs, vals, hdocs, hvals, hr⟩ := EncodesList.mapM fun p hp =>
        histogramPoint_encodes (h p hp)
      obtain ⟨val, hval, hread⟩ := (histogramData_encodes .histogram rfl temporality hr).of_ok
      refine ⟨⟨"histogram", "histogram", .message .histogram, .oneof "data"⟩, by decide, _, val, ?_,
        ?_, hread, rfl⟩
      · rw [encodeMetricData, hdocs]
        rfl
      · simp only [Protobuf.metricData, Protobuf.build, hvals, ok_bind, hval]
        rfl
  | exponentialHistogram points temporality =>
      obtain ⟨docs, vals, hdocs, hvals, hr⟩ := EncodesList.mapM fun p hp =>
        exponentialPoint_encodes (h p hp)
      obtain ⟨val, hval, hread⟩ :=
        (histogramData_encodes .exponentialHistogram rfl temporality hr).of_ok
      refine ⟨⟨"exponential_histogram", "exponentialHistogram", .message .exponentialHistogram,
        .oneof "data"⟩, by decide, _, val, ?_, ?_, hread, rfl⟩
      · rw [encodeMetricData, hdocs]
        rfl
      · simp only [Protobuf.metricData, Protobuf.build, hvals, ok_bind, hval]
        rfl
  | summary points =>
      obtain ⟨docs, vals, hdocs, hvals, hr⟩ := EncodesList.mapM fun p hp =>
        summaryPoint_encodes (h p hp)
      obtain ⟨val, hval, hread⟩ := (Encodes.single .summary
        ⟨"data_points", "dataPoints", .message .summaryDataPoint, .repeated⟩ (by decide)
        (Agrees.kept hr rfl)).of_ok
      refine ⟨⟨"summary", "summary", .message .summary, .oneof "data"⟩, by decide, _, val, ?_, ?_,
        hread, rfl⟩
      · rw [encodeMetricData, hdocs]
        rfl
      · simp only [Protobuf.metricData, Protobuf.build, hvals, ok_bind, hval]
        rfl

theorem metric_encodes {m : Metric} (h : m.WellTyped Binary64.IsFinite) :
    Encodes (.message .metric) (encodeMetric m) (Protobuf.metric m) := by
  obtain ⟨f, hf, doc, val, hdoc, hval, hr, hempty⟩ := metricData_encodes h.data
  simp only [encodeMetric, Protobuf.metric, hdoc, hval, ok_bind, pure_ok]
  simp only [dataFields, otlp, List.filter, List.mem_cons, List.not_mem_nil, or_false, decide_true,
    decide_false, reduceCtorEq] at hf
  rcases hf with rfl | rfl | rfl | rfl | rfl
  all_goals
    refine Encodes.sparse ?_ (List.nodup_singleton _) rfl
    simp only [otlp, List.forall_mem_cons]
  · exact ⟨keeps_str, keeps_str, keeps_str, Agrees.filled hr hempty (by simp), Agrees.absent,
      Agrees.absent, Agrees.absent, Agrees.absent, Agrees.absent, List.forall_mem_nil _⟩
  · exact ⟨keeps_str, keeps_str, keeps_str, Agrees.absent, Agrees.filled hr hempty (by simp),
      Agrees.absent, Agrees.absent, Agrees.absent, Agrees.absent, List.forall_mem_nil _⟩
  · exact ⟨keeps_str, keeps_str, keeps_str, Agrees.absent, Agrees.absent,
      Agrees.filled hr hempty (by simp), Agrees.absent, Agrees.absent, Agrees.absent,
      List.forall_mem_nil _⟩
  · exact ⟨keeps_str, keeps_str, keeps_str, Agrees.absent, Agrees.absent, Agrees.absent,
      Agrees.filled hr hempty (by simp), Agrees.absent, Agrees.absent, List.forall_mem_nil _⟩
  · exact ⟨keeps_str, keeps_str, keeps_str, Agrees.absent, Agrees.absent, Agrees.absent,
      Agrees.absent, Agrees.filled hr hempty (by simp), Agrees.absent, List.forall_mem_nil _⟩

theorem scopeMetrics_encodes {sm : ScopeMetrics} (h : sm.WellTyped Binary64.IsFinite) :
    Encodes (.message .scopeMetrics) (encodeScopeMetrics sm) (Protobuf.scopeMetrics sm) := by
  obtain ⟨sdoc, hsdoc, hsempty, hscope⟩ := scope_encodes h.scope
  obtain ⟨sarg, hsarg, hkeeps⟩ := unlessEmpty_keeps hscope hsempty
  obtain ⟨docs, vals, hdocs, hvals, hmetrics⟩ :=
    EncodesList.mapM fun m hm => metric_encodes (h.metrics m hm)
  simp only [encodeScopeMetrics, Protobuf.scopeMetrics, hsdoc, hsarg, hdocs, hvals, ok_bind,
    pure_ok]
  refine Encodes.sparse ?_ List.nodup_nil rfl
  simp only [otlp, List.forall_mem_cons]
  exact ⟨hkeeps, Agrees.list hmetrics rfl, Agrees.absent, List.forall_mem_nil _⟩

theorem resourceMetrics_encodes {rm : ResourceMetrics} (h : rm.WellTyped Binary64.IsFinite) :
    Encodes (.message .resourceMetrics) (encodeOneResourceMetrics rm)
      (Protobuf.resourceMetrics rm) := by
  obtain ⟨rdoc, hrdoc, hrempty, hresource⟩ := resource_encodes h.resource
  obtain ⟨rarg, hrarg, hkeeps⟩ := unlessEmpty_keeps hresource hrempty
  obtain ⟨docs, vals, hdocs, hvals, hscopes⟩ :=
    EncodesList.mapM fun sm hsm => scopeMetrics_encodes (h.scopeMetrics sm hsm)
  simp only [encodeOneResourceMetrics, Protobuf.resourceMetrics, hrdoc, hrarg, hdocs, hvals,
    ok_bind, pure_ok]
  refine Encodes.sparse ?_ List.nodup_nil rfl
  simp only [otlp, List.forall_mem_cons]
  exact ⟨hkeeps, Agrees.list hscopes rfl, Agrees.absent, List.forall_mem_nil _⟩

/-! ### Logs -/

theorem SeverityNumber.inRange (s : SeverityNumber) :
    (FieldType.enum : FieldType Msg).inRange s.toInt = true := by
  cases s <;> rfl

theorem logRecord_encodes {r : LogRecord} (h : r.WellTyped Binary64.IsFinite) :
    Encodes (.message .logRecord) (encodeLogRecord r) (Protobuf.logRecord r) := by
  obtain ⟨docs, vals, hdocs, hvals, hattributes⟩ := attributes_encode h.attributes
  obtain ⟨body, bval, hbody, hbval, hr⟩ := anyValue_encodes h.body
  simp only [encodeLogRecord, Protobuf.logRecord, hdocs, hvals, hbody, hbval, h.timeUnixNano.u64,
    h.observedTimeUnixNano.u64, ok_bind, pure_ok]
  refine Encodes.sparse ?_ List.nodup_nil rfl
  simp only [otlp, List.forall_mem_cons]
  exact ⟨keeps_u64 h.timeUnixNano, keeps_orNone r.severityNumber.inRange, keeps_str,
    Agrees.filled hr (encodeAnyValue_isEmpty hbody) (by simp), Agrees.list hattributes rfl,
    Agrees.absent, keeps_orNone h.flags.inRange, keeps_optHexId, keeps_optHexId,
    keeps_u64 h.observedTimeUnixNano, keeps_str, List.forall_mem_nil _⟩

theorem scopeLogs_encodes {sl : ScopeLogs} (h : sl.WellTyped Binary64.IsFinite) :
    Encodes (.message .scopeLogs) (encodeScopeLogs sl) (Protobuf.scopeLogs sl) := by
  obtain ⟨sdoc, hsdoc, hsempty, hscope⟩ := scope_encodes h.scope
  obtain ⟨sarg, hsarg, hkeeps⟩ := unlessEmpty_keeps hscope hsempty
  obtain ⟨docs, vals, hdocs, hvals, hrecords⟩ :=
    EncodesList.mapM fun r hr => logRecord_encodes (h.logRecords r hr)
  simp only [encodeScopeLogs, Protobuf.scopeLogs, hsdoc, hsarg, hdocs, hvals, ok_bind, pure_ok]
  refine Encodes.sparse ?_ List.nodup_nil rfl
  simp only [otlp, List.forall_mem_cons]
  exact ⟨hkeeps, Agrees.list hrecords rfl, Agrees.absent, List.forall_mem_nil _⟩

theorem resourceLogs_encodes {rl : ResourceLogs} (h : rl.WellTyped Binary64.IsFinite) :
    Encodes (.message .resourceLogs) (encodeOneResourceLogs rl) (Protobuf.resourceLogs rl) := by
  obtain ⟨rdoc, hrdoc, hrempty, hresource⟩ := resource_encodes h.resource
  obtain ⟨rarg, hrarg, hkeeps⟩ := unlessEmpty_keeps hresource hrempty
  obtain ⟨docs, vals, hdocs, hvals, hscopes⟩ :=
    EncodesList.mapM fun sl hsl => scopeLogs_encodes (h.scopeLogs sl hsl)
  simp only [encodeOneResourceLogs, Protobuf.resourceLogs, hrdoc, hrarg, hdocs, hvals, ok_bind,
    pure_ok]
  refine Encodes.sparse ?_ List.nodup_nil rfl
  simp only [otlp, List.forall_mem_cons]
  exact ⟨hkeeps, Agrees.list hscopes rfl, Agrees.absent, List.forall_mem_nil _⟩

/-! ### Traces -/

theorem SpanKind.inRange (k : SpanKind) :
    (FieldType.enum : FieldType Msg).inRange k.toInt = true := by
  cases k <;> rfl

theorem StatusCode.inRange (c : StatusCode) :
    (FieldType.enum : FieldType Msg).inRange c.toInt = true := by
  cases c <;> rfl

theorem StatusCode.toInt_eq_zero {c : StatusCode} : c.toInt = 0 ↔ c = .unset := by
  cases c <;> decide

theorem spanEvent_encodes {e : SpanEvent} (h : e.WellTyped Binary64.IsFinite) :
    Encodes (.message .event) (encodeSpanEvent e) (Protobuf.spanEvent e) := by
  obtain ⟨docs, vals, hdocs, hvals, hattributes⟩ := attributes_encode h.attributes
  simp only [encodeSpanEvent, Protobuf.spanEvent, hdocs, hvals, h.timeUnixNano.u64, ok_bind,
    pure_ok]
  refine Encodes.sparse ?_ List.nodup_nil rfl
  simp only [otlp, List.forall_mem_cons]
  exact ⟨keeps_u64 h.timeUnixNano, keeps_str, Agrees.list hattributes rfl, Agrees.absent,
    List.forall_mem_nil _⟩

theorem spanLink_encodes {l : SpanLink} (h : l.WellTyped Binary64.IsFinite) :
    Encodes (.message .link) (encodeSpanLink l) (Protobuf.spanLink l) := by
  obtain ⟨docs, vals, hdocs, hvals, hattributes⟩ := attributes_encode h.attributes
  simp only [encodeSpanLink, Protobuf.spanLink, hdocs, hvals, ok_bind, pure_ok]
  refine Encodes.sparse ?_ List.nodup_nil rfl
  simp only [otlp, List.forall_mem_cons]
  exact ⟨keeps_hexId, keeps_hexId, keeps_str, Agrees.list hattributes rfl, Agrees.absent,
    keeps_orNone h.flags.inRange, List.forall_mem_nil _⟩

theorem status_encodes (status : Status) :
    Encodes (.message .status) (.ok (encodeStatus status))
      (Protobuf.build .status
        [("code", some (.int status.code.toInt)), ("message", some (.str status.message))]) := by
  refine Encodes.sparse ?_ List.nodup_nil rfl
  simp only [otlp, List.forall_mem_cons]
  exact ⟨keeps_str, keeps_orNone status.code.inRange, List.forall_mem_nil _⟩

/-- A status that carries nothing is left out by both. -/
theorem status_keeps (status : Option Status) :
    ∃ a, Protobuf.statusArgument status = .ok a ∧
      Keeps ⟨"status", "status", .message .status, .explicit⟩ (optional encodeStatus status) a := by
  cases status with
  | none => exact ⟨none, rfl, Agrees.absent⟩
  | some status =>
      have hempty : (encodeStatus status).isEmpty =
          decide ¬(status.code ≠ .unset ∨ status.message ≠ "") := by
        rw [Bool.eq_iff_iff]
        simp [encodeStatus, isEmpty_omitEmpty, isEmpty_orNone, StatusCode.toInt_eq_zero]
      obtain ⟨a, ha, hkeeps⟩ := unlessEmpty_keeps (status_encodes status) hempty
      refine ⟨a, ?_, hkeeps⟩
      rw [← ha, Protobuf.statusArgument, Protobuf.unlessEmpty]
      by_cases hs : status.code ≠ .unset ∨ status.message ≠ ""
      · rw [if_pos hs, if_neg (by simp [hs])]
      · rw [if_neg hs, if_pos (by simp [hs])]

theorem span_encodes {s : Span} (h : s.WellTyped Binary64.IsFinite) :
    Encodes (.message .span) (encodeSpan s) (Protobuf.span s) := by
  obtain ⟨docs, vals, hdocs, hvals, hattributes⟩ := attributes_encode h.attributes
  obtain ⟨edocs, evals, hedocs, hevals, hevents⟩ :=
    EncodesList.mapM fun e he => spanEvent_encodes (h.events e he)
  obtain ⟨ldocs, lvals, hldocs, hlvals, hlinks⟩ :=
    EncodesList.mapM fun l hl => spanLink_encodes (h.links l hl)
  obtain ⟨status, hstatus, hkeeps⟩ := status_keeps s.status
  simp only [encodeSpan, Protobuf.span, hdocs, hvals, hedocs, hevals, hldocs, hlvals, hstatus,
    h.startTimeUnixNano.u64, h.endTimeUnixNano.u64, ok_bind, pure_ok]
  refine Encodes.sparse ?_ List.nodup_nil rfl
  simp only [otlp, List.forall_mem_cons]
  exact ⟨keeps_hexId, keeps_hexId, keeps_str, keeps_optHexId, keeps_str,
    keeps_orNone s.kind.inRange, keeps_u64 h.startTimeUnixNano, keeps_u64 h.endTimeUnixNano,
    Agrees.list hattributes rfl, Agrees.absent, Agrees.list hevents rfl, Agrees.absent,
    Agrees.list hlinks rfl, Agrees.absent, hkeeps, keeps_orNone h.flags.inRange,
    List.forall_mem_nil _⟩

theorem scopeSpans_encodes {ss : ScopeSpans} (h : ss.WellTyped Binary64.IsFinite) :
    Encodes (.message .scopeSpans) (encodeScopeSpans ss) (Protobuf.scopeSpans ss) := by
  obtain ⟨sdoc, hsdoc, hsempty, hscope⟩ := scope_encodes h.scope
  obtain ⟨sarg, hsarg, hkeeps⟩ := unlessEmpty_keeps hscope hsempty
  obtain ⟨docs, vals, hdocs, hvals, hspans⟩ :=
    EncodesList.mapM fun s hs => span_encodes (h.spans s hs)
  simp only [encodeScopeSpans, Protobuf.scopeSpans, hsdoc, hsarg, hdocs, hvals, ok_bind, pure_ok]
  refine Encodes.sparse ?_ List.nodup_nil rfl
  simp only [otlp, List.forall_mem_cons]
  exact ⟨hkeeps, Agrees.list hspans rfl, Agrees.absent, List.forall_mem_nil _⟩

theorem resourceSpans_encodes {rs : ResourceSpans} (h : rs.WellTyped Binary64.IsFinite) :
    Encodes (.message .resourceSpans) (encodeOneResourceSpans rs)
      (Protobuf.resourceSpans rs) := by
  obtain ⟨rdoc, hrdoc, hrempty, hresource⟩ := resource_encodes h.resource
  obtain ⟨rarg, hrarg, hkeeps⟩ := unlessEmpty_keeps hresource hrempty
  obtain ⟨docs, vals, hdocs, hvals, hscopes⟩ :=
    EncodesList.mapM fun ss hss => scopeSpans_encodes (h.scopeSpans ss hss)
  simp only [encodeOneResourceSpans, Protobuf.resourceSpans, hrdoc, hrarg, hdocs, hvals, ok_bind,
    pure_ok]
  refine Encodes.sparse ?_ List.nodup_nil rfl
  simp only [otlp, List.forall_mem_cons]
  exact ⟨hkeeps, Agrees.list hscopes rfl, Agrees.absent, List.forall_mem_nil _⟩

/-! ### Requests -/

/-- A request is one repeated field of resource messages. -/
theorem request_encodes {α : Type} {m : Msg} (f : FieldDesc Msg) (hf : f ∈ otlp m)
    (hl : f.label = .repeated) {j : α → Except PyError Json} {v : α → Except PyError Value}
    {data : List α} (h : ∀ x ∈ data, Encodes f.type (j x) (v x)) :
    Encodes (.message m) (do return .obj [(f.jsonName, .arr (← data.mapM j))])
      (do otlp.construct m [(f.name, some (.list (← data.mapM v)))]) := by
  obtain ⟨docs, vals, hdocs, hvals, hr⟩ := EncodesList.mapM h
  rw [hdocs, hvals]
  exact Encodes.single m f hf (Agrees.kept hr hl)

/-- **The two encoders describe the same message.**  For each signal, on well-typed trees with
finite floats, the JSON document reads, with the proto3 JSON mapping, as the protobuf request: the
same fields are set, to the same values. -/
theorem encoders_agree :
    (∀ data : List ResourceMetrics, (∀ rm ∈ data, rm.WellTyped Binary64.IsFinite) →
      ∃ doc request, encodeResourceMetrics data = .ok doc ∧
        Protobuf.encodeMetrics data = .ok request ∧
        readValue otlp (.message .exportMetricsServiceRequest) doc = some request) ∧
    (∀ data : List ResourceLogs, (∀ rl ∈ data, rl.WellTyped Binary64.IsFinite) →
      ∃ doc request, encodeResourceLogs data = .ok doc ∧
        Protobuf.encodeLogs data = .ok request ∧
        readValue otlp (.message .exportLogsServiceRequest) doc = some request) ∧
    (∀ data : List ResourceSpans, (∀ rs ∈ data, rs.WellTyped Binary64.IsFinite) →
      ∃ doc request, encodeResourceSpans data = .ok doc ∧
        Protobuf.encodeTraces data = .ok request ∧
        readValue otlp (.message .exportTraceServiceRequest) doc = some request) := by
  refine ⟨fun data h => ?_, fun data h => ?_, fun data h => ?_⟩
  · obtain ⟨doc, request, hdoc, hrequest, hr⟩ := request_encodes (m := .exportMetricsServiceRequest)
      ⟨"resource_metrics", "resourceMetrics", .message .resourceMetrics, .repeated⟩ (by decide) rfl
      fun rm hrm => resourceMetrics_encodes (h rm hrm)
    exact ⟨doc, request, hdoc, hrequest, hr.read⟩
  · obtain ⟨doc, request, hdoc, hrequest, hr⟩ := request_encodes (m := .exportLogsServiceRequest)
      ⟨"resource_logs", "resourceLogs", .message .resourceLogs, .repeated⟩ (by decide) rfl
      fun rl hrl => resourceLogs_encodes (h rl hrl)
    exact ⟨doc, request, hdoc, hrequest, hr.read⟩
  · obtain ⟨doc, request, hdoc, hrequest, hr⟩ := request_encodes (m := .exportTraceServiceRequest)
      ⟨"resource_spans", "resourceSpans", .message .resourceSpans, .repeated⟩ (by decide) rfl
      fun rs hrs => resourceSpans_encodes (h rs hrs)
    exact ⟨doc, request, hdoc, hrequest, hr.read⟩

/-- A gauge at `-0.0`, under a scope that carries nothing, on a resource with an empty list for
an attribute. -/
theorem encoders_agree_negative_zero :
    ∃ doc request,
      encodeResourceMetrics [⟨{ attributes := [("tags", .sequence [])] }, [⟨{ name := "" },
        [⟨"t", .gauge [{ timeUnixNano := 7, value := .float .negZero }], "", ""⟩]⟩]⟩] = .ok doc ∧
      Protobuf.encodeMetrics [⟨{ attributes := [("tags", .sequence [])] }, [⟨{ name := "" },
        [⟨"t", .gauge [{ timeUnixNano := 7, value := .float .negZero }], "", ""⟩]⟩]⟩] =
        .ok request ∧
      readValue otlp (.message .exportMetricsServiceRequest) doc = some request := by
  refine encoders_agree.1 _ (List.forall_mem_singleton.mpr ⟨⟨?_, by decide, by decide⟩, ?_⟩)
  · simp [Attributes.WellTyped, AnyValue.WellTypedItems, AnyValue.WellTypedItem, AnyValue.WellTyped,
      AnyValue.WellTypedList]
  · refine List.forall_mem_singleton.mpr ⟨⟨trivial⟩, List.forall_mem_singleton.mpr ⟨?_⟩⟩
    exact List.forall_mem_singleton.mpr
      ⟨trivial, ⟨by decide, by decide⟩, nofun, (by decide : Binary64.negZero.IsFinite),
        ⟨by decide, by decide⟩, List.forall_mem_nil _⟩

end OtlpClient
