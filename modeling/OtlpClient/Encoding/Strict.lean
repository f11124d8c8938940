import OtlpClient.Encoding.Written
import OtlpClient.Proto.Strict

/-!
# Encoding — the wire typing of OTLP/JSON

* `*_strict`: what a builder returns, if it returns, is written strictly.
* **`document_strict`**: the document of any payload is.
-/

namespace OtlpClient

open Proto

/-- Where a string or a list may be empty: in an array, a key-value list or a key-value, in a
string or bytes value, in the points of a metric and in the list of a request. -/
def MayBeEmpty : Msg → FieldDesc Msg → Prop
  | .arrayValue, _ | .keyValueList, _ | .keyValue, _ => True
  | .anyValue, f => f.jsonName = "stringValue" ∨ f.jsonName = "bytesValue"
  | .gauge, f | .sum, f | .histogram, f | .exponentialHistogram, f | .summary, f =>
      f.jsonName = "dataPoints"
  | .exportMetricsServiceRequest, _ | .exportLogsServiceRequest, _
  | .exportTraceServiceRequest, _ => True
  | _, _ => False

/-- The document is written as OTLP/JSON prescribes. -/
abbrev OnWire (t : FieldType Msg) (j : Json) : Prop := Strict otlp MayBeEmpty t j

/-! ### Entries -/

section Entries

variable {m : Msg} {name key : String} {t : FieldType Msg}

theorem u64_decimal {n : Int} : Ensures (u64 n) IsDecimal := by
  intro s hs
  unfold u64 at hs
  split at hs
  · cases hs
    exact isDecimal_repr n
  · cases hs

theorem IsDecimal.ne_empty {s : String} (h : IsDecimal s) : s ≠ "" := by
  rintro rfl
  obtain h | ⟨c, cs, h | h, -⟩ := h
  · exact absurd h (by decide)
  · cases h
  · cases h

/-- A 64-bit integer, as a string. -/
theorem kept_decimal {s : String} (h : IsDecimal s) :
    Kept otlp MayBeEmpty m ⟨name, key, .uint64, .implicit⟩ (some (.str s)) :=
  Kept.sparse nofun rfl fun _ => h

/-- A smaller integer or an enum, as a number. -/
theorem kept_orNone {n : Int} (ht : StrictScalar t (.int n)) :
    Kept otlp MayBeEmpty m ⟨name, key, t, .implicit⟩ (some (orNone n)) := by
  refine Kept.sparse nofun rfl fun hn => ?_
  unfold orNone at hn ⊢
  split at hn
  · cases hn
  · rename_i h
    rw [if_neg h]
    cases t <;> exact ht

theorem kept_str {s : String} :
    Kept otlp MayBeEmpty m ⟨name, key, .string, .implicit⟩ (some (.str s)) :=
  Kept.sparse nofun rfl fun _ => trivial

theorem kept_optional_str {s : Option String} :
    Kept otlp MayBeEmpty m ⟨name, key, .string, .implicit⟩ (some (optional .str s)) := by
  cases s with
  | none => exact Kept.sparse nofun rfl nofun
  | some s => exact kept_str

theorem kept_hexId {b : Bytes} :
    Kept otlp MayBeEmpty m ⟨name, key, .id, .implicit⟩ (some (.str (hexId b))) :=
  Kept.sparse nofun rfl fun _ => isHex_hex b

theorem kept_optHexId {b : Option Bytes} :
    Kept otlp MayBeEmpty m ⟨name, key, .id, .implicit⟩ (some (optHexId b)) := by
  rcases b with _ | _ | ⟨x, b⟩
  · exact Kept.sparse nofun rfl nofun
  · exact Kept.sparse nofun rfl nofun
  · exact kept_hexId

theorem kept_optional_double {x : Option Binary64} :
    Kept otlp MayBeEmpty m ⟨name, key, .double, .explicit⟩ (some (optional .float x)) := by
  cases x with
  | none => exact Kept.sparse nofun rfl nofun
  | some x => exact Kept.filled nofun rfl trivial

theorem kept_keepDouble {x : Binary64} :
    Kept otlp MayBeEmpty m ⟨name, key, .double, .implicit⟩ (some (keepDouble x)) := by
  unfold keepDouble
  split
  · exact Kept.filled nofun rfl trivial
  · exact Kept.sparse nofun rfl nofun

/-- A time that may be `None`. -/
theorem optU64_strict {n : Option Int} :
    Ensures (optU64 n) fun j => j.isEmpty = false → OnWire .uint64 j := by
  cases n with
  | none => exact .pure nofun
  | some n => exact u64_decimal.bind fun s hs => .pure fun _ => hs

theorem counts_strict {counts : List Int} : Ensures (encodeCounts counts) fun j =>
    ∃ js, j = .arr js ∧ ∀ j ∈ js, OnWire .uint64 j := by
  have hcount : ∀ c ∈ counts, Ensures (do return Json.str (← u64 c)) (OnWire .uint64) :=
    fun c _ => u64_decimal.bind fun s hs => .pure hs
  exact (Ensures.mapM hcount).bind fun js hjs => .pure ⟨js, rfl, hjs⟩

/-- A message in a dict whose empty entries are dropped. -/
theorem kept_message {m' : Msg} {j : Json} (h : OnWire (.message m') j) :
    Kept otlp MayBeEmpty m ⟨name, key, .message m', .explicit⟩ (some j) :=
  Kept.sparse nofun rfl fun _ => h

end Entries

/-! ### Attribute values -/

/-- One member of the oneof of `AnyValue`. -/
theorem anyValue_single (f : FieldDesc Msg) (hf : f ∈ otlp .anyValue) (hl : f.label ≠ .repeated)
    (hkeys : decide (StrictKeys otlp .anyValue [f.jsonName]) = true) {j : Json}
    (he : j = .str "" → MayBeEmpty .anyValue f) (h : OnWire f.type j) :
    OnWire (.message .anyValue) (.obj [(f.jsonName, j)]) ∧
      (Json.obj [(f.jsonName, j)]).isEmpty = false :=
  ⟨strict_single f hf hkeys (.value hl he h), rfl⟩

mutual
/-- A value is a dict of one kind. -/
theorem anyValue_strict : ∀ {v : AnyValue},
    Ensures (encodeAnyValue v) fun j => OnWire (.message .anyValue) j ∧ j.isEmpty = false
  | .bool b => by
      rw [encodeAnyValue]
      exact .pure (anyValue_single ⟨"bool_value", "boolValue", .bool, .oneof "value"⟩ (by decide)
        nofun rfl nofun trivial)
  | .int n => by
      rw [encodeAnyValue]
      refine u64_decimal.bind fun s hs => ?_
      -- A decimal is not empty, whatever `MayBeEmpty` would allow.
      have hne : Json.str s ≠ .str "" := fun h => hs.ne_empty (Json.str.inj h)
      exact .pure (anyValue_single ⟨"int_value", "intValue", .int64, .oneof "value"⟩ (by decide)
        nofun rfl (fun h => absurd h hne) hs)
  | .float x => by
      rw [encodeAnyValue]
      exact .pure (anyValue_single ⟨"double_value", "doubleValue", .double, .oneof "value"⟩
        (by decide) nofun rfl nofun trivial)
  | .str s => by
      rw [encodeAnyValue]
      exact .pure (anyValue_single ⟨"string_value", "stringValue", .string, .oneof "value"⟩
        (by decide) nofun rfl (fun _ => .inl rfl) trivial)
  | .bytes b => by
      rw [encodeAnyValue]
      exact .pure (anyValue_single ⟨"bytes_value", "bytesValue", .bytes, .oneof "value"⟩
        (by decide) nofun rfl (fun _ => .inr rfl) (isBase64_b64 b))
  | .sequence vs => by
      rw [encodeAnyValue]
      refine anyValues_strict.bind fun js hjs => ?_
      have harray : OnWire (.message .arrayValue) (.obj [("values", .arr js)]) :=
        strict_single ⟨"values", "values", .message .anyValue, .repeated⟩ (by decide) rfl
          ⟨rfl, fun _ => trivial, hjs⟩
      exact .pure (anyValue_single
        ⟨"array_value", "arrayValue", .message .arrayValue, .oneof "value"⟩ (by decide) nofun rfl
        nofun harray)
  | .mapping items => by
      rw [encodeAnyValue]
      refine attributes_strict.bind fun js hjs => ?_
      have hkvs : OnWire (.message .keyValueList) (.obj [("values", .arr js)]) :=
        strict_single ⟨"values", "values", .message .keyValue, .repeated⟩ (by decide) rfl
          ⟨rfl, fun _ => trivial, hjs⟩
      exact .pure (anyValue_single
        ⟨"kvlist_value", "kvlistValue", .message .keyValueList, .oneof "value"⟩ (by decide) nofun
        rfl nofun hkvs)
  | .other type => by
      rw [encodeAnyValue]
      exact .throw

theorem anyValues_strict : ∀ {vs : List AnyValue},
    Ensures (encodeAnyValues vs) fun js => ∀ j ∈ js, OnWire (.message .anyValue) j
  | [] => by
      rw [encodeAnyValues]
      exact .pure nofun
  | v :: vs => by
      rw [encodeAnyValues]
      exact anyValue_strict.bind fun j hj => anyValues_strict.bind fun js hjs =>
        .pure (List.forall_mem_cons.mpr ⟨hj.1, hjs⟩)

theorem attributes_strict : ∀ {items : List (String × AnyValue)},
    Ensures (encodeAttributes items) fun js => ∀ j ∈ js, OnWire (.message .keyValue) j
  | [] => by
      rw [encodeAttributes]
      exact .pure nofun
  | item :: items => by
      rw [encodeAttributes]
      exact keyValue_strict.bind fun j hj => attributes_strict.bind fun js hjs =>
        .pure (List.forall_mem_cons.mpr ⟨hj, hjs⟩)

theorem keyValue_strict : ∀ {item : String × AnyValue},
    Ensures (encodeKeyValue item) (OnWire (.message .keyValue))
  | (key, v) => by
      rw [encodeKeyValue]
      refine anyValue_strict.bind fun j hj => .pure (strict_dict rfl ?_)
      simp only [otlp, List.forall_mem_cons]
      exact ⟨.value nofun (fun _ => trivial) trivial, .value nofun (fun _ => trivial) hj.1,
        List.forall_mem_nil _⟩
end

/-! ### Resource and scope -/

theorem resource_strict {r : Resource} :
    Ensures (encodeResource r) (OnWire (.message .resource)) := by
  unfold encodeResource
  refine attributes_strict.bind fun attributes hattributes => .pure (strict_sparse rfl ?_)
  simp only [otlp, List.forall_mem_cons]
  exact ⟨.list rfl hattributes, kept_orNone trivial, List.forall_mem_nil _⟩

theorem scope_strict {s : InstrumentationScope} :
    Ensures (encodeScope s) (OnWire (.message .instrumentationScope)) := by
  unfold encodeScope
  refine attributes_strict.bind fun attributes hattributes => .pure (strict_sparse rfl ?_)
  simp only [otlp, List.forall_mem_cons]
  exact ⟨kept_str, kept_optional_str, .list rfl hattributes, trivial, List.forall_mem_nil _⟩

/-! ### Metrics -/

/-- A measurement is one of the two members. -/
theorem valueField_strict {refusal : String} {v : NumberValue} :
    Ensures (valueField refusal v) fun field =>
      (∃ s, field = ("asInt", .str s) ∧ IsDecimal s) ∨ ∃ x, field = ("asDouble", .float x) := by
  cases v with
  | bool b => exact .throw
  | int n => exact u64_decimal.bind fun s hs => .pure (.inl ⟨s, rfl, hs⟩)
  | float x => exact .pure (.inr ⟨x, rfl⟩)

theorem kept_asInt {m : Msg} {name key g : String} {s : String} (h : IsDecimal s) :
    Kept otlp MayBeEmpty m ⟨name, key, .int64, .oneof g⟩ (some (.str s)) :=
  Kept.filled nofun (by simpa using h.ne_empty) h

theorem kept_asDouble {m : Msg} {name key g : String} {x : Binary64} :
    Kept otlp MayBeEmpty m ⟨name, key, .double, .oneof g⟩ (some (.float x)) :=
  Kept.filled nofun rfl trivial

theorem exemplar_strict {e : Exemplar} :
    Ensures (encodeExemplar e) (OnWire (.message .exemplar)) := by
  unfold encodeExemplar
  refine valueField_strict.bind fun field hfield =>
    attributes_strict.bind fun attributes hattributes => u64_decimal.bind fun time htime => ?_
  rcases hfield with ⟨s, rfl, hs⟩ | ⟨x, rfl⟩
  · refine .pure (strict_sparse rfl ?_)
    simp only [otlp, List.forall_mem_cons]
    exact ⟨kept_decimal htime, trivial, kept_optHexId, kept_optHexId, kept_asInt hs,
      .list rfl hattributes, List.forall_mem_nil _⟩
  · refine .pure (strict_sparse rfl ?_)
    simp only [otlp, List.forall_mem_cons]
    exact ⟨kept_decimal htime, kept_asDouble, kept_optHexId, kept_optHexId, trivial,
      .list rfl hattributes, List.forall_mem_nil _⟩

theorem exemplars_strict {exemplars : List Exemplar} :
    Ensures (exemplars.mapM encodeExemplar) fun js => ∀ j ∈ js, OnWire (.message .exemplar) j :=
  .mapM fun _ _ => exemplar_strict

theorem numberPoint_strict {p : NumberDataPoint} :
    Ensures (encodeNumberPoint p) (OnWire (.message .numberDataPoint)) := by
  unfold encodeNumberPoint
  refine valueField_strict.bind fun field hfield =>
    attributes_strict.bind fun attributes hattributes => optU64_strict.bind fun start hstart =>
      u64_decimal.bind fun time htime => exemplars_strict.bind fun exemplars hexemplars => ?_
  rcases hfield with ⟨s, rfl, hs⟩ | ⟨x, rfl⟩
  · refine .pure (strict_sparse rfl ?_)
    simp only [otlp, List.forall_mem_cons]
    exact ⟨.sparse nofun rfl hstart, kept_decimal htime, trivial, .list rfl hexemplars,
      kept_asInt hs, .list rfl hattributes, kept_orNone trivial, List.forall_mem_nil _⟩
  · refine .pure (strict_sparse rfl ?_)
    simp only [otlp, List.forall_mem_cons]
    exact ⟨.sparse nofun rfl hstart, kept_decimal htime, kept_asDouble, .list rfl hexemplars,
      trivial, .list rfl hattributes, kept_orNone trivial, List.forall_mem_nil _⟩

theorem floats_strict {xs : List Binary64} :
    ∀ j ∈ xs.map Json.float, OnWire .double j :=
  List.forall_mem_map.mpr fun _ _ => trivial

theorem histogramPoint_strict {p : HistogramDataPoint} :
    Ensures (encodeHistogramPoint p) (OnWire (.message .histogramDataPoint)) := by
  unfold encodeHistogramPoint
  refine attributes_strict.bind fun attributes hattributes =>
    optU64_strict.bind fun start hstart => u64_decimal.bind fun time htime =>
      u64_decimal.bind fun count hcount => counts_strict.bind fun counts hcounts =>
        exemplars_strict.bind fun exemplars hexemplars => ?_
  obtain ⟨counts, rfl, hcounts⟩ := hcounts
  refine .pure (strict_sparse rfl ?_)
  simp only [otlp, List.forall_mem_cons]
  exact ⟨.sparse nofun rfl hstart, kept_decimal htime, kept_decimal hcount, kept_optional_double,
    .list rfl hcounts, .list rfl floats_strict, .list rfl hexemplars, .list rfl hattributes,
    kept_orNone trivial, kept_optional_double, kept_optional_double, List.forall_mem_nil _⟩

theorem buckets_strict {b : Buckets} :
    Ensures (encodeBuckets b) (OnWire (.message .buckets)) := by
  unfold encodeBuckets
  refine counts_strict.bind fun counts hcounts => ?_
  obtain ⟨counts, rfl, hcounts⟩ := hcounts
  refine .pure (strict_sparse rfl ?_)
  simp only [otlp, List.forall_mem_cons]
  exact ⟨kept_orNone trivial, .list rfl hcounts, List.forall_mem_nil _⟩

theorem exponentialPoint_strict {p : ExponentialHistogramDataPoint} :
    Ensures (encodeExponentialPoint p) (OnWire (.message .exponentialHistogramDataPoint)) := by
  unfold encodeExponentialPoint
  refine attributes_strict.bind fun attributes hattributes =>
    optU64_strict.bind fun start hstart => u64_decimal.bind fun time htime =>
      u64_decimal.bind fun count hcount => optU64_strict.bind fun zeroCount hzeroCount =>
        buckets_strict.bind fun positive hpositive => buckets_strict.bind fun negative hnegative =>
          exemplars_strict.bind fun exemplars hexemplars => .pure (strict_sparse rfl ?_)
  simp only [otlp, List.forall_mem_cons]
  exact ⟨.list rfl hattributes, .sparse nofun rfl hstart, kept_decimal htime, kept_decimal hcount,
    kept_optional_double, kept_orNone trivial, .sparse nofun rfl hzeroCount,
    kept_message hpositive, kept_message hnegative, kept_orNone trivial, .list rfl hexemplars,
    kept_optional_double, kept_optional_double, kept_keepDouble, List.forall_mem_nil _⟩

theorem quantile_strict {q : ValueAtQuantile} :
    OnWire (.message .valueAtQuantile) (encodeQuantile q) := by
  refine strict_dict rfl ?_
  simp only [otlp, List.forall_mem_cons]
  exact ⟨.value nofun nofun trivial, .value nofun nofun trivial, List.forall_mem_nil _⟩

theorem summaryPoint_strict {p : SummaryDataPoint} :
    Ensures (encodeSummaryPoint p) (OnWire (.message .summaryDataPoint)) := by
  unfold encodeSummaryPoint
  refine attributes_strict.bind fun attributes hattributes =>
    optU64_strict.bind fun start hstart => u64_decimal.bind fun time htime =>
      u64_decimal.bind fun count hcount => .pure (strict_sparse rfl ?_)
  have hquantiles : ∀ j ∈ p.quantileValues.map encodeQuantile,
      OnWire (.message .valueAtQuantile) j := List.forall_mem_map.mpr fun _ _ => quantile_strict
  simp only [otlp, List.forall_mem_cons]
  exact ⟨.sparse nofun rfl hstart, kept_decimal htime, kept_decimal hcount, kept_keepDouble,
    .list rfl hquantiles, .list rfl hattributes, kept_orNone trivial, List.forall_mem_nil _⟩

/-- The entry of a member of the oneof of `Metric`. -/
def IsData (body : String × Json) (key : String) (m : Msg) : Prop :=
  ∃ j, body = (key, j) ∧ j.isEmpty = false ∧ OnWire (.message m) j

theorem metricData_strict {data : MetricData} : Ensures (encodeMetricData data) fun body =>
    IsData body "gauge" .gauge ∨ IsData body "sum" .sum ∨ IsData body "histogram" .histogram ∨
      IsData body "exponentialHistogram" .exponentialHistogram ∨
        IsData body "summary" .summary := by
  cases data with
  | gauge points =>
      refine (Ensures.mapM fun _ _ => numberPoint_strict).bind fun js hjs =>
        .pure (.inl ⟨_, rfl, rfl, strict_dict rfl ?_⟩)
      simp only [otlp, List.forall_mem_cons]
      exact ⟨.list rfl (fun _ => rfl) hjs, List.forall_mem_nil _⟩
  | sum points temporality monotonic =>
      refine (Ensures.mapM fun _ _ => numberPoint_strict).bind fun js hjs =>
        .pure (.inr (.inl ⟨_, rfl, rfl, strict_dict rfl ?_⟩))
      simp only [otlp, List.forall_mem_cons]
      exact ⟨.list rfl (fun _ => rfl) hjs, .value nofun nofun trivial,
        .value nofun nofun trivial, List.forall_mem_nil _⟩
  | histogram points temporality =>
      refine (Ensures.mapM fun _ _ => histogramPoint_strict).bind fun js hjs =>
        .pure (.inr (.inr (.inl ⟨_, rfl, rfl, strict_dict rfl ?_⟩)))
      simp only [otlp, List.forall_mem_cons]
      exact ⟨.list rfl (fun _ => rfl) hjs, .value nofun nofun trivial, List.forall_mem_nil _⟩
  | exponentialHistogram points temporality =>
      refine (Ensures.mapM fun _ _ => exponentialPoint_strict).bind fun js hjs =>
        .pure (.inr (.inr (.inr (.inl ⟨_, rfl, rfl, strict_dict rfl ?_⟩))))
      simp only [otlp, List.forall_mem_cons]
      exact ⟨.list rfl (fun _ => rfl) hjs, .value nofun nofun trivial, List.forall_mem_nil _⟩
  | summary points =>
      refine (Ensures.mapM fun _ _ => summaryPoint_strict).bind fun js hjs =>
        .pure (.inr (.inr (.inr (.inr ⟨_, rfl, rfl, strict_dict rfl ?_⟩))))
      simp only [otlp, List.forall_mem_cons]
      exact ⟨.list rfl (fun _ => rfl) hjs, List.forall_mem_nil _⟩

theorem kept_data {key name g : String} {m : Msg} {j : Json} (hj : j.isEmpty = false)
    (h : OnWire (.message m) j) :
    Kept otlp MayBeEmpty .metric ⟨name, key, .message m, .oneof g⟩ (some j) :=
  Kept.filled nofun hj h

theorem metric_strict {m : Metric} : Ensures (encodeMetric m) (OnWire (.message .metric)) := by
  unfold encodeMetric
  refine metricData_strict.bind fun body hbody => ?_
  rcases hbody with ⟨j, rfl, hj, h⟩ | ⟨j, rfl, hj, h⟩ | ⟨j, rfl, hj, h⟩ | ⟨j, rfl, hj, h⟩ |
    ⟨j, rfl, hj, h⟩
  · refine .pure (strict_sparse rfl ?_)
    simp only [otlp, List.forall_mem_cons]
    exact ⟨kept_str, kept_str, kept_str, kept_data hj h, trivial, trivial, trivial, trivial,
      trivial, List.forall_mem_nil _⟩
  · refine .pure (strict_sparse rfl ?_)
    simp only [otlp, List.forall_mem_cons]
    exact ⟨kept_str, kept_str, kept_str, trivial, kept_data hj h, trivial, trivial, trivial,
      trivial, List.forall_mem_nil _⟩
  · refine .pure (strict_sparse rfl ?_)
    simp only [otlp, List.forall_mem_cons]
    exact ⟨kept_str, kept_str, kept_str, trivial, trivial, kept_data hj h, trivial, trivial,
      trivial, List.forall_mem_nil _⟩
  · refine .pure (strict_sparse rfl ?_)
    simp only [otlp, List.forall_mem_cons]
    exact ⟨kept_str, kept_str, kept_str, trivial, trivial, trivial, kept_data hj h, trivial,
      trivial, List.forall_mem_nil _⟩
  · refine .pure (strict_sparse rfl ?_)
    simp only [otlp, List.forall_mem_cons]
    exact ⟨kept_str, kept_str, kept_str, trivial, trivial, trivial, trivial, kept_data hj h,
      trivial, List.forall_mem_nil _⟩

theorem scopeMetrics_strict {sm : ScopeMetrics} :
    Ensures (encodeScopeMetrics sm) (OnWire (.message .scopeMetrics)) := by
  unfold encodeScopeMetrics
  refine scope_strict.bind fun scope hscope =>
    (Ensures.mapM fun _ _ => metric_strict).bind fun metrics hmetrics =>
      .pure (strict_sparse rfl ?_)
  simp only [otlp, List.forall_mem_cons]
  exact ⟨kept_message hscope, .list rfl hmetrics, trivial, List.forall_mem_nil _⟩

theorem resourceMetrics_strict {rm : ResourceMetrics} :
    Ensures (encodeOneResourceMetrics rm) (OnWire (.message .resourceMetrics)) := by
  unfold encodeOneResourceMetrics
  refine resource_strict.bind fun resource hresource =>
    (Ensures.mapM fun _ _ => scopeMetrics_strict).bind fun scopes hscopes =>
      .pure (strict_sparse rfl ?_)
  simp only [otlp, List.forall_mem_cons]
  exact ⟨kept_message hresource, .list rfl hscopes, trivial, List.forall_mem_nil _⟩

/-! ### Logs -/

theorem logRecord_strict {r : LogRecord} :
    Ensures (encodeLogRecord r) (OnWire (.message .logRecord)) := by
  unfold encodeLogRecord
  refine u64_decimal.bind fun time htime => u64_decimal.bind fun observed hobserved =>
    anyValue_strict.bind fun body hbody => attributes_strict.bind fun attributes hattributes =>
      .pure (strict_sparse rfl ?_)
  simp only [otlp, List.forall_mem_cons]
  exact ⟨kept_decimal htime, kept_orNone trivial, kept_str, kept_message hbody.1,
    .list rfl hattributes, trivial, kept_orNone trivial, kept_optHexId, kept_optHexId,
    kept_decimal hobserved, kept_str, List.forall_mem_nil _⟩

theorem scopeLogs_strict {sl : ScopeLogs} :
    Ensures (encodeScopeLogs sl) (OnWire (.message .scopeLogs)) := by
  unfold encodeScopeLogs
  refine scope_strict.bind fun scope hscope =>
    (Ensures.mapM fun _ _ => logRecord_strict).bind fun records hrecords =>
      .pure (strict_sparse rfl ?_)
  simp only [otlp, List.forall_mem_cons]
  exact ⟨kept_message hscope, .list rfl hrecords, trivial, List.forall_mem_nil _⟩

theorem resourceLogs_strict {rl : ResourceLogs} :
    Ensures (encodeOneResourceLogs rl) (OnWire (.message .resourceLogs)) := by
  unfold encodeOneResourceLogs
  refine resource_strict.bind fun resource hresource =>
    (Ensures.mapM fun _ _ => scopeLogs_strict).bind fun scopes hscopes =>
      .pure (strict_sparse rfl ?_)
  simp only [otlp, List.forall_mem_cons]
  exact ⟨kept_message hresource, .list rfl hscopes, trivial, List.forall_mem_nil _⟩

/-! ### Traces -/

theorem spanEvent_strict {e : SpanEvent} :
    Ensures (encodeSpanEvent e) (OnWire (.message .event)) := by
  unfold encodeSpanEvent
  refine u64_decimal.bind fun time htime =>
    attributes_strict.bind fun attributes hattributes => .pure (strict_sparse rfl ?_)
  simp only [otlp, List.forall_mem_cons]
  exact ⟨kept_decimal htime, kept_str, .list rfl hattributes, trivial, List.forall_mem_nil _⟩

theorem spanLink_strict {l : SpanLink} :
    Ensures (encodeSpanLink l) (OnWire (.message .link)) := by
  unfold encodeSpanLink
  refine attributes_strict.bind fun attributes hattributes => .pure (strict_sparse rfl ?_)
  simp only [otlp, List.forall_mem_cons]
  exact ⟨kept_hexId, kept_hexId, kept_str, .list rfl hattributes, trivial, kept_orNone trivial,
    List.forall_mem_nil _⟩

theorem status_strict {status : Status} : OnWire (.message .status) (encodeStatus status) := by
  refine strict_sparse rfl ?_
  simp only [otlp, List.forall_mem_cons]
  exact ⟨kept_str, kept_orNone trivial, List.forall_mem_nil _⟩

theorem kept_status {m : Msg} {name key : String} {status : Option Status} :
    Kept otlp MayBeEmpty m ⟨name, key, .message .status, .explicit⟩
      (some (optional encodeStatus status)) := by
  cases status with
  | none => exact Kept.sparse nofun rfl nofun
  | some status => exact kept_message status_strict

theorem span_strict {s : Span} : Ensures (encodeSpan s) (OnWire (.message .span)) := by
  unfold encodeSpan
  refine u64_decimal.bind fun start hstart => u64_decimal.bind fun stop hstop =>
    attributes_strict.bind fun attributes hattributes =>
      (Ensures.mapM fun _ _ => spanEvent_strict).bind fun events hevents =>
        (Ensures.mapM fun _ _ => spanLink_strict).bind fun links hlinks =>
          .pure (strict_sparse rfl ?_)
  simp only [otlp, List.forall_mem_cons]
  exact ⟨kept_hexId, kept_hexId, kept_str, kept_optHexId, kept_str, kept_orNone trivial,
    kept_decimal hstart, kept_decimal hstop, .list rfl hattributes, trivial, .list rfl hevents,
    trivial, .list rfl hlinks, trivial, kept_status, kept_orNone trivial, List.forall_mem_nil _⟩

theorem scopeSpans_strict {ss : ScopeSpans} :
    Ensures (encodeScopeSpans ss) (OnWire (.message .scopeSpans)) := by
  unfold encodeScopeSpans
  refine scope_strict.bind fun scope hscope =>
    (Ensures.mapM fun _ _ => span_strict).bind fun spans hspans => .pure (strict_sparse rfl ?_)
  simp only [otlp, List.forall_mem_cons]
  exact ⟨kept_message hscope, .list rfl hspans, trivial, List.forall_mem_nil _⟩

theorem resourceSpans_strict {rs : ResourceSpans} :
    Ensures (encodeOneResourceSpans rs) (OnWire (.message .resourceSpans)) := by
  unfold encodeOneResourceSpans
  refine resource_strict.bind fun resource hresource =>
    (Ensures.mapM fun _ _ => scopeSpans_strict).bind fun scopes hscopes =>
      .pure (strict_sparse rfl ?_)
  simp only [otlp, List.forall_mem_cons]
  exact ⟨kept_message hresource, .list rfl hscopes, trivial, List.forall_mem_nil _⟩

/-! ### Payloads -/

/-- The message type of a signal's request. -/
def requestMsg : SignalKind → Msg
  | .metrics => .exportMetricsServiceRequest
  | .logs => .exportLogsServiceRequest
  | .traces | .profiles => .exportTraceServiceRequest

theorem document_wire {kind : SignalKind} {data : Payload kind} :
    Ensures (document kind data) (OnWire (.message (requestMsg kind))) := by
  cases kind with
  | metrics =>
      refine (Ensures.mapM fun _ _ => resourceMetrics_strict).bind fun js hjs => .pure ?_
      exact strict_single ⟨"resource_metrics", "resourceMetrics", .message .resourceMetrics,
        .repeated⟩ (by decide) rfl ⟨rfl, fun _ => trivial, hjs⟩
  | logs =>
      refine (Ensures.mapM fun _ _ => resourceLogs_strict).bind fun js hjs => .pure ?_
      exact strict_single ⟨"resource_logs", "resourceLogs", .message .resourceLogs,
        .repeated⟩ (by decide) rfl ⟨rfl, fun _ => trivial, hjs⟩
  | traces =>
      refine (Ensures.mapM fun _ _ => resourceSpans_strict).bind fun js hjs => .pure ?_
      exact strict_single ⟨"resource_spans", "resourceSpans", .message .resourceSpans,
        .repeated⟩ (by decide) rfl ⟨rfl, fun _ => trivial, hjs⟩
  | profiles => exact .throw

/-- **The wire typing of OTLP/JSON.**  A document is written strictly whatever tree it is of, and
every well-typed tree has one. -/
theorem document_strict {kind : SignalKind} (data : Payload kind) :
    Ensures (document kind data) (OnWire (.message (requestMsg kind))) ∧
      ∀ F, data.WellTyped F → ∃ doc, document kind data = .ok doc := by
  refine ⟨document_wire, fun F h => ?_⟩
  have hk : kind ≠ .profiles := by
    rintro rfl
    exact h
  -- The document does not depend on the library: what `str` writes is enough.
  have hwritten : ∀ l ∈ data.leaves, l.Written .stdlib := fun l hl => (h.leaves l hl).written
  obtain ⟨doc, hdoc, -⟩ := (document_written hk).mpr hwritten
  exact ⟨doc, hdoc⟩

end OtlpClient
