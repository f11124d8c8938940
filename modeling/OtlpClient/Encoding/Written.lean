import OtlpClient.Encoding.Nesting

/-!
# Encoding — what the JSON encoder refuses

* `*_written`: a builder returns a document of ints that are written exactly when every leaf of its
  tree is.
* `jsonEncode_written`: the encoder returns exactly when every leaf of the payload is written, and
  the payload is nested no deeper than the library writes.
-/

namespace OtlpClient

open Proto

variable {d : Dumper}

/-- The encoder writes the leaf: as a decimal string where the field has 64 bits, as a number
otherwise. -/
def Leaf.Written (d : Dumper) : Leaf → Prop
  | .int32 n | .uint32 n => d.Writes n
  | .int64 n | .uint64 n => IsPrintable n
  | .unsupported _ | .bool _ => False

section Leaf

variable {n : Int}

@[simp] theorem written_int32 : (Leaf.int32 n).Written d ↔ d.Writes n := Iff.rfl
@[simp] theorem written_uint32 : (Leaf.uint32 n).Written d ↔ d.Writes n := Iff.rfl
@[simp] theorem written_int64 : (Leaf.int64 n).Written d ↔ IsPrintable n := Iff.rfl
@[simp] theorem written_uint64 : (Leaf.uint64 n).Written d ↔ IsPrintable n := Iff.rfl
@[simp] theorem written_unsupported (type : String) : ¬ (Leaf.unsupported type).Written d := id
@[simp] theorem written_bool (b : Bool) : ¬ (Leaf.bool b).Written d := id

end Leaf

/-- Every int of the document is written. -/
def Fits (d : Dumper) (doc : Json) : Prop := ∀ n ∈ doc.ints, d.Writes n

/-! ### Documents -/

section Fits

theorem fits_of_isEmpty {j : Json} (h : j.isEmpty = true) : Fits d j := by
  unfold Json.isEmpty at h
  unfold Fits
  split at h
  · simp
  · simp
  · simp
  · simp
  · cases h

@[simp] theorem fits_null : Fits d .null := by simp [Fits]
@[simp] theorem fits_bool (b : Bool) : Fits d (.bool b) := by simp [Fits]
@[simp] theorem fits_float (x : Binary64) : Fits d (.float x) := by simp [Fits]
@[simp] theorem fits_str (s : String) : Fits d (.str s) := by simp [Fits]
@[simp] theorem fits_int (n : Int) : Fits d (.int n) ↔ d.Writes n := by simp [Fits]

@[simp]
theorem fits_arr (js : List Json) : Fits d (.arr js) ↔ ∀ j ∈ js, Fits d j := by
  simp only [Fits, Json.ints_arr, List.mem_flatMap]
  exact ⟨fun h j hj n hn => h n ⟨j, hj, hn⟩, fun h n ⟨j, hj, hn⟩ => h j hj n hn⟩

@[simp]
theorem fits_obj (kvs : List (String × Json)) :
    Fits d (.obj kvs) ↔ ∀ kv ∈ kvs, Fits d kv.2 := by
  simp only [Fits, Json.ints_obj, List.mem_flatMap]
  exact ⟨fun h kv hkv n hn => h n ⟨kv, hkv, hn⟩, fun h n ⟨kv, hkv, hn⟩ => h kv hkv n hn⟩

@[simp]
theorem fits_omitEmpty (kvs : List (String × Json)) :
    Fits d (omitEmpty kvs) ↔ ∀ kv ∈ kvs, Fits d kv.2 := by
  rw [omitEmpty, fits_obj]
  constructor
  · intro h kv hkv
    cases he : kv.2.isEmpty with
    | true => exact fits_of_isEmpty he
    | false => exact h kv (List.mem_filter.mpr ⟨hkv, by rw [he]; rfl⟩)
  · intro h kv hkv
    exact h kv (List.mem_filter.mp hkv).1

/-- An int of 64 bits is written by both. -/
theorem writes_of_isInt64 {n : Int} (h : IsInt64 n) : d.Writes n := by
  obtain ⟨h₁, h₂⟩ := h
  cases d with
  | orjson lib => exact ⟨h₁, by omega⟩
  | stdlib => exact printable_of_le (by omega)

@[simp]
theorem fits_orNone (n : Int) : Fits d (orNone n) ↔ d.Writes n := by
  unfold orNone
  split
  · rename_i h
    subst h
    exact iff_of_true fits_null (writes_of_isInt64 (by decide))
  · exact fits_int n

@[simp] theorem fits_optHexId (b : Option Bytes) : Fits d (optHexId b) := by
  rcases b with _ | _ | ⟨x, b⟩ <;> simp [optHexId]

@[simp]
theorem fits_optional {α : Type} (f : α → Json) (x : Option α) :
    Fits d (optional f x) ↔ ∀ a ∈ x, Fits d (f a) := by
  cases x <;> simp [optional]

@[simp] theorem fits_keepDouble (x : Binary64) : Fits d (keepDouble x) := by
  unfold keepDouble
  split <;> simp

end Fits

/-! ### Builders -/

/-- A decimal string, which fits whatever it is. -/
@[simp]
theorem u64_written {n : Int} {p : Prop} :
    Yields (u64 n) (fun _ => p) ↔ IsPrintable n ∧ p := by
  unfold u64
  split
  · rename_i hn
    rw [yields_ok]
    exact (and_iff_right hn).symm
  · rename_i hn
    exact iff_of_false yields_error fun h => hn h.1

@[simp]
theorem optU64_written {n : Option Int} :
    Yields (optU64 n) (Fits d) ↔ ∀ k ∈ n, IsPrintable k := by
  cases n <;> simp [optU64]

/-- `u64(x) if x else None`. -/
@[simp]
theorem printable_nonzero {n : Int} : (¬ n = 0 → IsPrintable n) ↔ IsPrintable n := by
  refine ⟨fun h => ?_, fun h _ => h⟩
  by_cases hn : n = 0
  · subst hn
    exact Nat.pow_pos (by decide)
  · exact h hn

@[simp]
theorem counts_written {counts : List Int} :
    Yields (encodeCounts counts) (Fits d) ↔ ∀ c ∈ counts, IsPrintable c := by
  simp [encodeCounts, yields_mapM]

mutual
@[simp]
theorem anyValue_written : ∀ {v : AnyValue},
    Yields (encodeAnyValue v) (Fits d) ↔ ∀ l ∈ v.leaves, l.Written d
  | .bool _ | .str _ | .bytes _ | .float _ => by simp [encodeAnyValue, AnyValue.leaves]
  | .int n => by simp [encodeAnyValue, AnyValue.leaves]
  | .sequence vs => by simp [encodeAnyValue, AnyValue.leaves, anyValues_written]
  | .mapping items => by simp [encodeAnyValue, AnyValue.leaves, attributes_written]
  | .other type => by simp [encodeAnyValue, AnyValue.leaves]

theorem anyValues_written : ∀ {vs : List AnyValue},
    Yields (encodeAnyValues vs) (fun docs => ∀ j ∈ docs, Fits d j) ↔
      ∀ l ∈ AnyValue.leavesList vs, l.Written d
  | [] => by simp [encodeAnyValues, AnyValue.leavesList]
  | v :: vs => by
      simp [encodeAnyValues, AnyValue.leavesList, anyValue_written, anyValues_written, or_imp,
        forall_and]

@[simp]
theorem attributes_written : ∀ {items : List (String × AnyValue)},
    Yields (encodeAttributes items) (fun docs => ∀ j ∈ docs, Fits d j) ↔
      ∀ l ∈ AnyValue.leavesItems items, l.Written d
  | [] => by simp [encodeAttributes, AnyValue.leavesItems]
  | (key, v) :: items => by
      simp [encodeAttributes, encodeKeyValue, AnyValue.leavesItems, AnyValue.leavesItem,
        anyValue_written, attributes_written, or_imp, forall_and]
end

@[simp]
theorem resource_written {r : Resource} :
    Yields (encodeResource r) (Fits d) ↔ ∀ l ∈ r.leaves, l.Written d := by
  simp [encodeResource, Resource.leaves, or_imp, forall_and]

@[simp]
theorem scope_written {s : InstrumentationScope} :
    Yields (encodeScope s) (Fits d) ↔ ∀ l ∈ s.attributes.leaves, l.Written d := by
  simp [encodeScope]

/-! ### Metrics -/

@[simp]
theorem valueField_written {refusal : String} {v : NumberValue} :
    Yields (valueField refusal v) (fun field => Fits d field.2) ↔ ∀ l ∈ v.leaves, l.Written d := by
  cases v <;> simp [valueField, NumberValue.leaves]

@[simp]
theorem exemplar_written {e : Exemplar} :
    Yields (encodeExemplar e) (Fits d) ↔ ∀ l ∈ e.leaves, l.Written d := by
  simp only [Exemplar.leaves, List.forall_mem_append, List.forall_mem_singleton]
  simp [encodeExemplar, and_comm]

@[simp]
theorem numberPoint_written {p : NumberDataPoint} :
    Yields (encodeNumberPoint p) (Fits d) ↔ ∀ l ∈ p.leaves, l.Written d := by
  simp only [NumberDataPoint.leaves, List.forall_mem_append, List.forall_mem_cons,
    List.forall_mem_flatMap, List.forall_mem_map]
  simp [encodeNumberPoint, yields_mapM]
  simp only [and_assoc, and_comm, and_left_comm]

@[simp]
theorem histogramPoint_written {p : HistogramDataPoint} :
    Yields (encodeHistogramPoint p) (Fits d) ↔ ∀ l ∈ p.leaves, l.Written d := by
  simp only [HistogramDataPoint.leaves, List.forall_mem_append, List.forall_mem_cons,
    List.forall_mem_flatMap, List.forall_mem_map]
  simp [encodeHistogramPoint, yields_mapM]
  simp only [and_assoc, and_comm, and_left_comm]

@[simp]
theorem buckets_written {b : Buckets} :
    Yields (encodeBuckets b) (Fits d) ↔ ∀ l ∈ b.leaves, l.Written d := by
  simp only [Buckets.leaves, List.forall_mem_cons, List.forall_mem_map]
  simp [encodeBuckets]

@[simp]
theorem exponentialPoint_written {p : ExponentialHistogramDataPoint} :
    Yields (encodeExponentialPoint p) (Fits d) ↔ ∀ l ∈ p.leaves, l.Written d := by
  simp only [ExponentialHistogramDataPoint.leaves, List.forall_mem_append, List.forall_mem_cons,
    List.forall_mem_flatMap, List.forall_mem_map]
  simp [encodeExponentialPoint, yields_mapM]
  simp only [and_assoc, and_comm, and_left_comm]

@[simp]
theorem summaryPoint_written {p : SummaryDataPoint} :
    Yields (encodeSummaryPoint p) (Fits d) ↔ ∀ l ∈ p.leaves, l.Written d := by
  simp only [SummaryDataPoint.leaves, List.forall_mem_append, List.forall_mem_cons,
    List.forall_mem_map]
  simp [encodeSummaryPoint, encodeQuantile]
  simp only [and_assoc, and_comm, and_left_comm]

/-- An enum is written. -/
@[simp]
theorem writes_temporality (t : AggregationTemporality) : d.Writes t.toInt := by
  refine writes_of_isInt64 ?_
  cases t <;> decide

@[simp]
theorem metricData_written {data : MetricData} :
    Yields (encodeMetricData data) (fun body => Fits d body.2) ↔
      ∀ l ∈ data.leaves, l.Written d := by
  cases data with
  | gauge points =>
      rw [MetricData.leaves, List.forall_mem_flatMap]
      simp [encodeMetricData, yields_mapM]
  | sum points temporality monotonic =>
      rw [MetricData.leaves, List.forall_mem_flatMap]
      simp [encodeMetricData, yields_mapM]
  | histogram points temporality =>
      rw [MetricData.leaves, List.forall_mem_flatMap]
      simp [encodeMetricData, yields_mapM]
  | exponentialHistogram points temporality =>
      rw [MetricData.leaves, List.forall_mem_flatMap]
      simp [encodeMetricData, yields_mapM]
  | summary points =>
      rw [MetricData.leaves, List.forall_mem_flatMap]
      simp [encodeMetricData, yields_mapM]

@[simp]
theorem metric_written {m : Metric} :
    Yields (encodeMetric m) (Fits d) ↔ ∀ l ∈ m.data.leaves, l.Written d := by
  simp [encodeMetric]

@[simp]
theorem scopeMetrics_written {sm : ScopeMetrics} :
    Yields (encodeScopeMetrics sm) (Fits d) ↔ ∀ l ∈ sm.leaves, l.Written d := by
  simp only [ScopeMetrics.leaves, List.forall_mem_append, List.forall_mem_flatMap]
  simp [encodeScopeMetrics, yields_mapM]

@[simp]
theorem resourceMetrics_written {rm : ResourceMetrics} :
    Yields (encodeOneResourceMetrics rm) (Fits d) ↔ ∀ l ∈ rm.leaves, l.Written d := by
  simp only [ResourceMetrics.leaves, List.forall_mem_append, List.forall_mem_flatMap]
  simp [encodeOneResourceMetrics, yields_mapM]

/-! ### Logs -/

@[simp]
theorem writes_severity (s : SeverityNumber) : d.Writes s.toInt := by
  refine writes_of_isInt64 ?_
  cases s <;> decide

@[simp]
theorem logRecord_written {r : LogRecord} :
    Yields (encodeLogRecord r) (Fits d) ↔ ∀ l ∈ r.leaves, l.Written d := by
  simp only [LogRecord.leaves, List.forall_mem_append, List.forall_mem_cons]
  simp [encodeLogRecord]
  simp only [and_assoc, and_comm, and_left_comm]

@[simp]
theorem scopeLogs_written {sl : ScopeLogs} :
    Yields (encodeScopeLogs sl) (Fits d) ↔ ∀ l ∈ sl.leaves, l.Written d := by
  simp only [ScopeLogs.leaves, List.forall_mem_append, List.forall_mem_flatMap]
  simp [encodeScopeLogs, yields_mapM]

@[simp]
theorem resourceLogs_written {rl : ResourceLogs} :
    Yields (encodeOneResourceLogs rl) (Fits d) ↔ ∀ l ∈ rl.leaves, l.Written d := by
  simp only [ResourceLogs.leaves, List.forall_mem_append, List.forall_mem_flatMap]
  simp [encodeOneResourceLogs, yields_mapM]

/-! ### Traces -/

@[simp]
theorem spanEvent_written {e : SpanEvent} :
    Yields (encodeSpanEvent e) (Fits d) ↔ ∀ l ∈ e.leaves, l.Written d := by
  simp only [SpanEvent.leaves, List.forall_mem_cons]
  simp [encodeSpanEvent]

@[simp]
theorem spanLink_written {l : SpanLink} :
    Yields (encodeSpanLink l) (Fits d) ↔ ∀ leaf ∈ l.leaves, leaf.Written d := by
  simp only [SpanLink.leaves, List.forall_mem_cons]
  simp [encodeSpanLink]

@[simp]
theorem writes_spanKind (k : SpanKind) : d.Writes k.toInt := by
  refine writes_of_isInt64 ?_
  cases k <;> decide

@[simp]
theorem fits_encodeStatus (status : Status) : Fits d (encodeStatus status) := by
  have hcode : d.Writes status.code.toInt := by
    refine writes_of_isInt64 ?_
    cases status.code <;> decide
  simp [encodeStatus, hcode]

@[simp]
theorem span_written {s : Span} :
    Yields (encodeSpan s) (Fits d) ↔ ∀ l ∈ s.leaves, l.Written d := by
  simp only [Span.leaves, List.forall_mem_append, List.forall_mem_cons, List.forall_mem_flatMap]
  simp [encodeSpan, yields_mapM]
  simp only [and_assoc, and_left_comm]

@[simp]
theorem scopeSpans_written {ss : ScopeSpans} :
    Yields (encodeScopeSpans ss) (Fits d) ↔ ∀ l ∈ ss.leaves, l.Written d := by
  simp only [ScopeSpans.leaves, List.forall_mem_append, List.forall_mem_flatMap]
  simp [encodeScopeSpans, yields_mapM]

@[simp]
theorem resourceSpans_written {rs : ResourceSpans} :
    Yields (encodeOneResourceSpans rs) (Fits d) ↔ ∀ l ∈ rs.leaves, l.Written d := by
  simp only [ResourceSpans.leaves, List.forall_mem_append, List.forall_mem_flatMap]
  simp [encodeOneResourceSpans, yields_mapM]

/-! ### Payloads -/

theorem resourceMetricsDocument_written {data : List ResourceMetrics} :
    Yields (encodeResourceMetrics data) (Fits d) ↔
      ∀ rm ∈ data, ∀ l ∈ rm.leaves, l.Written d := by
  simp [encodeResourceMetrics, yields_mapM]

theorem resourceLogsDocument_written {data : List ResourceLogs} :
    Yields (encodeResourceLogs data) (Fits d) ↔ ∀ rl ∈ data, ∀ l ∈ rl.leaves, l.Written d := by
  simp [encodeResourceLogs, yields_mapM]

theorem resourceSpansDocument_written {data : List ResourceSpans} :
    Yields (encodeResourceSpans data) (Fits d) ↔ ∀ rs ∈ data, ∀ l ∈ rs.leaves, l.Written d := by
  simp [encodeResourceSpans, yields_mapM]

theorem document_written {kind : SignalKind} (hk : kind ≠ .profiles) {data : Payload kind} :
    Yields (document kind data) (Fits d) ↔ ∀ l ∈ data.leaves, l.Written d := by
  cases kind with
  | metrics => exact resourceMetricsDocument_written.trans List.forall_mem_flatMap.symm
  | logs => exact resourceLogsDocument_written.trans List.forall_mem_flatMap.symm
  | traces => exact resourceSpansDocument_written.trans List.forall_mem_flatMap.symm
  | profiles => exact absurd rfl hk

/-- An integer in the range of its field is written. -/
theorem Leaf.InRange.written {l : Leaf} (h : l.InRange) : l.Written d := by
  cases l with
  | int32 n =>
      obtain ⟨h₁, h₂⟩ : IsInt32 n := h
      exact writes_of_isInt64 ⟨by omega, by omega⟩
  | uint32 n =>
      obtain ⟨h₁, h₂⟩ : IsUint32 n := h
      exact writes_of_isInt64 ⟨by omega, by omega⟩
  | int64 n =>
      obtain ⟨h₁, h₂⟩ : IsInt64 n := h
      exact printable_of_le (by omega)
  | uint64 n =>
      obtain ⟨h₁, h₂⟩ : IsUint64 n := h
      exact printable_of_le (by omega)
  | unsupported type => exact h.elim
  | bool b => exact h.elim

/-- The text of a document that is written. -/
theorem encode_of_fits {kind : SignalKind} {data : Payload kind} {doc : Json}
    (hdoc : document kind data = .ok doc) (h : Fits d doc) (hnests : d.Nests data) :
    JSONEncoder.encode d kind data = .ok (d.text doc) := by
  obtain ⟨ts, hts, -⟩ := Dumper.dumps_yields.mpr ⟨h, (holds_iff hdoc).mpr hnests⟩
  rw [JSONEncoder.encode, hdoc, ok_bind, hts, Dumper.eq_text_of_dumps hts]

/-- What is returned is the text of the document. -/
theorem encode_eq_text {kind : SignalKind} {data : Payload kind} {doc : Json} {ts : List Token}
    (hdoc : document kind data = .ok doc) (h : JSONEncoder.encode d kind data = .ok ts) :
    ts = d.text doc := by
  rw [JSONEncoder.encode, hdoc, ok_bind] at h
  exact Dumper.eq_text_of_dumps h

/-- The document of a well-typed payload is written. -/
theorem document_fits {F : Binary64 → Prop} {kind : SignalKind} {data : Payload kind} {doc : Json}
    (h : data.WellTyped F) (hdoc : document kind data = .ok doc) : Fits d doc := by
  have hk : kind ≠ .profiles := by
    rintro rfl
    exact h
  obtain ⟨doc', hdoc', hfits⟩ := (document_written hk).mpr fun l hl => (h.leaves l hl).written
  cases hdoc.symm.trans hdoc'
  exact hfits

/-- **What the JSON encoder refuses.**  It returns exactly when every leaf of the payload is
written, and the payload is nested no deeper than the library writes. -/
theorem jsonEncode_written {kind : SignalKind} (hk : kind ≠ .profiles) {data : Payload kind} :
    Yields (JSONEncoder.encode d kind data) (fun _ => True) ↔
      (∀ l ∈ data.leaves, l.Written d) ∧ d.Nests data := by
  have hdumps : Ensures (document kind data) fun doc =>
      (Yields (d.dumps doc) (fun _ => True) ↔ Fits d doc ∧ d.Nests data) :=
    fun doc hdoc => Dumper.dumps_yields.trans (and_congr_right' (holds_iff hdoc))
  rw [← document_written hk, JSONEncoder.encode, yields_bind, hdumps.yields_congr,
    yields_and_right]

end OtlpClient
