import OtlpClient.Encoding.Entries
import OtlpClient.Encoding.Written
import OtlpClient.Model.Floats

/-!
# Encoding — the floats of a payload

* `*_floats`: the floats of a document are the floats of its tree.
* **`encode_accepted_iff`**: a payload is an RFC 8259 document that carries every float of the
  tree exactly when every float of the tree is finite, and the tree is nested no deeper than the
  library writes.
-/

namespace OtlpClient

open Proto

def Payload.floats : {kind : SignalKind} → Payload kind → List Binary64
  | .metrics, data => List.flatMap ResourceMetrics.floats data
  | .logs, data => List.flatMap ResourceLogs.floats data
  | .traces, data => List.flatMap ResourceSpans.floats data
  | .profiles, _ => []

/-! ### The floats of a document -/

/-- The builder returns a document with these floats. -/
def HasFloats (j : Except PyError Json) (xs : List Binary64) : Prop :=
  ∃ doc, j = .ok doc ∧ doc.floats = xs

/-- The builder returns documents with these floats. -/
def HaveFloats (js : Except PyError (List Json)) (xs : List Binary64) : Prop :=
  ∃ docs, js = .ok docs ∧ docs.flatMap Json.floats = xs

/-- An empty entry has no floats. -/
theorem floats_of_isEmpty {j : Json} (h : j.isEmpty = true) : j.floats = [] := by
  unfold Json.isEmpty at h
  split at h
  · simp
  · simp
  · simp
  · simp
  · cases h

@[simp]
theorem floats_omitEmpty (kvs : List (String × Json)) :
    (omitEmpty kvs).floats = kvs.flatMap fun kv => kv.2.floats := by
  rw [omitEmpty, Json.floats_obj]
  induction kvs with
  | nil => rfl
  | cons kv kvs ih =>
      rw [List.flatMap_cons, ← ih]
      cases h : kv.2.isEmpty with
      | true => simp [h, floats_of_isEmpty h]
      | false => simp [h]

@[simp]
theorem floats_orNone (n : Int) : (orNone n).floats = [] := by
  unfold orNone
  split <;> simp

@[simp]
theorem floats_optHexId (b : Option Bytes) : (optHexId b).floats = [] := by
  rcases b with _ | _ | ⟨x, b⟩ <;> simp [optHexId]

@[simp]
theorem floats_optional_str (s : Option String) : (optional .str s).floats = [] := by
  cases s <;> simp [optional]

@[simp]
theorem floats_optional_float (x : Option Binary64) : (optional .float x).floats = x.toList := by
  cases x <;> simp [optional]

@[simp]
theorem floats_keepDouble (x : Binary64) : (keepDouble x).floats = implicitDouble x := by
  unfold keepDouble implicitDouble
  split
  · rename_i h
    rw [if_neg ((Binary64.ne_posZero_iff x).mp h), Json.floats_float]
  · rename_i h
    rw [Binary64.ne_posZero_iff, Classical.not_not] at h
    rw [if_pos h, Json.floats_null]

@[simp]
theorem floats_encodeStatus (status : Option Status) :
    (optional encodeStatus status).floats = [] := by
  cases status <;> simp [optional, encodeStatus]

theorem optU64_floats {n : Option Int} (h : ∀ k ∈ n, IsUint64 k) : HasFloats (optU64 n) [] := by
  cases n with
  | none => exact ⟨.null, rfl, Json.floats_null⟩
  | some n =>
      refine ⟨.str n.repr, ?_, Json.floats_str _⟩
      rw [optU64, (h n rfl).u64]
      rfl

@[simp]
theorem floats_counts (counts : List Int) :
    (counts.map fun c => Json.str c.repr).flatMap Json.floats = [] := by
  simp [List.flatMap_map]

theorem haveFloats_mapM {α : Type} {f : α → Except PyError Json} {g : α → List Binary64}
    {xs : List α} (h : ∀ x ∈ xs, HasFloats (f x) (g x)) :
    HaveFloats (xs.mapM f) (xs.flatMap g) := by
  induction xs with
  | nil => exact ⟨[], rfl, rfl⟩
  | cons x xs ih =>
      obtain ⟨doc, hdoc, hx⟩ := h x List.mem_cons_self
      obtain ⟨docs, hdocs, hxs⟩ := ih fun y hy => h y (List.mem_cons_of_mem _ hy)
      refine ⟨doc :: docs, ?_, ?_⟩
      · rw [List.mapM_cons, hdoc, hdocs]
        rfl
      · rw [List.flatMap_cons, List.flatMap_cons, hx, hxs]

variable {F : Binary64 → Prop}

mutual
theorem anyValue_floats : ∀ {v : AnyValue}, v.WellTyped F → HasFloats (encodeAnyValue v) v.floats
  | .bool _, _ | .str _, _ | .bytes _, _ | .float _, _ => by
      rw [encodeAnyValue, AnyValue.floats]
      exact ⟨_, rfl, by simp⟩
  | .int n, h => by
      rw [AnyValue.WellTyped] at h
      rw [encodeAnyValue, h.u64, AnyValue.floats]
      exact ⟨_, rfl, by simp⟩
  | .sequence vs, h => by
      rw [AnyValue.WellTyped] at h
      obtain ⟨docs, hdocs, hfloats⟩ := anyValues_floats h
      rw [encodeAnyValue, hdocs, AnyValue.floats]
      exact ⟨_, rfl, by simp [hfloats]⟩
  | .mapping items, h => by
      rw [AnyValue.WellTyped] at h
      obtain ⟨docs, hdocs, hfloats⟩ := attributes_floats h
      rw [encodeAnyValue, hdocs, AnyValue.floats]
      exact ⟨_, rfl, by simp [hfloats]⟩
  | .other _, h => by
      rw [AnyValue.WellTyped] at h
      exact h.elim

theorem anyValues_floats : ∀ {vs : List AnyValue}, AnyValue.WellTypedList F vs →
    HaveFloats (encodeAnyValues vs) (AnyValue.floatsList vs)
  | [], _ => by
      rw [encodeAnyValues, AnyValue.floatsList]
      exact ⟨[], rfl, rfl⟩
  | v :: vs, h => by
      rw [AnyValue.WellTypedList] at h
      obtain ⟨doc, hdoc, hv⟩ := anyValue_floats h.1
      obtain ⟨docs, hdocs, hvs⟩ := anyValues_floats h.2
      rw [encodeAnyValues, hdoc, hdocs, AnyValue.floatsList]
      exact ⟨doc :: docs, rfl, by rw [List.flatMap_cons, hv, hvs]⟩

theorem attributes_floats : ∀ {items : List (String × AnyValue)},
    AnyValue.WellTypedItems F items →
    HaveFloats (encodeAttributes items) (AnyValue.floatsItems items)
  | [], _ => by
      rw [encodeAttributes, AnyValue.floatsItems]
      exact ⟨[], rfl, rfl⟩
  | (key, v) :: items, h => by
      rw [AnyValue.WellTypedItems, AnyValue.WellTypedItem] at h
      obtain ⟨doc, hdoc, hv⟩ := anyValue_floats h.1
      obtain ⟨docs, hdocs, hitems⟩ := attributes_floats h.2
      rw [encodeAttributes, encodeKeyValue, hdoc, hdocs, AnyValue.floatsItems,
        AnyValue.floatsItem]
      exact ⟨.obj [("key", .str key), ("value", doc)] :: docs, rfl, by simp [hv, hitems]⟩
end

theorem resource_floats {r : Resource} (h : r.WellTyped F) :
    HasFloats (encodeResource r) r.attributes.floats := by
  obtain ⟨docs, hdocs, hfloats⟩ := attributes_floats h.attributes
  simp only [encodeResource, hdocs, ok_bind, pure_ok]
  exact ⟨_, rfl, by simp [hfloats]⟩

theorem scope_floats {s : InstrumentationScope} (h : s.WellTyped F) :
    HasFloats (encodeScope s) s.attributes.floats := by
  obtain ⟨docs, hdocs, hfloats⟩ := attributes_floats h.attributes
  simp only [encodeScope, hdocs, ok_bind, pure_ok]
  exact ⟨_, rfl, by simp [hfloats]⟩

/-! ### Metrics -/

theorem valueField_floats {v : NumberValue} (h : v.WellTyped F) :
    ∃ field, (∀ refusal, valueField refusal v = .ok field) ∧ field.2.floats = v.floats := by
  cases v with
  | bool b => exact h.elim
  | int n =>
      have hn : IsInt64 n := h
      exact ⟨("asInt", .str n.repr), fun _ => by rw [valueField, hn.u64]; rfl, Json.floats_str _⟩
  | float x => exact ⟨("asDouble", .float x), fun _ => rfl, Json.floats_float x⟩

theorem exemplar_floats {e : Exemplar} (h : e.WellTyped F) :
    HasFloats (encodeExemplar e) e.floats := by
  obtain ⟨docs, hdocs, hfloats⟩ := attributes_floats h.filteredAttributes
  obtain ⟨field, hfield, hvalue⟩ := valueField_floats h.value
  simp only [encodeExemplar, hfield, hdocs, h.timeUnixNano.u64, ok_bind, pure_ok]
  exact ⟨_, rfl, by simp [hfloats, hvalue, Exemplar.floats]⟩

theorem numberPoint_floats {p : NumberDataPoint} (h : p.WellTyped F) :
    HasFloats (encodeNumberPoint p) p.floats := by
  obtain ⟨docs, hdocs, hfloats⟩ := attributes_floats h.attributes
  obtain ⟨start, hstart, hs⟩ := optU64_floats h.startTimeUnixNano
  obtain ⟨edocs, hedocs, he⟩ := haveFloats_mapM fun e he => exemplar_floats (h.exemplars e he)
  obtain ⟨field, hfield, hvalue⟩ := valueField_floats h.value
  simp only [encodeNumberPoint, hfield, hdocs, hstart, hedocs, h.timeUnixNano.u64, ok_bind, pure_ok]
  exact ⟨_, rfl, by simp [hfloats, hs, he, hvalue, NumberDataPoint.floats]⟩

theorem histogramPoint_floats {p : HistogramDataPoint} (h : p.WellTyped F) :
    HasFloats (encodeHistogramPoint p) p.floats := by
  obtain ⟨docs, hdocs, hfloats⟩ := attributes_floats h.attributes
  obtain ⟨start, hstart, hs⟩ := optU64_floats h.startTimeUnixNano
  obtain ⟨edocs, hedocs, he⟩ := haveFloats_mapM fun e he => exemplar_floats (h.exemplars e he)
  simp only [encodeHistogramPoint, hdocs, hstart, encodeCounts_eq h.bucketCounts, hedocs,
    h.timeUnixNano.u64, h.count.u64, ok_bind, pure_ok]
  exact ⟨_, rfl, by simp [hfloats, hs, he, HistogramDataPoint.floats, List.flatMap_map]⟩

theorem buckets_floats {b : Buckets} (h : b.WellTyped) : HasFloats (encodeBuckets b) [] := by
  simp only [encodeBuckets, encodeCounts_eq h.bucketCounts, ok_bind, pure_ok]
  exact ⟨_, rfl, by simp⟩

theorem exponentialPoint_floats {p : ExponentialHistogramDataPoint} (h : p.WellTyped F) :
    HasFloats (encodeExponentialPoint p) p.floats := by
  obtain ⟨docs, hdocs, hfloats⟩ := attributes_floats h.attributes
  obtain ⟨start, hstart, hs⟩ := optU64_floats h.startTimeUnixNano
  have hn : ∀ k ∈ (if p.zeroCount = 0 then none else some p.zeroCount), IsUint64 k := by
    intro k hk
    split at hk <;> cases hk
    exact h.zeroCount
  obtain ⟨zero, hzero, hz⟩ := optU64_floats hn
  obtain ⟨pos, hpos, hp⟩ := buckets_floats h.positive
  obtain ⟨neg, hneg, hg⟩ := buckets_floats h.negative
  obtain ⟨edocs, hedocs, he⟩ := haveFloats_mapM fun e he => exemplar_floats (h.exemplars e he)
  simp only [encodeExponentialPoint, hdocs, hstart, hzero, hpos, hneg, hedocs, h.timeUnixNano.u64,
    h.count.u64, ok_bind, pure_ok]
  exact ⟨_, rfl, by simp [hfloats, hs, hz, hp, hg, he, ExponentialHistogramDataPoint.floats]⟩

@[simp]
theorem floats_quantiles (qs : List ValueAtQuantile) :
    (qs.map encodeQuantile).flatMap Json.floats = qs.flatMap ValueAtQuantile.floats := by
  rw [List.flatMap_map]
  exact List.flatMap_congr fun q _ => by simp [encodeQuantile, ValueAtQuantile.floats]

theorem summaryPoint_floats {p : SummaryDataPoint} (h : p.WellTyped F) :
    HasFloats (encodeSummaryPoint p) p.floats := by
  obtain ⟨docs, hdocs, hfloats⟩ := attributes_floats h.attributes
  obtain ⟨start, hstart, hs⟩ := optU64_floats h.startTimeUnixNano
  simp only [encodeSummaryPoint, hdocs, hstart, h.timeUnixNano.u64, h.count.u64, ok_bind, pure_ok]
  exact ⟨_, rfl, by simp [hfloats, hs, SummaryDataPoint.floats]⟩

theorem metricData_floats {d : MetricData} (h : d.WellTyped F) :
    ∃ field, encodeMetricData d = .ok field ∧ field.2.floats = d.floats := by
  cases d with
  | gauge points =>
      obtain ⟨docs, hdocs, hp⟩ := haveFloats_mapM fun p hp => numberPoint_floats (h p hp)
      rw [encodeMetricData, hdocs]
      exact ⟨_, rfl, by simp [hp, MetricData.floats]⟩
  | sum points _ _ =>
      obtain ⟨docs, hdocs, hp⟩ := haveFloats_mapM fun p hp => numberPoint_floats (h p hp)
      rw [encodeMetricData, hdocs]
      exact ⟨_, rfl, by simp [hp, MetricData.floats]⟩
  | histogram points _ =>
      obtain ⟨docs, hdocs, hp⟩ := haveFloats_mapM fun p hp => histogramPoint_floats (h p hp)
      rw [encodeMetricData, hdocs]
      exact ⟨_, rfl, by simp [hp, MetricData.floats]⟩
  | exponentialHistogram points _ =>
      obtain ⟨docs, hdocs, hp⟩ := haveFloats_mapM fun p hp => exponentialPoint_floats (h p hp)
      rw [encodeMetricData, hdocs]
      exact ⟨_, rfl, by simp [hp, MetricData.floats]⟩
  | summary points =>
      obtain ⟨docs, hdocs, hp⟩ := haveFloats_mapM fun p hp => summaryPoint_floats (h p hp)
      rw [encodeMetricData, hdocs]
      exact ⟨_, rfl, by simp [hp, MetricData.floats]⟩

theorem metric_floats {m : Metric} (h : m.WellTyped F) :
    HasFloats (encodeMetric m) m.data.floats := by
  obtain ⟨field, hfield, hd⟩ := metricData_floats h.data
  simp only [encodeMetric, hfield, ok_bind, pure_ok]
  exact ⟨_, rfl, by simp [hd]⟩

theorem scopeMetrics_floats {sm : ScopeMetrics} (h : sm.WellTyped F) :
    HasFloats (encodeScopeMetrics sm) sm.floats := by
  obtain ⟨sdoc, hsdoc, hs⟩ := scope_floats h.scope
  obtain ⟨docs, hdocs, hm⟩ := haveFloats_mapM fun m hm => metric_floats (h.metrics m hm)
  simp only [encodeScopeMetrics, hsdoc, hdocs, ok_bind, pure_ok]
  exact ⟨_, rfl, by simp [hs, hm, ScopeMetrics.floats]⟩

theorem resourceMetrics_floats {rm : ResourceMetrics} (h : rm.WellTyped F) :
    HasFloats (encodeOneResourceMetrics rm) rm.floats := by
  obtain ⟨rdoc, hrdoc, hr⟩ := resource_floats h.resource
  obtain ⟨docs, hdocs, hs⟩ :=
    haveFloats_mapM fun sm hsm => scopeMetrics_floats (h.scopeMetrics sm hsm)
  simp only [encodeOneResourceMetrics, hrdoc, hdocs, ok_bind, pure_ok]
  exact ⟨_, rfl, by simp [hr, hs, ResourceMetrics.floats]⟩

/-! ### Logs -/

theorem logRecord_floats {r : LogRecord} (h : r.WellTyped F) :
    HasFloats (encodeLogRecord r) r.floats := by
  obtain ⟨docs, hdocs, hfloats⟩ := attributes_floats h.attributes
  obtain ⟨body, hbody, hb⟩ := anyValue_floats h.body
  simp only [encodeLogRecord, hdocs, hbody, h.timeUnixNano.u64, h.observedTimeUnixNano.u64,
    ok_bind, pure_ok]
  exact ⟨_, rfl, by simp [hfloats, hb, LogRecord.floats]⟩

theorem scopeLogs_floats {sl : ScopeLogs} (h : sl.WellTyped F) :
    HasFloats (encodeScopeLogs sl) sl.floats := by
  obtain ⟨sdoc, hsdoc, hs⟩ := scope_floats h.scope
  obtain ⟨docs, hdocs, hr⟩ := haveFloats_mapM fun r hr => logRecord_floats (h.logRecords r hr)
  simp only [encodeScopeLogs, hsdoc, hdocs, ok_bind, pure_ok]
  exact ⟨_, rfl, by simp [hs, hr, ScopeLogs.floats]⟩

theorem resourceLogs_floats {rl : ResourceLogs} (h : rl.WellTyped F) :
    HasFloats (encodeOneResourceLogs rl) rl.floats := by
  obtain ⟨rdoc, hrdoc, hr⟩ := resource_floats h.resource
  obtain ⟨docs, hdocs, hs⟩ := haveFloats_mapM fun sl hsl => scopeLogs_floats (h.scopeLogs sl hsl)
  simp only [encodeOneResourceLogs, hrdoc, hdocs, ok_bind, pure_ok]
  exact ⟨_, rfl, by simp [hr, hs, ResourceLogs.floats]⟩

/-! ### Traces -/

theorem spanEvent_floats {e : SpanEvent} (h : e.WellTyped F) :
    HasFloats (encodeSpanEvent e) e.attributes.floats := by
  obtain ⟨docs, hdocs, hfloats⟩ := attributes_floats h.attributes
  simp only [encodeSpanEvent, hdocs, h.timeUnixNano.u64, ok_bind, pure_ok]
  exact ⟨_, rfl, by simp [hfloats]⟩

theorem spanLink_floats {l : SpanLink} (h : l.WellTyped F) :
    HasFloats (encodeSpanLink l) l.attributes.floats := by
  obtain ⟨docs, hdocs, hfloats⟩ := attributes_floats h.attributes
  simp only [encodeSpanLink, hdocs, ok_bind, pure_ok]
  exact ⟨_, rfl, by simp [hfloats]⟩

theorem span_floats {s : Span} (h : s.WellTyped F) : HasFloats (encodeSpan s) s.floats := by
  obtain ⟨docs, hdocs, hfloats⟩ := attributes_floats h.attributes
  obtain ⟨edocs, hedocs, he⟩ := haveFloats_mapM fun e he => spanEvent_floats (h.events e he)
  obtain ⟨ldocs, hldocs, hl⟩ := haveFloats_mapM fun l hl => spanLink_floats (h.links l hl)
  simp only [encodeSpan, hdocs, hedocs, hldocs, h.startTimeUnixNano.u64, h.endTimeUnixNano.u64,
    ok_bind, pure_ok]
  exact ⟨_, rfl, by simp [hfloats, he, hl, Span.floats]⟩

theorem scopeSpans_floats {ss : ScopeSpans} (h : ss.WellTyped F) :
    HasFloats (encodeScopeSpans ss) ss.floats := by
  obtain ⟨sdoc, hsdoc, hs⟩ := scope_floats h.scope
  obtain ⟨docs, hdocs, hsp⟩ := haveFloats_mapM fun s hs => span_floats (h.spans s hs)
  simp only [encodeScopeSpans, hsdoc, hdocs, ok_bind, pure_ok]
  exact ⟨_, rfl, by simp [hs, hsp, ScopeSpans.floats]⟩

theorem resourceSpans_floats {rs : ResourceSpans} (h : rs.WellTyped F) :
    HasFloats (encodeOneResourceSpans rs) rs.floats := by
  obtain ⟨rdoc, hrdoc, hr⟩ := resource_floats h.resource
  obtain ⟨docs, hdocs, hs⟩ := haveFloats_mapM fun ss hss => scopeSpans_floats (h.scopeSpans ss hss)
  simp only [encodeOneResourceSpans, hrdoc, hdocs, ok_bind, pure_ok]
  exact ⟨_, rfl, by simp [hr, hs, ResourceSpans.floats]⟩

theorem resourceMetricsDocument_floats {data : List ResourceMetrics}
    (h : ∀ rm ∈ data, rm.WellTyped F) :
    HasFloats (encodeResourceMetrics data) (data.flatMap ResourceMetrics.floats) := by
  obtain ⟨docs, hdocs, hf⟩ := haveFloats_mapM fun rm hrm => resourceMetrics_floats (h rm hrm)
  rw [encodeResourceMetrics, hdocs]
  exact ⟨_, rfl, by simp [hf]⟩

theorem resourceLogsDocument_floats {data : List ResourceLogs} (h : ∀ rl ∈ data, rl.WellTyped F) :
    HasFloats (encodeResourceLogs data) (data.flatMap ResourceLogs.floats) := by
  obtain ⟨docs, hdocs, hf⟩ := haveFloats_mapM fun rl hrl => resourceLogs_floats (h rl hrl)
  rw [encodeResourceLogs, hdocs]
  exact ⟨_, rfl, by simp [hf]⟩

theorem resourceSpansDocument_floats {data : List ResourceSpans}
    (h : ∀ rs ∈ data, rs.WellTyped F) :
    HasFloats (encodeResourceSpans data) (data.flatMap ResourceSpans.floats) := by
  obtain ⟨docs, hdocs, hf⟩ := haveFloats_mapM fun rs hrs => resourceSpans_floats (h rs hrs)
  rw [encodeResourceSpans, hdocs]
  exact ⟨_, rfl, by simp [hf]⟩

theorem document_floats {kind : SignalKind} {data : Payload kind} (h : data.WellTyped F) :
    HasFloats (document kind data) data.floats := by
  cases kind with
  | metrics => exact resourceMetricsDocument_floats h
  | logs => exact resourceLogsDocument_floats h
  | traces => exact resourceSpansDocument_floats h
  | profiles => exact h.elim

/-! ### Payloads -/

/-- What `orjson` makes of a float, as it reads back. -/
def orjsonJson (x : Binary64) : Json := if x.IsFinite then .float x else .null

theorem orjsonFloat_scalar (x : Binary64) : (orjsonFloat x).scalar? = some (orjsonJson x) := by
  unfold orjsonFloat orjsonJson
  split <;> rfl

theorem readDouble_orjsonJson {x : Binary64} : readDouble (orjsonJson x) = some x ↔ x.IsFinite := by
  unfold orjsonJson
  split
  · rename_i h
    simp [readDouble, h]
  · rename_i h
    simp [readDouble, h]

/-- A document, as the text of `d`, is read back with every float where it was exactly when every
float is finite. -/
theorem carries_iff (d : Dumper) (doc : Json) :
    (∃ j, parse (d.text doc) = some j ∧ doc.Carries j) ↔ ∀ x ∈ doc.floats, x.IsFinite := by
  cases d with
  | orjson lib =>
      have hp : parse ((Dumper.orjson lib).text doc) = some (doc.mapFloats orjsonJson) :=
        parse_write doc fun x _ => orjsonFloat_scalar x
      rw [hp]
      simp only [Option.some_inj, exists_eq_left', carries_mapFloats, readDouble_orjsonJson]
  | stdlib =>
      constructor
      · rintro ⟨j, hj, -⟩ x hx
        -- the token of a float that is not finite is a bare word
        by_contra hfin
        have hbare := parse_noBare hj _ (mem_write hx)
        simp [Dumper.float, stdlibFloat, hfin, Token.isBare] at hbare
      · intro h
        refine ⟨doc.mapFloats .float, parse_write doc fun x hx => ?_,
          carries_mapFloats.mpr fun x hx => ?_⟩
        · simp [Dumper.float, stdlibFloat, h x hx, Token.scalar?]
        · simp [readDouble, h x hx]

/-- The payload is an RFC 8259 document that carries every float of the tree: each is in the
document, and reads back, with the proto3 JSON mapping, as the same double. -/
def Accepted (d : Dumper) (kind : SignalKind) (data : Payload kind) : Prop :=
  ∃ doc text j, document kind data = .ok doc ∧ JSONEncoder.encode d kind data = .ok text ∧
    doc.floats = data.floats ∧ parse text = some j ∧ doc.Carries j

/-- **Which payloads are accepted.**  One NaN or infinity anywhere in the tree spoils the document,
whichever library writes it; and `orjson` writes none that is nested deeper than its levels. -/
theorem encode_accepted_iff (d : Dumper) {kind : SignalKind} {data : Payload kind}
    (h : data.WellTyped fun _ => True) :
    Accepted d kind data ↔ (∀ x ∈ data.floats, x.IsFinite) ∧ d.Nests data := by
  obtain ⟨doc, hdoc, hfloats⟩ := document_floats h
  rw [← hfloats, ← carries_iff d]
  constructor
  · rintro ⟨doc', text, j, hdoc', htext, -, hj, hcarries⟩
    cases hdoc.symm.trans hdoc'
    cases encode_eq_text hdoc htext
    have hk : kind ≠ .profiles := by
      rintro rfl
      exact h
    exact ⟨⟨j, hj, hcarries⟩, ((jsonEncode_written hk).mp ⟨_, htext, trivial⟩).2⟩
  · rintro ⟨⟨j, hj, hcarries⟩, hnests⟩
    exact ⟨doc, d.text doc, j, hdoc, encode_of_fits hdoc (document_fits h hdoc) hnests, hfloats, hj,
      hcarries⟩

/-- So many lists around an empty one. -/
def nestedLists : Nat → AnyValue
  | 0 => .sequence []
  | n + 1 => .sequence [nestedLists n]

theorem nestedLists_wellTyped (n : Nat) : (nestedLists n).WellTyped fun _ => True := by
  induction n with
  | zero => exact trivial
  | succ n ih => exact ⟨ih, trivial⟩

theorem nestedLists_floats (n : Nat) : (nestedLists n).floats = [] := by
  induction n with
  | zero => rfl
  | succ n ih =>
      change (nestedLists n).floats ++ [] = []
      rw [ih, List.append_nil]

/-- An `arrayValue`, its `values` and an `AnyValue` for each. -/
theorem nestedLists_depth (e n : Nat) : (nestedLists n).depth (.json e) = 3 * n + (2 + e) := by
  induction n with
  | zero => exact (Nat.zero_add _).symm
  | succ n ih =>
      change 2 + (1 + max ((nestedLists n).depth (.json e)) 0) = _
      omega

/-- A log record with that body. -/
def nestedPayload (n : Nat) : Payload .logs :=
  ([{ resource := {}
      scopeLogs := [{ scope := { name := "" }
                      logRecords := [{ timeUnixNano := 1, observedTimeUnixNano := 1
                                       body := nestedLists n }] }] }] : List ResourceLogs)

theorem nestedPayload_wellTyped (n : Nat) : (nestedPayload n).WellTyped fun _ => True := by
  have hzero : IsUint32 0 := by decide
  have hone : IsUint64 1 := by decide
  refine List.forall_mem_singleton.mpr ⟨⟨trivial, hzero⟩, ?_⟩
  refine List.forall_mem_singleton.mpr ⟨⟨trivial⟩, List.forall_mem_singleton.mpr ?_⟩
  exact ⟨hone, hone, nestedLists_wellTyped n, trivial, hzero⟩

theorem nestedPayload_floats (n : Nat) : (nestedPayload n).floats = [] := by
  simp [nestedPayload, Payload.floats, ResourceLogs.floats, ScopeLogs.floats, LogRecord.floats,
    nestedLists_floats, Attributes.floats, AnyValue.floatsItems]

theorem nestedPayload_depth (e n : Nat) :
    (nestedPayload n).depth (.json e) = 3 * n + (9 + e) := by
  simp only [nestedPayload, Payload.depth, Levels.field, Levels.json, ResourceLogs.depth,
    Resource.depth, ScopeLogs.depth, InstrumentationScope.depth, LogRecord.depth, Attributes.depth,
    AnyValue.depthItems, deepest_cons, deepest_nil]
  rw [show (nestedLists n).depth ⟨1, e⟩ = _ from nestedLists_depth e n]
  omega

/-- `json.dumps` makes a document of 83 lists in each other, and this `orjson` of 82 at most. -/
theorem encode_accepted_iff_nested :
    Accepted .stdlib .logs (nestedPayload 82) ∧
      Accepted (.orjson .counting) .logs (nestedPayload 81) ∧
      ¬ Accepted (.orjson .counting) .logs (nestedPayload 82) := by
  have hfinite : ∀ n, ∀ x ∈ (nestedPayload n).floats, x.IsFinite := by
    intro n
    rw [nestedPayload_floats]
    exact List.forall_mem_nil _
  refine ⟨(encode_accepted_iff .stdlib (nestedPayload_wellTyped 82)).mpr ⟨hfinite 82, trivial⟩,
    (encode_accepted_iff (.orjson .counting) (nestedPayload_wellTyped 81)).mpr ⟨hfinite 81, ?_⟩,
    fun h => ?_⟩
  · exact Nat.le_trans (Nat.le_of_eq (nestedPayload_depth 1 81)) (by decide)
  · have hnests := ((encode_accepted_iff (.orjson .counting) (nestedPayload_wellTyped 82)).mp h).2
    have hle : 3 * 82 + (9 + 1) ≤ 254 := nestedPayload_depth 1 82 ▸ hnests
    exact absurd hle (by decide)

/-- One gauge point, with the given value. -/
def gaugePayload (x : Binary64) : Payload .metrics :=
  [(⟨{}, [⟨{ name := "s" }, [⟨"g", .gauge [{ timeUnixNano := 1, value := .float x }], "", ""⟩]⟩]⟩ :
    ResourceMetrics)]

theorem gaugePayload_wellTyped (x : Binary64) : (gaugePayload x).WellTyped fun _ => True := by
  have hzero : IsUint32 0 := by decide
  refine List.forall_mem_singleton.mpr ⟨⟨trivial, hzero⟩, ?_⟩
  refine List.forall_mem_singleton.mpr ⟨⟨trivial⟩, List.forall_mem_singleton.mpr ⟨?_⟩⟩
  exact List.forall_mem_singleton.mpr
    ⟨trivial, (by decide : IsUint64 1), nofun, trivial, hzero, nofun⟩

/-- A gauge at NaN: `json.dumps` writes a bare `NaN`, and `orjson` a `null`. -/
theorem encode_nan_not_accepted :
    ¬ Accepted .stdlib .metrics (gaugePayload .nan) ∧
      ∀ lib, ¬ Accepted (.orjson lib) .metrics (gaugePayload .nan) := by
  have h : ∀ d, ¬ Accepted d .metrics (gaugePayload .nan) := by
    rintro d ⟨doc, text, j, hdoc, htext, hfloats, hj, hcarries⟩
    cases encode_eq_text hdoc htext
    have hfin := (carries_iff d doc).mp ⟨j, hj, hcarries⟩ .nan (by
      rw [hfloats]
      exact List.mem_singleton_self _)
    exact absurd hfin (by decide)
  exact ⟨h .stdlib, fun lib => h (.orjson lib)⟩

end OtlpClient
