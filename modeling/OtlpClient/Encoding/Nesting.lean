import OtlpClient.Encoding.Payload
import OtlpClient.Model.Depth
import OtlpClient.Proto.Depth

/-!
# Encoding — how deep a document is

* `*_depth`: what a builder returns is as deep as its tree, up to a few levels that its own fields
  take.
* `document_depth`: the same of a payload.
-/

namespace OtlpClient

open Proto

/-- A document as deep as the tree it is of, from the limit `k` on. -/
abbrev Nested (e k : Nat) (x : Except PyError Json) (depth : Nat) : Prop :=
  Ensures x fun doc => SameFrom k (doc.depth e) depth

variable {e : Nat} (he : e ≤ 1)

/-! ### Entries -/

section Entries

include he

/-- A dict without its absent entries. -/
theorem omitEmpty_depth {kvs : List (String × Json)} {k d : Nat} (hk : 1 ≤ k)
    (h : SameFrom k (deepest (fun kv => kv.2.depth e) kvs) d) :
    SameFrom (k + 1) ((omitEmpty kvs).depth e) (1 + d) := by
  have hfilter := @deepest_filter _ (fun kv : String × Json => kv.2.depth e)
    (fun kv => !kv.2.isEmpty) 1 kvs fun kv _ hkv =>
      Json.depth_of_isEmpty he (by simpa using hkv)
  unfold SameFrom at h hfilter ⊢
  rw [omitEmpty, Json.depth_obj, Levels.wrap]
  split
  · rename_i hnil
    rw [List.isEmpty_iff.mp hnil, deepest_nil] at hfilter
    simp only [Levels.json]
    omega
  · simp only [Levels.json]
    omega

/-- A dict of entries of a level at most. -/
theorem omitEmpty_le {kvs : List (String × Json)}
    (h : deepest (fun kv => kv.2.depth e) kvs ≤ 1) : (omitEmpty kvs).depth e ≤ 2 :=
  ((omitEmpty_depth he (Nat.le_refl 1) (SameFrom.of_le h (Nat.zero_le 1))).le_iff
    (Nat.le_refl 2)).mpr (by decide)

/-- A list in a field. -/
theorem field_depth {k d : Nat} {docs : List Json}
    (h : SameFrom k (deepest (Json.depth e) docs) d) :
    SameFrom (k + 1) ((Json.arr docs).depth e) (1 + d) := by
  unfold SameFrom at h ⊢
  rw [Json.depth_arr, Levels.wrap]
  split
  · rename_i hnil
    rw [List.isEmpty_iff.mp hnil, deepest_nil] at h
    simp only [Levels.json]
    omega
  · simp only [Levels.json]
    omega

/-- A list of what has no level, in a field. -/
theorem flatField_depth {docs : List Json} {k : Nat} (h : deepest (Json.depth e) docs ≤ k) :
    (Json.arr docs).depth e ≤ k + 1 := by
  have hfield := field_depth he (SameFrom.of_le h (Nat.zero_le k))
  exact (hfield.le_iff (Nat.le_refl _)).mpr (by omega)

end Entries

/-- The decimal string of a time. -/
theorem optU64_depth (e : Nat) {n : Option Int} :
    Ensures (optU64 n) fun doc => doc.depth e = 0 := by
  cases n with
  | none => exact Ensures.pure rfl
  | some n => exact Ensures.bind Ensures.trivial fun s _ => Ensures.pure rfl

@[simp] theorem depth_orNone (n : Int) : (orNone n).depth e = 0 := by
  unfold orNone
  split <;> rfl

@[simp] theorem depth_optHexId (b : Option Bytes) : (optHexId b).depth e = 0 := by
  unfold optHexId
  split <;> rfl

@[simp] theorem depth_optionalFloat (x : Option Binary64) : (optional .float x).depth e = 0 := by
  cases x <;> rfl

@[simp] theorem depth_optionalStr (s : Option String) : (optional .str s).depth e = 0 := by
  cases s <;> rfl

@[simp] theorem depth_keepDouble (x : Binary64) : (keepDouble x).depth e = 0 := by
  unfold keepDouble
  split <;> rfl

/-! ### Attribute values -/

mutual
theorem anyValue_depth : ∀ v : AnyValue,
    Ensures (encodeAnyValue v) fun doc => doc.depth e = v.depth (.json e)
  | .bool _ | .str _ | .bytes _ | .float _ => Ensures.pure rfl
  | .int _ => Ensures.bind Ensures.trivial fun _ _ => Ensures.pure rfl
  | .sequence vs => by
      rw [encodeAnyValue, AnyValue.depth]
      refine Ensures.bind (anyValues_depth vs) fun docs hdocs => Ensures.pure ?_
      rw [Json.depth_obj_cons, deepest_cons, deepest_nil, Json.depth_obj_cons, deepest_cons,
        deepest_nil, Json.depth_arr, hdocs.1, hdocs.2]
      omega
  | .mapping items => by
      rw [encodeAnyValue, AnyValue.depth]
      refine Ensures.bind (attributes_depth items) fun docs hdocs => Ensures.pure ?_
      rw [Json.depth_obj_cons, deepest_cons, deepest_nil, Json.depth_obj_cons, deepest_cons,
        deepest_nil, Json.depth_arr, hdocs.1, hdocs.2]
      omega
  | .other _ => Ensures.throw

theorem anyValues_depth : ∀ vs : List AnyValue, Ensures (encodeAnyValues vs) fun docs =>
    docs.isEmpty = vs.isEmpty ∧
      deepest (Json.depth e) docs = AnyValue.depthList (.json e) vs
  | [] => Ensures.pure ⟨rfl, rfl⟩
  | v :: vs => by
      rw [encodeAnyValues, AnyValue.depthList]
      refine Ensures.bind (anyValue_depth v) fun doc hdoc =>
        Ensures.bind (anyValues_depth vs) fun docs hdocs => Ensures.pure ⟨rfl, ?_⟩
      rw [deepest_cons, hdoc, hdocs.2]

theorem attributes_depth : ∀ items : List (String × AnyValue),
    Ensures (encodeAttributes items) fun docs =>
      docs.isEmpty = items.isEmpty ∧
        deepest (Json.depth e) docs = AnyValue.depthItems (.json e) items
  | [] => Ensures.pure ⟨rfl, rfl⟩
  | item :: items => by
      rw [encodeAttributes, AnyValue.depthItems]
      refine Ensures.bind (keyValue_depth item) fun doc hdoc =>
        Ensures.bind (attributes_depth items) fun docs hdocs => Ensures.pure ⟨rfl, ?_⟩
      rw [deepest_cons, hdoc, hdocs.2]

theorem keyValue_depth : ∀ item : String × AnyValue,
    Ensures (encodeKeyValue item) fun doc => doc.depth e = AnyValue.depthItem (.json e) item
  | (key, v) => by
      rw [encodeKeyValue, AnyValue.depthItem]
      refine Ensures.bind (anyValue_depth v) fun doc hdoc => Ensures.pure ?_
      rw [Json.depth_obj_cons, deepest_cons, deepest_cons, deepest_nil, hdoc, Json.depth_str,
        Nat.zero_max, Nat.max_zero]
end

include he

/-- The attributes, in their field. -/
theorem attributesField_depth (attributes : Attributes) :
    Ensures (encodeAttributes attributes) fun docs =>
      SameFrom 1 ((Json.arr docs).depth e) (attributes.depth (.json e)) :=
  fun docs hdocs => field_depth he (SameFrom.of_eq (attributes_depth attributes docs hdocs).2)

/-- A list of objects, in its field. -/
theorem objects_depth {α : Type} {f : α → Except PyError Json} {depth : α → Nat} {k : Nat}
    (h : ∀ x, Nested e k (f x) (depth x)) (xs : List α) :
    Ensures (xs.mapM f) fun docs =>
      SameFrom (k + 1) ((Json.arr docs).depth e) ((Levels.json e).field depth xs) :=
  fun docs hdocs => field_depth he (Ensures.deepest_mapM h docs hdocs)

theorem resource_depth (r : Resource) : Nested e 2 (encodeResource r) (r.depth (.json e)) := by
  refine Ensures.bind (attributesField_depth he r.attributes) fun docs hdocs => Ensures.pure ?_
  refine omitEmpty_depth he (Nat.le_refl 1) ?_
  simpa using hdocs

theorem scope_depth (s : InstrumentationScope) :
    Nested e 2 (encodeScope s) (s.depth (.json e)) := by
  refine Ensures.bind (attributesField_depth he s.attributes) fun docs hdocs => Ensures.pure ?_
  refine omitEmpty_depth he (Nat.le_refl 1) ?_
  simpa using hdocs

/-! ### Metrics -/

omit he in
theorem valueField_depth (e : Nat) {refusal : String} {v : NumberValue} :
    Ensures (valueField refusal v) fun field => field.2.depth e = 0 := by
  cases v with
  | bool b => exact Ensures.throw
  | int n => exact Ensures.bind Ensures.trivial fun s _ => Ensures.pure rfl
  | float x => exact Ensures.pure rfl

theorem exemplar_depth (x : Exemplar) : Nested e 2 (encodeExemplar x) (x.depth (.json e)) := by
  refine Ensures.bind (valueField_depth e) fun field hfield => ?_
  refine Ensures.bind (attributesField_depth he x.filteredAttributes) fun docs hdocs => ?_
  refine Ensures.bind Ensures.trivial fun time _ => Ensures.pure ?_
  refine omitEmpty_depth he (Nat.le_refl 1) ?_
  simpa [hfield] using hdocs

theorem numberPoint_depth (p : NumberDataPoint) :
    Nested e 4 (encodeNumberPoint p) (p.depth (.json e)) := by
  refine Ensures.bind (valueField_depth e) fun field hfield => ?_
  refine Ensures.bind (attributesField_depth he p.attributes) fun docs hdocs => ?_
  refine Ensures.bind (optU64_depth e) fun start hstart => ?_
  refine Ensures.bind Ensures.trivial fun time _ => ?_
  refine Ensures.bind (objects_depth he (exemplar_depth he) p.exemplars) fun xs hxs =>
    Ensures.pure ?_
  refine omitEmpty_depth he (by decide) ?_
  simpa [hfield, hstart] using hdocs.max hxs

/-- A list of decimal strings. -/
theorem counts_depth (counts : List Int) :
    Ensures (encodeCounts counts) fun doc => doc.depth e ≤ 1 := by
  have hzero := @Ensures.deepest_mapM _ _ _ (fun c => return Json.str (← u64 c)) (Json.depth e)
    (fun _ => 0) 0 counts fun c => Ensures.bind Ensures.trivial fun s _ => Ensures.pure rfl
  rw [deepest_zero] at hzero
  refine Ensures.bind hzero fun docs hdocs => Ensures.pure (flatField_depth he ?_)
  exact (hdocs.le_iff (Nat.le_refl 0)).mpr (Nat.le_refl 0)

theorem histogramPoint_depth (p : HistogramDataPoint) :
    Nested e 4 (encodeHistogramPoint p) (p.depth (.json e)) := by
  refine Ensures.bind (attributesField_depth he p.attributes) fun docs hdocs => ?_
  refine Ensures.bind (optU64_depth e) fun start hstart => ?_
  refine Ensures.bind Ensures.trivial fun time _ => Ensures.bind Ensures.trivial fun count _ => ?_
  refine Ensures.bind (counts_depth he p.bucketCounts) fun counts hcounts => ?_
  refine Ensures.bind (objects_depth he (exemplar_depth he) p.exemplars) fun xs hxs =>
    Ensures.pure ?_
  have hbounds : (Json.arr (p.explicitBounds.map .float)).depth e ≤ 1 :=
    flatField_depth he (by simp)
  refine omitEmpty_depth he (by decide) ?_
  simpa [hstart] using hdocs.max ((hxs.le_max (le_trans hbounds (by decide))).le_max
    (le_trans hcounts (by decide)))

theorem buckets_depth (b : Buckets) :
    Ensures (encodeBuckets b) fun doc => doc.depth e ≤ 2 := by
  refine Ensures.bind (counts_depth he b.bucketCounts) fun counts hcounts => Ensures.pure ?_
  refine omitEmpty_le he ?_
  simpa using hcounts

theorem exponentialPoint_depth (p : ExponentialHistogramDataPoint) :
    Nested e 4 (encodeExponentialPoint p) (p.depth (.json e)) := by
  refine Ensures.bind (attributesField_depth he p.attributes) fun docs hdocs => ?_
  refine Ensures.bind (optU64_depth e) fun start hstart => ?_
  refine Ensures.bind Ensures.trivial fun time _ => Ensures.bind Ensures.trivial fun count _ => ?_
  refine Ensures.bind (optU64_depth e) fun zero hzero => ?_
  refine Ensures.bind (buckets_depth he p.positive) fun positive hpositive => ?_
  refine Ensures.bind (buckets_depth he p.negative) fun negative hnegative => ?_
  refine Ensures.bind (objects_depth he (exemplar_depth he) p.exemplars) fun xs hxs =>
    Ensures.pure ?_
  refine omitEmpty_depth he (by decide) ?_
  simpa [hstart, hzero] using hdocs.max ((hxs.le_max (Nat.le_succ_of_le hnegative)).le_max
    (Nat.le_succ_of_le hpositive))

theorem summaryPoint_depth (p : SummaryDataPoint) :
    Nested e 4 (encodeSummaryPoint p) (p.depth (.json e)) := by
  refine Ensures.bind (attributesField_depth he p.attributes) fun docs hdocs => ?_
  refine Ensures.bind (optU64_depth e) fun start hstart => ?_
  refine Ensures.bind Ensures.trivial fun time _ => Ensures.bind Ensures.trivial fun count _ =>
    Ensures.pure ?_
  have hquantile : ∀ q, (encodeQuantile q).depth e ≤ 1 := fun q => Nat.le_refl 1
  have hquantiles : (Json.arr (p.quantileValues.map encodeQuantile)).depth e ≤ 2 :=
    flatField_depth he (by simpa using deepest_le fun q _ => hquantile q)
  refine omitEmpty_depth he (by decide) ?_
  simpa [hstart] using
    (hdocs.mono (show 1 ≤ 3 by decide)).max_of_le (Nat.le_succ_of_le hquantiles)

/-- The points of a metric. -/
theorem points_depth {α : Type} {f : α → Except PyError Json} {depth : α → Nat}
    (h : ∀ x, Nested e 4 (f x) (depth x)) (points : List α) :
    Ensures (points.mapM f) fun docs =>
      SameFrom 6 (1 + (Json.arr docs).depth e) (1 + (Levels.json e).field depth points) :=
  fun docs hdocs => (objects_depth he h points docs hdocs).succ

theorem metricData_depth (data : MetricData) :
    Ensures (encodeMetricData data) fun field =>
      SameFrom 6 (field.2.depth e) (data.depth (.json e)) := by
  cases data with
  | gauge points =>
      refine Ensures.bind (points_depth he (numberPoint_depth he) points) fun docs hdocs =>
        Ensures.pure ?_
      simpa [Json.depth_obj_cons, MetricData.depth] using hdocs
  | sum points temporality monotonic =>
      refine Ensures.bind (points_depth he (numberPoint_depth he) points) fun docs hdocs =>
        Ensures.pure ?_
      simpa [Json.depth_obj_cons, MetricData.depth] using hdocs
  | histogram points temporality =>
      refine Ensures.bind (points_depth he (histogramPoint_depth he) points) fun docs hdocs =>
        Ensures.pure ?_
      simpa [Json.depth_obj_cons, MetricData.depth] using hdocs
  | exponentialHistogram points temporality =>
      refine Ensures.bind (points_depth he (exponentialPoint_depth he) points) fun docs hdocs =>
        Ensures.pure ?_
      simpa [Json.depth_obj_cons, MetricData.depth] using hdocs
  | summary points =>
      refine Ensures.bind (points_depth he (summaryPoint_depth he) points) fun docs hdocs =>
        Ensures.pure ?_
      simpa [Json.depth_obj_cons, MetricData.depth] using hdocs

theorem metric_depth (m : Metric) : Nested e 7 (encodeMetric m) (m.depth (.json e)) := by
  refine Ensures.bind (metricData_depth he m.data) fun body hbody => Ensures.pure ?_
  refine omitEmpty_depth he (by decide) ?_
  simpa using hbody

theorem scopeMetrics_depth (sm : ScopeMetrics) :
    Nested e 9 (encodeScopeMetrics sm) (sm.depth (.json e)) := by
  refine Ensures.bind (scope_depth he sm.scope) fun scope hscope => ?_
  refine Ensures.bind (objects_depth he (metric_depth he) sm.metrics) fun docs hdocs =>
    Ensures.pure ?_
  refine omitEmpty_depth he (by decide) ?_
  simpa using hscope.max hdocs

theorem resourceMetrics_depth (rm : ResourceMetrics) :
    Nested e 11 (encodeOneResourceMetrics rm) (rm.depth (.json e)) := by
  refine Ensures.bind (resource_depth he rm.resource) fun resource hresource => ?_
  refine Ensures.bind (objects_depth he (scopeMetrics_depth he) rm.scopeMetrics) fun docs hdocs =>
    Ensures.pure ?_
  refine omitEmpty_depth he (by decide) ?_
  simpa using hresource.max hdocs

/-! ### Logs -/

theorem logRecord_depth (r : LogRecord) :
    Nested e 2 (encodeLogRecord r) (r.depth (.json e)) := by
  refine Ensures.bind Ensures.trivial fun time _ => ?_
  refine Ensures.bind Ensures.trivial fun observed _ => ?_
  refine Ensures.bind (@anyValue_depth e r.body) fun body hbody => ?_
  refine Ensures.bind (attributesField_depth he r.attributes) fun docs hdocs => Ensures.pure ?_
  refine omitEmpty_depth he (Nat.le_refl 1) ?_
  simpa [hbody] using (SameFrom.of_eq rfl : SameFrom 0 _ (r.body.depth (.json e))).max hdocs

theorem scopeLogs_depth (sl : ScopeLogs) :
    Nested e 4 (encodeScopeLogs sl) (sl.depth (.json e)) := by
  refine Ensures.bind (scope_depth he sl.scope) fun scope hscope => ?_
  refine Ensures.bind (objects_depth he (logRecord_depth he) sl.logRecords) fun docs hdocs =>
    Ensures.pure ?_
  refine omitEmpty_depth he (by decide) ?_
  simpa using hscope.max hdocs

theorem resourceLogs_depth (rl : ResourceLogs) :
    Nested e 6 (encodeOneResourceLogs rl) (rl.depth (.json e)) := by
  refine Ensures.bind (resource_depth he rl.resource) fun resource hresource => ?_
  refine Ensures.bind (objects_depth he (scopeLogs_depth he) rl.scopeLogs) fun docs hdocs =>
    Ensures.pure ?_
  refine omitEmpty_depth he (by decide) ?_
  simpa using hresource.max hdocs

/-! ### Traces -/

theorem spanEvent_depth (x : SpanEvent) :
    Nested e 2 (encodeSpanEvent x) (x.depth (.json e)) := by
  refine Ensures.bind Ensures.trivial fun time _ => ?_
  refine Ensures.bind (attributesField_depth he x.attributes) fun docs hdocs => Ensures.pure ?_
  refine omitEmpty_depth he (Nat.le_refl 1) ?_
  simpa using hdocs

theorem spanLink_depth (l : SpanLink) : Nested e 2 (encodeSpanLink l) (l.depth (.json e)) := by
  refine Ensures.bind (attributesField_depth he l.attributes) fun docs hdocs => Ensures.pure ?_
  refine omitEmpty_depth he (Nat.le_refl 1) ?_
  simpa using hdocs

theorem status_depth (status : Option Status) : (optional encodeStatus status).depth e ≤ 2 := by
  cases status with
  | none => exact Nat.zero_le 2
  | some status => exact omitEmpty_le he (by simp)

theorem span_depth (s : Span) : Nested e 4 (encodeSpan s) (s.depth (.json e)) := by
  refine Ensures.bind Ensures.trivial fun start _ => Ensures.bind Ensures.trivial fun stop _ => ?_
  refine Ensures.bind (attributesField_depth he s.attributes) fun docs hdocs => ?_
  refine Ensures.bind (objects_depth he (spanEvent_depth he) s.events) fun events hevents => ?_
  refine Ensures.bind (objects_depth he (spanLink_depth he) s.links) fun links hlinks =>
    Ensures.pure ?_
  refine omitEmpty_depth he (by decide) ?_
  simpa using hdocs.max (hevents.max
    (hlinks.max_of_le (Nat.le_succ_of_le (status_depth he s.status))))

theorem scopeSpans_depth (ss : ScopeSpans) :
    Nested e 6 (encodeScopeSpans ss) (ss.depth (.json e)) := by
  refine Ensures.bind (scope_depth he ss.scope) fun scope hscope => ?_
  refine Ensures.bind (objects_depth he (span_depth he) ss.spans) fun docs hdocs =>
    Ensures.pure ?_
  refine omitEmpty_depth he (by decide) ?_
  simpa using hscope.max hdocs

theorem resourceSpans_depth (rs : ResourceSpans) :
    Nested e 8 (encodeOneResourceSpans rs) (rs.depth (.json e)) := by
  refine Ensures.bind (resource_depth he rs.resource) fun resource hresource => ?_
  refine Ensures.bind (objects_depth he (scopeSpans_depth he) rs.scopeSpans) fun docs hdocs =>
    Ensures.pure ?_
  refine omitEmpty_depth he (by decide) ?_
  simpa using hresource.max hdocs

/-! ### Payloads -/

/-- The list of a request. -/
theorem request_depth {α : Type} {f : α → Except PyError Json} {depth : α → Nat} {k : Nat}
    {key : String} (h : ∀ x, Nested e k (f x) (depth x)) (data : List α) :
    Nested e (k + 2) (do return .obj [(key, .arr (← data.mapM f))])
      (1 + (Levels.json e).field depth data) := by
  refine Ensures.bind (objects_depth he h data) fun docs hdocs => Ensures.pure ?_
  simpa [Json.depth_obj_cons] using hdocs.succ

/-- The document of a payload is as deep as the payload. -/
theorem document_depth {kind : SignalKind} {data : Payload kind} :
    Nested e 13 (document kind data) (data.depth (.json e)) := by
  cases kind with
  | metrics => exact request_depth he (resourceMetrics_depth he) data
  | logs =>
      intro doc hdoc
      exact (request_depth he (resourceLogs_depth he) data doc hdoc).mono (by decide)
  | traces =>
      intro doc hdoc
      exact (request_depth he (resourceSpans_depth he) data doc hdoc).mono (by decide)
  | profiles => exact Ensures.throw

omit he in
/-- A library writes the levels of a document exactly when it writes those of the payload. -/
theorem holds_iff {d : Dumper} {kind : SignalKind} {data : Payload kind} {doc : Json}
    (hdoc : document kind data = .ok doc) : d.Holds doc ↔ d.Nests data := by
  cases d with
  | stdlib => exact Iff.rfl
  | orjson lib =>
      exact (document_depth lib.empty_le doc hdoc).le_iff (le_trans (by decide) lib.levels_ge)

end OtlpClient
