import OtlpClient.Encoding.Payload
import OtlpClient.Model.Depth
import OtlpClient.Proto.Depth

/-!
# Encoding — how deep a message is

* `*_levels`: what a message builder returns is as deep as its tree, up to a few levels that its own
  fields take.
* `request_levels`: the same of a payload.
-/

namespace OtlpClient

open Proto

/-- A message as deep as the tree it is of, from the limit `k` on. -/
abbrev Layered (k : Nat) (x : Except PyError Value) (depth : Nat) : Prop :=
  Ensures x fun v => SameFrom k v.depth depth

/-! ### Fields -/

/-- A message is a level over its arguments. -/
theorem build_levels {m : Msg} {kwargs : List (String × Option Value)} {k d : Nat}
    (h : SameFrom k (deepest (fun f => argumentDepth (argument kwargs f)) (otlp m)) d) :
    Layered (k + 1) (Protobuf.build m kwargs) (1 + d) := by
  intro v hv
  rw [construct_depth v hv]
  exact h.succ

/-- A list of messages. -/
theorem messages_levels {α : Type} {f : α → Except PyError Value} {depth : α → Nat} {k : Nat}
    (h : ∀ x, Layered k (f x) (depth x)) (xs : List α) :
    Ensures (xs.mapM f) fun vs =>
      SameFrom k (deepest Value.depth vs) (Levels.protobuf.field depth xs) := by
  rw [Levels.field, Levels.protobuf, Nat.zero_add]
  exact Ensures.deepest_mapM h

/-- A message that is left unset where it would be empty. -/
theorem unlessEmpty_levels {empty : Bool} {x : Except PyError Value} {k d : Nat}
    (h : Layered k x d) (hempty : empty = true → d ≤ k) :
    Ensures (Protobuf.unlessEmpty empty x) fun a => SameFrom k (argumentDepth a) d := by
  cases empty with
  | true => exact Ensures.pure (SameFrom.of_le (Nat.zero_le k) (hempty rfl))
  | false => exact Ensures.bind h fun v hv => Ensures.pure hv

@[simp]
theorem argumentDepth_double (x : Option Binary64) : argumentDepth (x.map .double) = 0 := by
  cases x <;> rfl

@[simp] theorem depth_ints (ns : List Int) : (Protobuf.ints ns).depth = 0 := by
  simp [Protobuf.ints]

/-! ### Attribute values -/

/-- A message, by the levels of its arguments. -/
theorem build_depth {m : Msg} {kwargs : List (String × Option Value)} {d : Nat}
    (h : 1 + deepest (fun f => argumentDepth (argument kwargs f)) (otlp m) = d) :
    Ensures (Protobuf.build m kwargs) fun v => v.depth = d :=
  fun v hv => (construct_depth v hv).trans h

/-- A list in a message in an `AnyValue`. -/
theorem wrap_protobuf {α : Type} {xs : List α} {inner : Nat} (h : xs = [] → inner = 0) :
    2 + Levels.protobuf.wrap xs.isEmpty inner = 1 + (1 + inner) := by
  cases xs with
  | nil =>
      rw [h rfl]
      rfl
  | cons x xs =>
      change 2 + (0 + inner) = _
      omega

mutual
theorem anyValue_levels : ∀ v : AnyValue,
    Ensures (Protobuf.anyValue v) fun message => message.depth = v.depth .protobuf
  | .bool value => by
      rw [Protobuf.anyValue]
      exact build_depth (by simp [otlp, AnyValue.depth])
  | .int value => by
      rw [Protobuf.anyValue]
      exact build_depth (by simp [otlp, AnyValue.depth])
  | .float value => by
      rw [Protobuf.anyValue]
      exact build_depth (by simp [otlp, AnyValue.depth])
  | .str value => by
      rw [Protobuf.anyValue]
      exact build_depth (by simp [otlp, AnyValue.depth])
  | .bytes value => by
      rw [Protobuf.anyValue]
      exact build_depth (by simp [otlp, AnyValue.depth])
  | .sequence vs => by
      have hnil : vs = [] → AnyValue.depthList .protobuf vs = 0 := by
        rintro rfl
        rfl
      rw [Protobuf.anyValue, AnyValue.depth, wrap_protobuf hnil]
      refine Ensures.bind (anyValues_levels vs) fun values hvalues => ?_
      refine Ensures.bind (build_depth rfl) fun array harray => build_depth ?_
      simpa [otlp, hvalues] using harray
  | .mapping items => by
      have hnil : items = [] → AnyValue.depthItems .protobuf items = 0 := by
        rintro rfl
        rfl
      rw [Protobuf.anyValue, AnyValue.depth, wrap_protobuf hnil]
      refine Ensures.bind (keyValues_levels items) fun values hvalues => ?_
      refine Ensures.bind (build_depth rfl) fun kvs hkvs => build_depth ?_
      simpa [otlp, hvalues] using hkvs
  | .other _ => Ensures.throw

theorem anyValues_levels : ∀ vs : List AnyValue, Ensures (Protobuf.anyValues vs) fun values =>
    deepest Value.depth values = AnyValue.depthList .protobuf vs
  | [] => Ensures.pure rfl
  | v :: vs => by
      rw [Protobuf.anyValues, AnyValue.depthList]
      refine Ensures.bind (anyValue_levels v) fun value hvalue =>
        Ensures.bind (anyValues_levels vs) fun values hvalues => Ensures.pure ?_
      rw [deepest_cons, hvalue, hvalues]

theorem keyValues_levels : ∀ items : List (String × AnyValue),
    Ensures (Protobuf.keyValues items) fun values =>
      deepest Value.depth values = AnyValue.depthItems .protobuf items
  | [] => Ensures.pure rfl
  | item :: items => by
      rw [Protobuf.keyValues, AnyValue.depthItems]
      refine Ensures.bind (keyValue_levels item) fun value hvalue =>
        Ensures.bind (keyValues_levels items) fun values hvalues => Ensures.pure ?_
      rw [deepest_cons, hvalue, hvalues]

theorem keyValue_levels : ∀ item : String × AnyValue,
    Ensures (Protobuf.keyValue item) fun value =>
      value.depth = AnyValue.depthItem .protobuf item
  | (key, v) => by
      rw [Protobuf.keyValue, AnyValue.depthItem]
      refine Ensures.bind (anyValue_levels v) fun value hvalue => build_depth ?_
      simp [otlp, hvalue]
end

/-- The attributes of a message. -/
theorem attributes_levels (attributes : Attributes) :
    Ensures (Protobuf.keyValues attributes) fun values =>
      SameFrom 0 (deepest Value.depth values) (attributes.depth .protobuf) := by
  rw [Attributes.depth, Levels.protobuf, Nat.zero_add]
  exact fun values hvalues => SameFrom.of_eq (keyValues_levels attributes values hvalues)

theorem resource_levels (r : Resource) :
    Layered 1 (Protobuf.resource r) (r.depth .protobuf) := by
  refine Ensures.bind (attributes_levels r.attributes) fun values hvalues => build_levels ?_
  simpa [otlp] using hvalues

/-- An empty resource is left unset. -/
theorem resourceArgument_levels (r : Resource) :
    Ensures (Protobuf.unlessEmpty (Protobuf.resourceIsEmpty r) (Protobuf.resource r)) fun a =>
      SameFrom 1 (argumentDepth a) (r.depth .protobuf) := by
  refine unlessEmpty_levels (resource_levels r) fun hempty => ?_
  simp only [Protobuf.resourceIsEmpty, Bool.and_eq_true, List.isEmpty_iff] at hempty
  rw [Resource.depth, hempty.1]
  exact Nat.le_refl 1

theorem scope_levels (s : InstrumentationScope) :
    Layered 1 (Protobuf.scope s) (s.depth .protobuf) := by
  refine Ensures.bind (attributes_levels s.attributes) fun values hvalues => build_levels ?_
  simpa [otlp] using hvalues

/-- An empty scope is left unset. -/
theorem scopeArgument_levels (s : InstrumentationScope) :
    Ensures (Protobuf.unlessEmpty (Protobuf.scopeIsEmpty s) (Protobuf.scope s)) fun a =>
      SameFrom 1 (argumentDepth a) (s.depth .protobuf) := by
  refine unlessEmpty_levels (scope_levels s) fun hempty => ?_
  simp only [Protobuf.scopeIsEmpty, Bool.and_eq_true, List.isEmpty_iff] at hempty
  rw [InstrumentationScope.depth, hempty.2]
  exact Nat.le_refl 1

/-! ### Metrics -/

/-- A measurement goes to one of two fields, and nests nothing. -/
theorem valueArgument_levels {refusal : String} {v : NumberValue} :
    Ensures (Protobuf.valueArgument refusal v) fun a =>
      argumentDepth a.2 = 0 ∧ (a.1 = "as_int" ∨ a.1 = "as_double") := by
  cases v with
  | bool b => exact Ensures.throw
  | int n => exact Ensures.pure ⟨rfl, Or.inl rfl⟩
  | float x => exact Ensures.pure ⟨rfl, Or.inr rfl⟩

theorem exemplar_levels (x : Exemplar) :
    Layered 1 (Protobuf.exemplar x) (x.depth .protobuf) := by
  refine Ensures.bind valueArgument_levels fun ⟨name, a⟩ ⟨hvalue, hname⟩ => ?_
  refine Ensures.bind (attributes_levels x.filteredAttributes) fun values hvalues =>
    build_levels ?_
  rcases hname with rfl | rfl <;> simpa [otlp, hvalue] using hvalues

theorem numberPoint_levels (p : NumberDataPoint) :
    Layered 2 (Protobuf.numberPoint p) (p.depth .protobuf) := by
  refine Ensures.bind (attributes_levels p.attributes) fun values hvalues => ?_
  refine Ensures.bind (messages_levels exemplar_levels p.exemplars) fun exemplars hexemplars => ?_
  refine Ensures.bind valueArgument_levels fun ⟨name, a⟩ ⟨hvalue, hname⟩ => build_levels ?_
  rcases hname with rfl | rfl <;>
    simpa [otlp, hvalue, max_comm] using hvalues.max hexemplars

theorem histogramPoint_levels (p : HistogramDataPoint) :
    Layered 2 (Protobuf.histogramPoint p) (p.depth .protobuf) := by
  refine Ensures.bind (attributes_levels p.attributes) fun values hvalues => ?_
  refine Ensures.bind (messages_levels exemplar_levels p.exemplars) fun exemplars hexemplars =>
    build_levels ?_
  simpa [otlp, max_comm] using hvalues.max hexemplars

/-- A side of an exponential histogram is one level, or unset. -/
theorem bucketsArgument_levels (b : Buckets) :
    Ensures (Protobuf.unlessEmpty (Protobuf.bucketsIsEmpty b) (Protobuf.buckets b)) fun a =>
      argumentDepth a ≤ 1 := by
  have hside : Layered 1 (Protobuf.buckets b) 1 := by
    intro v hv
    rw [Protobuf.buckets] at hv
    exact SameFrom.of_eq (build_depth (by simp [otlp]) v hv)
  intro a ha
  exact ((unlessEmpty_levels hside fun _ => Nat.le_refl 1) a ha |>.le_iff (Nat.le_refl 1)).mpr
    (Nat.le_refl 1)

theorem exponentialPoint_levels (p : ExponentialHistogramDataPoint) :
    Layered 2 (Protobuf.exponentialPoint p) (p.depth .protobuf) := by
  refine Ensures.bind (attributes_levels p.attributes) fun values hvalues => ?_
  refine Ensures.bind (messages_levels exemplar_levels p.exemplars) fun exemplars hexemplars => ?_
  refine Ensures.bind (bucketsArgument_levels p.positive) fun positive hpositive => ?_
  refine Ensures.bind (bucketsArgument_levels p.negative) fun negative hnegative => build_levels ?_
  simpa [otlp] using hvalues.max ((hexemplars.le_max hnegative).le_max hpositive)

theorem summaryPoint_levels (p : SummaryDataPoint) :
    Layered 2 (Protobuf.summaryPoint p) (p.depth .protobuf) := by
  have hquantile : ∀ q, Layered 1 (Protobuf.quantile q) 0 := by
    intro q v hv
    rw [Protobuf.quantile] at hv
    have hone : v.depth = 1 := build_depth (by simp [otlp]) v hv
    exact SameFrom.of_le (Nat.le_of_eq hone) (Nat.zero_le 1)
  refine Ensures.bind (attributes_levels p.attributes) fun values hvalues => ?_
  refine Ensures.bind (Ensures.deepest_mapM hquantile) fun quantiles hquantiles => build_levels ?_
  rw [deepest_zero] at hquantiles
  simpa [otlp, max_comm] using hvalues.max hquantiles

/-- The names of the fields for the data of a metric. -/
def dataNames : List String := ["gauge", "sum", "histogram", "exponential_histogram", "summary"]

/-- The data of a metric: a message with the points in one field. -/
theorem points_levels {α : Type} {f : α → Except PyError Value} {depth : α → Nat} {m : Msg}
    {kwargs : List Value → List (String × Option Value)} {name : String}
    (h : ∀ x, Layered 2 (f x) (depth x)) (points : List α) (hname : name ∈ dataNames)
    (hkwargs : ∀ vs, deepest (fun f => argumentDepth (argument (kwargs vs) f)) (otlp m) =
      deepest Value.depth vs) :
    Ensures (do return (name, some (← Protobuf.build m (kwargs (← points.mapM f))))) fun a =>
      SameFrom 3 (argumentDepth a.2) (1 + Levels.protobuf.field depth points) ∧
        a.1 ∈ dataNames := by
  refine Ensures.bind (messages_levels h points) fun vs hvs => ?_
  refine Ensures.bind (build_levels (by rwa [hkwargs])) fun v hv => Ensures.pure ⟨hv, hname⟩

theorem metricData_levels (data : MetricData) :
    Ensures (Protobuf.metricData data) fun a =>
      SameFrom 3 (argumentDepth a.2) (data.depth .protobuf) ∧ a.1 ∈ dataNames := by
  cases data with
  | gauge points =>
      exact points_levels numberPoint_levels points (by decide) fun vs => by simp [otlp]
  | sum points temporality monotonic =>
      exact points_levels numberPoint_levels points (by decide) fun vs => by simp [otlp]
  | histogram points temporality =>
      exact points_levels histogramPoint_levels points (by decide) fun vs => by simp [otlp]
  | exponentialHistogram points temporality =>
      exact points_levels exponentialPoint_levels points (by decide) fun vs => by simp [otlp]
  | summary points =>
      exact points_levels summaryPoint_levels points (by decide) fun vs => by simp [otlp]

theorem metric_levels (m : Metric) : Layered 4 (Protobuf.metric m) (m.depth .protobuf) := by
  refine Ensures.bind (metricData_levels m.data) fun ⟨name, a⟩ ⟨ha, hname⟩ => build_levels ?_
  simp only [dataNames, List.mem_cons, List.not_mem_nil, or_false] at hname
  rcases hname with rfl | rfl | rfl | rfl | rfl <;> simpa [otlp] using ha

theorem scopeMetrics_levels (sm : ScopeMetrics) :
    Layered 5 (Protobuf.scopeMetrics sm) (sm.depth .protobuf) := by
  refine Ensures.bind (scopeArgument_levels sm.scope) fun scope hscope => ?_
  refine Ensures.bind (messages_levels metric_levels sm.metrics) fun metrics hmetrics =>
    build_levels ?_
  simpa [otlp] using hscope.max hmetrics

theorem resourceMetrics_levels (rm : ResourceMetrics) :
    Layered 6 (Protobuf.resourceMetrics rm) (rm.depth .protobuf) := by
  refine Ensures.bind (resourceArgument_levels rm.resource) fun resource hresource => ?_
  refine Ensures.bind (messages_levels scopeMetrics_levels rm.scopeMetrics) fun values hvalues =>
    build_levels ?_
  simpa [otlp] using hresource.max hvalues

/-! ### Logs -/

theorem logRecord_levels (r : LogRecord) :
    Layered 1 (Protobuf.logRecord r) (r.depth .protobuf) := by
  refine Ensures.bind (anyValue_levels r.body) fun body hbody => ?_
  refine Ensures.bind (attributes_levels r.attributes) fun values hvalues => build_levels ?_
  have hmax := (SameFrom.of_eq rfl : SameFrom 0 _ (r.body.depth .protobuf)).max hvalues
  simpa [otlp, hbody] using hmax

theorem scopeLogs_levels (sl : ScopeLogs) :
    Layered 2 (Protobuf.scopeLogs sl) (sl.depth .protobuf) := by
  refine Ensures.bind (scopeArgument_levels sl.scope) fun scope hscope => ?_
  refine Ensures.bind (messages_levels logRecord_levels sl.logRecords) fun records hrecords =>
    build_levels ?_
  simpa [otlp] using hscope.max hrecords

theorem resourceLogs_levels (rl : ResourceLogs) :
    Layered 3 (Protobuf.resourceLogs rl) (rl.depth .protobuf) := by
  refine Ensures.bind (resourceArgument_levels rl.resource) fun resource hresource => ?_
  refine Ensures.bind (messages_levels scopeLogs_levels rl.scopeLogs) fun values hvalues =>
    build_levels ?_
  simpa [otlp] using hresource.max hvalues

/-! ### Traces -/

theorem spanEvent_levels (x : SpanEvent) :
    Layered 1 (Protobuf.spanEvent x) (x.depth .protobuf) := by
  refine Ensures.bind (attributes_levels x.attributes) fun values hvalues => build_levels ?_
  simpa [otlp] using hvalues

theorem spanLink_levels (l : SpanLink) :
    Layered 1 (Protobuf.spanLink l) (l.depth .protobuf) := by
  refine Ensures.bind (attributes_levels l.attributes) fun values hvalues => build_levels ?_
  simpa [otlp] using hvalues

/-- A status is one level, or unset. -/
theorem status_levels (status : Option Status) :
    Ensures (Protobuf.statusArgument status) fun a => argumentDepth a ≤ 1 := by
  cases status with
  | none => exact Ensures.pure (Nat.zero_le 1)
  | some status =>
      unfold Protobuf.statusArgument
      dsimp only
      split
      · refine Ensures.bind (build_depth rfl) fun v hv => Ensures.pure ?_
        simp [hv, otlp]
      · exact Ensures.pure (Nat.zero_le 1)

theorem span_levels (s : Span) : Layered 2 (Protobuf.span s) (s.depth .protobuf) := by
  refine Ensures.bind (attributes_levels s.attributes) fun values hvalues => ?_
  refine Ensures.bind (messages_levels spanEvent_levels s.events) fun events hevents => ?_
  refine Ensures.bind (messages_levels spanLink_levels s.links) fun links hlinks => ?_
  refine Ensures.bind (status_levels s.status) fun status hstatus => build_levels ?_
  simpa [otlp] using hvalues.max (hevents.max (hlinks.max_of_le hstatus))

theorem scopeSpans_levels (ss : ScopeSpans) :
    Layered 3 (Protobuf.scopeSpans ss) (ss.depth .protobuf) := by
  refine Ensures.bind (scopeArgument_levels ss.scope) fun scope hscope => ?_
  refine Ensures.bind (messages_levels span_levels ss.spans) fun spans hspans => build_levels ?_
  simpa [otlp] using hscope.max hspans

theorem resourceSpans_levels (rs : ResourceSpans) :
    Layered 4 (Protobuf.resourceSpans rs) (rs.depth .protobuf) := by
  refine Ensures.bind (resourceArgument_levels rs.resource) fun resource hresource => ?_
  refine Ensures.bind (messages_levels scopeSpans_levels rs.scopeSpans) fun values hvalues =>
    build_levels ?_
  simpa [otlp] using hresource.max hvalues

/-! ### Payloads -/

/-- The request of a payload is as deep as the payload. -/
theorem request_levels {kind : SignalKind} {data : Payload kind} :
    Layered 7 (requestMessage kind data) (data.depth .protobuf) := by
  cases kind with
  | metrics =>
      refine Ensures.bind (messages_levels resourceMetrics_levels data) fun vs hvs =>
        build_levels ?_
      simpa [otlp] using hvs
  | logs =>
      refine Ensures.bind (messages_levels resourceLogs_levels data) fun vs hvs =>
        build_levels ?_
      simpa [otlp] using hvs.mono (show 3 ≤ 6 by decide)
  | traces =>
      refine Ensures.bind (messages_levels resourceSpans_levels data) fun vs hvs =>
        build_levels ?_
      simpa [otlp] using hvs.mono (show 4 ≤ 6 by decide)
  | profiles => exact Ensures.throw

/-- `SerializeToString` writes the levels of a message exactly when it writes those of the
payload. -/
theorem serializes_iff {s : Serializer} {kind : SignalKind} {data : Payload kind} {message : Value}
    (h : requestMessage kind data = .ok message) :
    Yields (s.serialize message) (fun _ => True) ↔ s.Nests data := by
  rw [s.returns]
  refine forall₂_congr fun n hn => ?_
  exact (request_levels message h).le_iff (le_trans (by decide) (s.levels_ge n hn))

end OtlpClient
