import OtlpClient.Model.WellTyped

/-!
# Model — the leaves of a tree an encoder may refuse

Every integer of a tree, with the proto field it goes to; every attribute value of no known class;
every measurement that is a bool.

* `*.leaves`: the leaves of a type of the model.
* `*.WellTyped.leaves`: in a well-typed tree every integer is in the range of its field.
-/

namespace OtlpClient

/-- An integer, by the field it goes to, or what has no encoding. -/
inductive Leaf where
  | int32 (n : Int)
  | uint32 (n : Int)
  | int64 (n : Int)
  | uint64 (n : Int)
  | unsupported (type : String)
  | bool (b : Bool)
  deriving DecidableEq, Repr

/-- The leaf is an integer in the range of its field. -/
def Leaf.InRange : Leaf → Prop
  | .int32 n => IsInt32 n
  | .uint32 n => IsUint32 n
  | .int64 n => IsInt64 n
  | .uint64 n => IsUint64 n
  | .unsupported _ | .bool _ => False

instance (l : Leaf) : Decidable l.InRange := by
  cases l <;> unfold Leaf.InRange <;> infer_instance

mutual
def AnyValue.leaves : AnyValue → List Leaf
  | .int n => [.int64 n]
  | .sequence vs => AnyValue.leavesList vs
  | .mapping items => AnyValue.leavesItems items
  | .other type => [.unsupported type]
  | .str _ | .bool _ | .float _ | .bytes _ => []

def AnyValue.leavesList : List AnyValue → List Leaf
  | [] => []
  | v :: vs => v.leaves ++ AnyValue.leavesList vs

def AnyValue.leavesItems : List (String × AnyValue) → List Leaf
  | [] => []
  | item :: items => AnyValue.leavesItem item ++ AnyValue.leavesItems items

def AnyValue.leavesItem : String × AnyValue → List Leaf
  | (_, v) => v.leaves
end

abbrev Attributes.leaves (attributes : Attributes) : List Leaf := AnyValue.leavesItems attributes

def Resource.leaves (r : Resource) : List Leaf :=
  r.attributes.leaves ++ [.uint32 r.droppedAttributesCount]

/-! ### Metrics -/

def NumberValue.leaves : NumberValue → List Leaf
  | .bool b => [.bool b]
  | .int n => [.int64 n]
  | .float _ => []

def Exemplar.leaves (e : Exemplar) : List Leaf :=
  e.filteredAttributes.leaves ++ [.uint64 e.timeUnixNano] ++ e.value.leaves

def NumberDataPoint.leaves (p : NumberDataPoint) : List Leaf :=
  p.attributes.leaves ++ p.startTimeUnixNano.toList.map .uint64 ++
    [.uint64 p.timeUnixNano, .uint32 p.flags] ++ p.exemplars.flatMap Exemplar.leaves ++
    p.value.leaves

def HistogramDataPoint.leaves (p : HistogramDataPoint) : List Leaf :=
  p.attributes.leaves ++ p.startTimeUnixNano.toList.map .uint64 ++
    [.uint64 p.timeUnixNano, .uint64 p.count, .uint32 p.flags] ++ p.bucketCounts.map .uint64 ++
    p.exemplars.flatMap Exemplar.leaves

def Buckets.leaves (b : Buckets) : List Leaf := .int32 b.offset :: b.bucketCounts.map .uint64

def ExponentialHistogramDataPoint.leaves (p : ExponentialHistogramDataPoint) : List Leaf :=
  p.attributes.leaves ++ p.startTimeUnixNano.toList.map .uint64 ++
    [.uint64 p.timeUnixNano, .uint64 p.count, .int32 p.scale, .uint64 p.zeroCount,
      .uint32 p.flags] ++
    p.positive.leaves ++ p.negative.leaves ++ p.exemplars.flatMap Exemplar.leaves

def SummaryDataPoint.leaves (p : SummaryDataPoint) : List Leaf :=
  p.attributes.leaves ++ p.startTimeUnixNano.toList.map .uint64 ++
    [.uint64 p.timeUnixNano, .uint64 p.count, .uint32 p.flags]

def MetricData.leaves : MetricData → List Leaf
  | .gauge points | .sum points _ _ => points.flatMap NumberDataPoint.leaves
  | .histogram points _ => points.flatMap HistogramDataPoint.leaves
  | .exponentialHistogram points _ => points.flatMap ExponentialHistogramDataPoint.leaves
  | .summary points => points.flatMap SummaryDataPoint.leaves

def ScopeMetrics.leaves (sm : ScopeMetrics) : List Leaf :=
  sm.scope.attributes.leaves ++ sm.metrics.flatMap fun m => m.data.leaves

def ResourceMetrics.leaves (rm : ResourceMetrics) : List Leaf :=
  rm.resource.leaves ++ rm.scopeMetrics.flatMap ScopeMetrics.leaves

/-! ### Logs and traces -/

def LogRecord.leaves (r : LogRecord) : List Leaf :=
  [.uint64 r.timeUnixNano, .uint64 r.observedTimeUnixNano, .uint32 r.flags] ++ r.body.leaves ++
    r.attributes.leaves

def ScopeLogs.leaves (sl : ScopeLogs) : List Leaf :=
  sl.scope.attributes.leaves ++ sl.logRecords.flatMap LogRecord.leaves

def ResourceLogs.leaves (rl : ResourceLogs) : List Leaf :=
  rl.resource.leaves ++ rl.scopeLogs.flatMap ScopeLogs.leaves

def SpanEvent.leaves (e : SpanEvent) : List Leaf := .uint64 e.timeUnixNano :: e.attributes.leaves

def SpanLink.leaves (l : SpanLink) : List Leaf := .uint32 l.flags :: l.attributes.leaves

def Span.leaves (s : Span) : List Leaf :=
  [.uint64 s.startTimeUnixNano, .uint64 s.endTimeUnixNano, .uint32 s.flags] ++
    s.attributes.leaves ++ s.events.flatMap SpanEvent.leaves ++ s.links.flatMap SpanLink.leaves

def ScopeSpans.leaves (ss : ScopeSpans) : List Leaf :=
  ss.scope.attributes.leaves ++ ss.spans.flatMap Span.leaves

def ResourceSpans.leaves (rs : ResourceSpans) : List Leaf :=
  rs.resource.leaves ++ rs.scopeSpans.flatMap ScopeSpans.leaves

/-! ### Well-typed trees -/

variable {F : Binary64 → Prop}

mutual
theorem AnyValue.WellTyped.leaves : ∀ {v : AnyValue}, v.WellTyped F → ∀ l ∈ v.leaves, l.InRange
  | .str _, _ | .bool _, _ | .float _, _ | .bytes _, _ => by simp [AnyValue.leaves]
  | .int n, h => by
      rw [AnyValue.WellTyped] at h
      simpa [AnyValue.leaves, Leaf.InRange] using h
  | .sequence vs, h => by
      rw [AnyValue.WellTyped] at h
      rw [AnyValue.leaves]
      exact AnyValue.WellTypedList.leaves h
  | .mapping items, h => by
      rw [AnyValue.WellTyped] at h
      rw [AnyValue.leaves]
      exact AnyValue.WellTypedItems.leaves h
  | .other _, h => by
      rw [AnyValue.WellTyped] at h
      exact h.elim

theorem AnyValue.WellTypedList.leaves : ∀ {vs : List AnyValue}, AnyValue.WellTypedList F vs →
    ∀ l ∈ AnyValue.leavesList vs, l.InRange
  | [], _ => by simp [AnyValue.leavesList]
  | v :: vs, h => by
      rw [AnyValue.WellTypedList] at h
      rw [AnyValue.leavesList, List.forall_mem_append]
      exact ⟨AnyValue.WellTyped.leaves h.1, AnyValue.WellTypedList.leaves h.2⟩

theorem AnyValue.WellTypedItems.leaves : ∀ {items : List (String × AnyValue)},
    AnyValue.WellTypedItems F items → ∀ l ∈ AnyValue.leavesItems items, l.InRange
  | [], _ => by simp [AnyValue.leavesItems]
  | (_, v) :: items, h => by
      rw [AnyValue.WellTypedItems, AnyValue.WellTypedItem] at h
      rw [AnyValue.leavesItems, AnyValue.leavesItem, List.forall_mem_append]
      exact ⟨AnyValue.WellTyped.leaves h.1, AnyValue.WellTypedItems.leaves h.2⟩
end

theorem Attributes.WellTyped.leaves {attributes : Attributes} (h : attributes.WellTyped F) :
    ∀ l ∈ attributes.leaves, l.InRange :=
  AnyValue.WellTypedItems.leaves h

theorem Resource.WellTyped.leaves {r : Resource} (h : r.WellTyped F) :
    ∀ l ∈ r.leaves, l.InRange := by
  simp only [Resource.leaves, List.forall_mem_append, List.forall_mem_singleton]
  exact ⟨h.attributes.leaves, h.droppedAttributesCount⟩

theorem NumberValue.WellTyped.leaves {v : NumberValue} (h : v.WellTyped F) :
    ∀ l ∈ v.leaves, l.InRange := by
  cases v with
  | bool b => exact h.elim
  | int n => exact List.forall_mem_singleton.mpr h
  | float x => exact nofun

/-- An optional time. -/
theorem inRange_optional {n : Option Int} (h : ∀ k ∈ n, IsUint64 k) :
    ∀ l ∈ n.toList.map Leaf.uint64, l.InRange := by
  cases n with
  | none => exact nofun
  | some k => exact List.forall_mem_singleton.mpr (h k rfl)

theorem inRange_counts {counts : List Int} (h : ∀ c ∈ counts, IsUint64 c) :
    ∀ l ∈ counts.map Leaf.uint64, l.InRange :=
  List.forall_mem_map.mpr h

theorem Exemplar.WellTyped.leaves {e : Exemplar} (h : e.WellTyped F) :
    ∀ l ∈ e.leaves, l.InRange := by
  simp only [Exemplar.leaves, List.forall_mem_append, List.forall_mem_singleton]
  exact ⟨⟨h.filteredAttributes.leaves, h.timeUnixNano⟩, h.value.leaves⟩

theorem inRange_exemplars {exemplars : List Exemplar} (h : ∀ e ∈ exemplars, e.WellTyped F) :
    ∀ l ∈ exemplars.flatMap Exemplar.leaves, l.InRange :=
  List.forall_mem_flatMap.mpr fun e he => (h e he).leaves

theorem NumberDataPoint.WellTyped.leaves {p : NumberDataPoint} (h : p.WellTyped F) :
    ∀ l ∈ p.leaves, l.InRange := by
  simp only [NumberDataPoint.leaves, List.forall_mem_append, List.forall_mem_cons]
  exact ⟨⟨⟨⟨h.attributes.leaves, inRange_optional h.startTimeUnixNano⟩, h.timeUnixNano, h.flags,
    nofun⟩, inRange_exemplars h.exemplars⟩, h.value.leaves⟩

theorem HistogramDataPoint.WellTyped.leaves {p : HistogramDataPoint} (h : p.WellTyped F) :
    ∀ l ∈ p.leaves, l.InRange := by
  simp only [HistogramDataPoint.leaves, List.forall_mem_append, List.forall_mem_cons]
  exact ⟨⟨⟨⟨h.attributes.leaves, inRange_optional h.startTimeUnixNano⟩, h.timeUnixNano, h.count,
    h.flags, nofun⟩, inRange_counts h.bucketCounts⟩, inRange_exemplars h.exemplars⟩

theorem Buckets.WellTyped.leaves {b : Buckets} (h : b.WellTyped) : ∀ l ∈ b.leaves, l.InRange := by
  rw [Buckets.leaves, List.forall_mem_cons]
  exact ⟨h.offset, inRange_counts h.bucketCounts⟩

theorem ExponentialHistogramDataPoint.WellTyped.leaves {p : ExponentialHistogramDataPoint}
    (h : p.WellTyped F) : ∀ l ∈ p.leaves, l.InRange := by
  simp only [ExponentialHistogramDataPoint.leaves, List.forall_mem_append, List.forall_mem_cons]
  exact ⟨⟨⟨⟨⟨h.attributes.leaves, inRange_optional h.startTimeUnixNano⟩, h.timeUnixNano, h.count,
    h.scale, h.zeroCount, h.flags, nofun⟩, h.positive.leaves⟩, h.negative.leaves⟩,
    inRange_exemplars h.exemplars⟩

theorem SummaryDataPoint.WellTyped.leaves {p : SummaryDataPoint} (h : p.WellTyped F) :
    ∀ l ∈ p.leaves, l.InRange := by
  simp only [SummaryDataPoint.leaves, List.forall_mem_append, List.forall_mem_cons]
  exact ⟨⟨h.attributes.leaves, inRange_optional h.startTimeUnixNano⟩, h.timeUnixNano, h.count,
    h.flags, nofun⟩

theorem MetricData.WellTyped.leaves {data : MetricData} (h : data.WellTyped F) :
    ∀ l ∈ data.leaves, l.InRange := by
  cases data with
  | gauge points => exact List.forall_mem_flatMap.mpr fun p hp => (h p hp).leaves
  | sum points temporality monotonic =>
      exact List.forall_mem_flatMap.mpr fun p hp => (h p hp).leaves
  | histogram points temporality => exact List.forall_mem_flatMap.mpr fun p hp => (h p hp).leaves
  | exponentialHistogram points temporality =>
      exact List.forall_mem_flatMap.mpr fun p hp => (h p hp).leaves
  | summary points => exact List.forall_mem_flatMap.mpr fun p hp => (h p hp).leaves

theorem ScopeMetrics.WellTyped.leaves {sm : ScopeMetrics} (h : sm.WellTyped F) :
    ∀ l ∈ sm.leaves, l.InRange :=
  List.forall_mem_append.mpr ⟨h.scope.attributes.leaves,
    List.forall_mem_flatMap.mpr fun m hm => (h.metrics m hm).data.leaves⟩

theorem ResourceMetrics.WellTyped.leaves {rm : ResourceMetrics} (h : rm.WellTyped F) :
    ∀ l ∈ rm.leaves, l.InRange :=
  List.forall_mem_append.mpr ⟨h.resource.leaves,
    List.forall_mem_flatMap.mpr fun sm hsm => (h.scopeMetrics sm hsm).leaves⟩

theorem LogRecord.WellTyped.leaves {r : LogRecord} (h : r.WellTyped F) :
    ∀ l ∈ r.leaves, l.InRange := by
  simp only [LogRecord.leaves, List.forall_mem_append, List.forall_mem_cons]
  exact ⟨⟨⟨h.timeUnixNano, h.observedTimeUnixNano, h.flags, nofun⟩, h.body.leaves⟩,
    h.attributes.leaves⟩

theorem ScopeLogs.WellTyped.leaves {sl : ScopeLogs} (h : sl.WellTyped F) :
    ∀ l ∈ sl.leaves, l.InRange :=
  List.forall_mem_append.mpr ⟨h.scope.attributes.leaves,
    List.forall_mem_flatMap.mpr fun r hr => (h.logRecords r hr).leaves⟩

theorem ResourceLogs.WellTyped.leaves {rl : ResourceLogs} (h : rl.WellTyped F) :
    ∀ l ∈ rl.leaves, l.InRange :=
  List.forall_mem_append.mpr ⟨h.resource.leaves,
    List.forall_mem_flatMap.mpr fun sl hsl => (h.scopeLogs sl hsl).leaves⟩

theorem SpanEvent.WellTyped.leaves {e : SpanEvent} (h : e.WellTyped F) :
    ∀ l ∈ e.leaves, l.InRange :=
  List.forall_mem_cons.mpr ⟨h.timeUnixNano, h.attributes.leaves⟩

theorem SpanLink.WellTyped.leaves {l : SpanLink} (h : l.WellTyped F) :
    ∀ leaf ∈ l.leaves, leaf.InRange :=
  List.forall_mem_cons.mpr ⟨h.flags, h.attributes.leaves⟩

theorem Span.WellTyped.leaves {s : Span} (h : s.WellTyped F) : ∀ l ∈ s.leaves, l.InRange := by
  simp only [Span.leaves, List.forall_mem_append, List.forall_mem_cons, List.forall_mem_flatMap]
  exact ⟨⟨⟨⟨h.startTimeUnixNano, h.endTimeUnixNano, h.flags, nofun⟩, h.attributes.leaves⟩,
    fun e he => (h.events e he).leaves⟩, fun l hl => (h.links l hl).leaves⟩

theorem ScopeSpans.WellTyped.leaves {ss : ScopeSpans} (h : ss.WellTyped F) :
    ∀ l ∈ ss.leaves, l.InRange :=
  List.forall_mem_append.mpr ⟨h.scope.attributes.leaves,
    List.forall_mem_flatMap.mpr fun s hs => (h.spans s hs).leaves⟩

theorem ResourceSpans.WellTyped.leaves {rs : ResourceSpans} (h : rs.WellTyped F) :
    ∀ l ∈ rs.leaves, l.InRange :=
  List.forall_mem_append.mpr ⟨h.resource.leaves,
    List.forall_mem_flatMap.mpr fun ss hss => (h.scopeSpans ss hss).leaves⟩

end OtlpClient
