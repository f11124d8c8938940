import OtlpClient.Model.Logs
import OtlpClient.Model.Metrics
import OtlpClient.Model.Traces

/-!
# Model — well-typed trees

What the annotations of the model promise and the wire asks: every integer is in the range of
its proto field, a measurement is not a bool, an attribute value is of a known class, and every
float satisfies `F` (finite, or no condition at all).
-/

namespace OtlpClient

def IsInt32 (n : Int) : Prop := -2 ^ 31 ≤ n ∧ n < 2 ^ 31

def IsUint32 (n : Int) : Prop := 0 ≤ n ∧ n < 2 ^ 32

def IsInt64 (n : Int) : Prop := -2 ^ 63 ≤ n ∧ n < 2 ^ 63

def IsUint64 (n : Int) : Prop := 0 ≤ n ∧ n < 2 ^ 64

instance (n : Int) : Decidable (IsInt32 n) := inferInstanceAs (Decidable (_ ∧ _))

instance (n : Int) : Decidable (IsUint32 n) := inferInstanceAs (Decidable (_ ∧ _))

instance (n : Int) : Decidable (IsInt64 n) := inferInstanceAs (Decidable (_ ∧ _))

instance (n : Int) : Decidable (IsUint64 n) := inferInstanceAs (Decidable (_ ∧ _))

variable (F : Binary64 → Prop)

mutual
def AnyValue.WellTyped : AnyValue → Prop
  | .str _ | .bool _ | .bytes _ => True
  | .int n => IsInt64 n
  | .float x => F x
  | .sequence vs => AnyValue.WellTypedList vs
  | .mapping items => AnyValue.WellTypedItems items
  | .other _ => False

def AnyValue.WellTypedList : List AnyValue → Prop
  | [] => True
  | v :: vs => v.WellTyped ∧ AnyValue.WellTypedList vs

def AnyValue.WellTypedItems : List (String × AnyValue) → Prop
  | [] => True
  | item :: items => AnyValue.WellTypedItem item ∧ AnyValue.WellTypedItems items

def AnyValue.WellTypedItem : String × AnyValue → Prop
  | (_, v) => v.WellTyped
end

abbrev Attributes.WellTyped (attributes : Attributes) : Prop :=
  AnyValue.WellTypedItems F attributes

structure Resource.WellTyped (r : Resource) : Prop where
  attributes : Attributes.WellTyped F r.attributes
  droppedAttributesCount : IsUint32 r.droppedAttributesCount

structure InstrumentationScope.WellTyped (s : InstrumentationScope) : Prop where
  attributes : Attributes.WellTyped F s.attributes

/-! ### Metrics -/

def NumberValue.WellTyped : NumberValue → Prop
  | .bool _ => False
  | .int n => IsInt64 n
  | .float x => F x

structure Exemplar.WellTyped (e : Exemplar) : Prop where
  filteredAttributes : Attributes.WellTyped F e.filteredAttributes
  timeUnixNano : IsUint64 e.timeUnixNano
  value : e.value.WellTyped F

structure NumberDataPoint.WellTyped (p : NumberDataPoint) : Prop where
  attributes : Attributes.WellTyped F p.attributes
  timeUnixNano : IsUint64 p.timeUnixNano
  startTimeUnixNano : ∀ t ∈ p.startTimeUnixNano, IsUint64 t
  value : p.value.WellTyped F
  flags : IsUint32 p.flags
  exemplars : ∀ e ∈ p.exemplars, e.WellTyped F

structure HistogramDataPoint.WellTyped (p : HistogramDataPoint) : Prop where
  attributes : Attributes.WellTyped F p.attributes
  timeUnixNano : IsUint64 p.timeUnixNano
  startTimeUnixNano : ∀ t ∈ p.startTimeUnixNano, IsUint64 t
  count : IsUint64 p.count
  sum : ∀ x ∈ p.sum, F x
  bucketCounts : ∀ c ∈ p.bucketCounts, IsUint64 c
  explicitBounds : ∀ x ∈ p.explicitBounds, F x
  flags : IsUint32 p.flags
  exemplars : ∀ e ∈ p.exemplars, e.WellTyped F
  min : ∀ x ∈ p.min, F x
  max : ∀ x ∈ p.max, F x

structure Buckets.WellTyped (b : Buckets) : Prop where
  offset : IsInt32 b.offset
  bucketCounts : ∀ c ∈ b.bucketCounts, IsUint64 c

structure ExponentialHistogramDataPoint.WellTyped (p : ExponentialHistogramDataPoint) :
    Prop where
  attributes : Attributes.WellTyped F p.attributes
  timeUnixNano : IsUint64 p.timeUnixNano
  startTimeUnixNano : ∀ t ∈ p.startTimeUnixNano, IsUint64 t
  count : IsUint64 p.count
  sum : ∀ x ∈ p.sum, F x
  scale : IsInt32 p.scale
  zeroCount : IsUint64 p.zeroCount
  positive : p.positive.WellTyped
  negative : p.negative.WellTyped
  flags : IsUint32 p.flags
  exemplars : ∀ e ∈ p.exemplars, e.WellTyped F
  min : ∀ x ∈ p.min, F x
  max : ∀ x ∈ p.max, F x
  zeroThreshold : F p.zeroThreshold

structure ValueAtQuantile.WellTyped (q : ValueAtQuantile) : Prop where
  quantile : F q.quantile
  value : F q.value

structure SummaryDataPoint.WellTyped (p : SummaryDataPoint) : Prop where
  attributes : Attributes.WellTyped F p.attributes
  timeUnixNano : IsUint64 p.timeUnixNano
  startTimeUnixNano : ∀ t ∈ p.startTimeUnixNano, IsUint64 t
  count : IsUint64 p.count
  sum : F p.sum
  quantileValues : ∀ q ∈ p.quantileValues, q.WellTyped F
  flags : IsUint32 p.flags

def MetricData.WellTyped : MetricData → Prop
  | .gauge points | .sum points _ _ => ∀ p ∈ points, p.WellTyped F
  | .histogram points _ => ∀ p ∈ points, p.WellTyped F
  | .exponentialHistogram points _ => ∀ p ∈ points, p.WellTyped F
  | .summary points => ∀ p ∈ points, p.WellTyped F

structure Metric.WellTyped (m : Metric) : Prop where
  data : m.data.WellTyped F

structure ScopeMetrics.WellTyped (sm : ScopeMetrics) : Prop where
  scope : sm.scope.WellTyped F
  metrics : ∀ m ∈ sm.metrics, m.WellTyped F

structure ResourceMetrics.WellTyped (rm : ResourceMetrics) : Prop where
  resource : rm.resource.WellTyped F
  scopeMetrics : ∀ sm ∈ rm.scopeMetrics, sm.WellTyped F

/-! ### Logs -/

structure LogRecord.WellTyped (r : LogRecord) : Prop where
  timeUnixNano : IsUint64 r.timeUnixNano
  observedTimeUnixNano : IsUint64 r.observedTimeUnixNano
  body : r.body.WellTyped F
  attributes : Attributes.WellTyped F r.attributes
  flags : IsUint32 r.flags

structure ScopeLogs.WellTyped (sl : ScopeLogs) : Prop where
  scope : sl.scope.WellTyped F
  logRecords : ∀ r ∈ sl.logRecords, r.WellTyped F

structure ResourceLogs.WellTyped (rl : ResourceLogs) : Prop where
  resource : rl.resource.WellTyped F
  scopeLogs : ∀ sl ∈ rl.scopeLogs, sl.WellTyped F

/-! ### Traces -/

structure SpanEvent.WellTyped (e : SpanEvent) : Prop where
  timeUnixNano : IsUint64 e.timeUnixNano
  attributes : Attributes.WellTyped F e.attributes

structure SpanLink.WellTyped (l : SpanLink) : Prop where
  attributes : Attributes.WellTyped F l.attributes
  flags : IsUint32 l.flags

structure Span.WellTyped (s : Span) : Prop where
  startTimeUnixNano : IsUint64 s.startTimeUnixNano
  endTimeUnixNano : IsUint64 s.endTimeUnixNano
  flags : IsUint32 s.flags
  attributes : Attributes.WellTyped F s.attributes
  events : ∀ e ∈ s.events, e.WellTyped F
  links : ∀ l ∈ s.links, l.WellTyped F

structure ScopeSpans.WellTyped (ss : ScopeSpans) : Prop where
  scope : ss.scope.WellTyped F
  spans : ∀ s ∈ ss.spans, s.WellTyped F

structure ResourceSpans.WellTyped (rs : ResourceSpans) : Prop where
  resource : rs.resource.WellTyped F
  scopeSpans : ∀ ss ∈ rs.scopeSpans, ss.WellTyped F

end OtlpClient
