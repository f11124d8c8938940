import OtlpClient.Model.Logs
import OtlpClient.Model.Metrics
import OtlpClient.Model.Traces
import OtlpClient.Support.Levels

/-!
# Model — how deep a tree is

The levels a tree takes once it is encoded: one for each object, and for each list what the format
counts.  A field that holds no other object and no attribute counts nothing; every limit leaves
room for it.
-/

namespace OtlpClient

variable (c : Levels)

mutual
/-- An attribute value: a list or a mapping is an object with one list in one field. -/
def AnyValue.depth : AnyValue → Nat
  | .sequence vs => 2 + c.wrap vs.isEmpty (AnyValue.depthList vs)
  | .mapping items => 2 + c.wrap items.isEmpty (AnyValue.depthItems items)
  | .str _ | .bool _ | .int _ | .float _ | .bytes _ | .other _ => 1

def AnyValue.depthList : List AnyValue → Nat
  | [] => 0
  | v :: vs => max (AnyValue.depth v) (AnyValue.depthList vs)

def AnyValue.depthItems : List (String × AnyValue) → Nat
  | [] => 0
  | item :: items => max (AnyValue.depthItem item) (AnyValue.depthItems items)

def AnyValue.depthItem : String × AnyValue → Nat
  | (_, v) => 1 + AnyValue.depth v
end

def Attributes.depth (attributes : Attributes) : Nat := c.list + AnyValue.depthItems c attributes

def Resource.depth (r : Resource) : Nat := 1 + Attributes.depth c r.attributes

def InstrumentationScope.depth (s : InstrumentationScope) : Nat :=
  1 + Attributes.depth c s.attributes

/-! ### Metrics -/

def Exemplar.depth (e : Exemplar) : Nat := 1 + Attributes.depth c e.filteredAttributes

def NumberDataPoint.depth (p : NumberDataPoint) : Nat :=
  1 + max (Attributes.depth c p.attributes) (c.field (Exemplar.depth c) p.exemplars)

def HistogramDataPoint.depth (p : HistogramDataPoint) : Nat :=
  1 + Max.max (Attributes.depth c p.attributes) (c.field (Exemplar.depth c) p.exemplars)

def ExponentialHistogramDataPoint.depth (p : ExponentialHistogramDataPoint) : Nat :=
  1 + Max.max (Attributes.depth c p.attributes) (c.field (Exemplar.depth c) p.exemplars)

def SummaryDataPoint.depth (p : SummaryDataPoint) : Nat := 1 + Attributes.depth c p.attributes

def MetricData.depth : MetricData → Nat
  | .gauge points | .sum points _ _ => 1 + c.field (NumberDataPoint.depth c) points
  | .histogram points _ => 1 + c.field (HistogramDataPoint.depth c) points
  | .exponentialHistogram points _ => 1 + c.field (ExponentialHistogramDataPoint.depth c) points
  | .summary points => 1 + c.field (SummaryDataPoint.depth c) points

def Metric.depth (m : Metric) : Nat := 1 + MetricData.depth c m.data

def ScopeMetrics.depth (sm : ScopeMetrics) : Nat :=
  1 + max (InstrumentationScope.depth c sm.scope) (c.field (Metric.depth c) sm.metrics)

def ResourceMetrics.depth (rm : ResourceMetrics) : Nat :=
  1 + max (Resource.depth c rm.resource) (c.field (ScopeMetrics.depth c) rm.scopeMetrics)

/-! ### Logs and traces -/

def LogRecord.depth (r : LogRecord) : Nat :=
  1 + max (AnyValue.depth c r.body) (Attributes.depth c r.attributes)

def ScopeLogs.depth (sl : ScopeLogs) : Nat :=
  1 + max (InstrumentationScope.depth c sl.scope) (c.field (LogRecord.depth c) sl.logRecords)

def ResourceLogs.depth (rl : ResourceLogs) : Nat :=
  1 + max (Resource.depth c rl.resource) (c.field (ScopeLogs.depth c) rl.scopeLogs)

def SpanEvent.depth (e : SpanEvent) : Nat := 1 + Attributes.depth c e.attributes

def SpanLink.depth (l : SpanLink) : Nat := 1 + Attributes.depth c l.attributes

def Span.depth (s : Span) : Nat :=
  1 + max (Attributes.depth c s.attributes)
    (max (c.field (SpanEvent.depth c) s.events) (c.field (SpanLink.depth c) s.links))

def ScopeSpans.depth (ss : ScopeSpans) : Nat :=
  1 + max (InstrumentationScope.depth c ss.scope) (c.field (Span.depth c) ss.spans)

def ResourceSpans.depth (rs : ResourceSpans) : Nat :=
  1 + max (Resource.depth c rs.resource) (c.field (ScopeSpans.depth c) rs.scopeSpans)

end OtlpClient
