import OtlpClient.Model.Logs
import OtlpClient.Model.Metrics
import OtlpClient.Model.Traces

/-!
# Model — the floats of a tree

Every float a tree carries: measurements and exemplars, sums, extrema, bounds, quantiles, zero
thresholds, and attribute values of any depth.  The two doubles without presence, a zero threshold
and the sum of a summary, count unless they are the default `+0.0`.
-/

namespace OtlpClient

mutual
def AnyValue.floats : AnyValue → List Binary64
  | .float x => [x]
  | .sequence vs => AnyValue.floatsList vs
  | .mapping items => AnyValue.floatsItems items
  | .str _ | .bool _ | .int _ | .bytes _ | .other _ => []

def AnyValue.floatsList : List AnyValue → List Binary64
  | [] => []
  | v :: vs => v.floats ++ AnyValue.floatsList vs

def AnyValue.floatsItems : List (String × AnyValue) → List Binary64
  | [] => []
  | item :: items => AnyValue.floatsItem item ++ AnyValue.floatsItems items

def AnyValue.floatsItem : String × AnyValue → List Binary64
  | (_, v) => v.floats
end

abbrev Attributes.floats (attributes : Attributes) : List Binary64 :=
  AnyValue.floatsItems attributes

/-- A double of implicit presence. -/
def implicitDouble (x : Binary64) : List Binary64 := if x = .posZero then [] else [x]

def NumberValue.floats : NumberValue → List Binary64
  | .float x => [x]
  | .bool _ | .int _ => []

def Exemplar.floats (e : Exemplar) : List Binary64 := e.filteredAttributes.floats ++ e.value.floats

def NumberDataPoint.floats (p : NumberDataPoint) : List Binary64 :=
  p.attributes.floats ++ p.exemplars.flatMap Exemplar.floats ++ p.value.floats

def HistogramDataPoint.floats (p : HistogramDataPoint) : List Binary64 :=
  p.attributes.floats ++ p.sum.toList ++ p.explicitBounds ++ p.exemplars.flatMap Exemplar.floats ++
    p.min.toList ++ p.max.toList

def ExponentialHistogramDataPoint.floats (p : ExponentialHistogramDataPoint) : List Binary64 :=
  p.attributes.floats ++ p.sum.toList ++ p.min.toList ++ p.max.toList ++
    p.exemplars.flatMap Exemplar.floats ++ implicitDouble p.zeroThreshold

def ValueAtQuantile.floats (q : ValueAtQuantile) : List Binary64 := [q.quantile, q.value]

def SummaryDataPoint.floats (p : SummaryDataPoint) : List Binary64 :=
  p.attributes.floats ++ implicitDouble p.sum ++ p.quantileValues.flatMap ValueAtQuantile.floats

def MetricData.floats : MetricData → List Binary64
  | .gauge points | .sum points _ _ => points.flatMap NumberDataPoint.floats
  | .histogram points _ => points.flatMap HistogramDataPoint.floats
  | .exponentialHistogram points _ => points.flatMap ExponentialHistogramDataPoint.floats
  | .summary points => points.flatMap SummaryDataPoint.floats

def ScopeMetrics.floats (sm : ScopeMetrics) : List Binary64 :=
  sm.scope.attributes.floats ++ sm.metrics.flatMap fun m => m.data.floats

def ResourceMetrics.floats (rm : ResourceMetrics) : List Binary64 :=
  rm.resource.attributes.floats ++ rm.scopeMetrics.flatMap ScopeMetrics.floats

def LogRecord.floats (r : LogRecord) : List Binary64 := r.body.floats ++ r.attributes.floats

def ScopeLogs.floats (sl : ScopeLogs) : List Binary64 :=
  sl.scope.attributes.floats ++ sl.logRecords.flatMap LogRecord.floats

def ResourceLogs.floats (rl : ResourceLogs) : List Binary64 :=
  rl.resource.attributes.floats ++ rl.scopeLogs.flatMap ScopeLogs.floats

def Span.floats (s : Span) : List Binary64 :=
  s.attributes.floats ++ (s.events.flatMap fun e => e.attributes.floats) ++
    s.links.flatMap fun l => l.attributes.floats

def ScopeSpans.floats (ss : ScopeSpans) : List Binary64 :=
  ss.scope.attributes.floats ++ ss.spans.flatMap Span.floats

def ResourceSpans.floats (rs : ResourceSpans) : List Binary64 :=
  rs.resource.attributes.floats ++ rs.scopeSpans.flatMap ScopeSpans.floats

end OtlpClient
