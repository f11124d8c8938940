import OtlpClient.Model.Common

/-!
# Model — metrics
-/

namespace OtlpClient

inductive AggregationTemporality where
  | unspecified
  | delta
  | cumulative
  deriving DecidableEq, Repr

/-- `int(temporality)`. -/
def AggregationTemporality.toInt : AggregationTemporality → Int
  | .unspecified => 0
  | .delta => 1
  | .cumulative => 2

/-- A measurement, told apart by its Python class: the type says `int | float`, and a `bool` is
an `int` to Python. -/
inductive NumberValue where
  | bool (b : Bool)
  | int (n : Int)
  | float (x : Binary64)
  deriving DecidableEq

/-- A sample measurement linked to the trace that produced it. -/
structure Exemplar where
  filteredAttributes : Attributes := []
  timeUnixNano : Int
  value : NumberValue
  spanId : Option Bytes := none
  traceId : Option Bytes := none

structure NumberDataPoint where
  timeUnixNano : Int
  value : NumberValue
  attributes : Attributes := []
  startTimeUnixNano : Option Int := none
  exemplars : List Exemplar := []
  flags : Int := 0

structure HistogramDataPoint where
  timeUnixNano : Int
  count : Int
  bucketCounts : List Int
  explicitBounds : List Binary64
  sum : Option Binary64 := none
  attributes : Attributes := []
  startTimeUnixNano : Option Int := none
  exemplars : List Exemplar := []
  flags : Int := 0
  min : Option Binary64 := none
  max : Option Binary64 := none

/-- One side of an exponential histogram. -/
structure Buckets where
  offset : Int := 0
  bucketCounts : List Int := []

structure ExponentialHistogramDataPoint where
  timeUnixNano : Int
  count : Int
  scale : Int := 0
  zeroCount : Int := 0
  positive : Buckets := {}
  negative : Buckets := {}
  sum : Option Binary64 := none
  min : Option Binary64 := none
  max : Option Binary64 := none
  attributes : Attributes := []
  startTimeUnixNano : Option Int := none
  flags : Int := 0
  exemplars : List Exemplar := []
  zeroThreshold : Binary64 := .posZero

structure ValueAtQuantile where
  quantile : Binary64
  value : Binary64

structure SummaryDataPoint where
  timeUnixNano : Int
  count : Int
  sum : Binary64 := .posZero
  quantileValues : List ValueAtQuantile := []
  attributes : Attributes := []
  startTimeUnixNano : Option Int := none
  flags : Int := 0

/-- `MetricData`: the union of `Gauge`, `Sum`, `Histogram`, `ExponentialHistogram` and
`Summary`, each with its own fields. -/
inductive MetricData where
  | gauge (dataPoints : List NumberDataPoint)
  | sum (dataPoints : List NumberDataPoint) (aggregationTemporality : AggregationTemporality)
      (isMonotonic : Bool)
  | histogram (dataPoints : List HistogramDataPoint)
      (aggregationTemporality : AggregationTemporality)
  | exponentialHistogram (dataPoints : List ExponentialHistogramDataPoint)
      (aggregationTemporality : AggregationTemporality)
  | summary (dataPoints : List SummaryDataPoint)

structure Metric where
  name : String
  data : MetricData
  description : String := ""
  unit : String := ""

structure ScopeMetrics where
  scope : InstrumentationScope
  metrics : List Metric

structure ResourceMetrics where
  resource : Resource
  scopeMetrics : List ScopeMetrics

end OtlpClient
