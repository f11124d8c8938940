import OtlpClient.Model.Common

/-!
# Model — traces
-/

namespace OtlpClient

inductive SpanKind where
  | unspecified
  | internal
  | server
  | client
  | producer
  | consumer
  deriving DecidableEq, Repr

/-- `int(kind)`. -/
def SpanKind.toInt : SpanKind → Int
  | .unspecified => 0
  | .internal => 1
  | .server => 2
  | .client => 3
  | .producer => 4
  | .consumer => 5

inductive StatusCode where
  | unset
  | ok
  | error
  deriving DecidableEq, Repr

/-- `int(code)`. -/
def StatusCode.toInt : StatusCode → Int
  | .unset => 0
  | .ok => 1
  | .error => 2

structure Status where
  code : StatusCode := .unset
  message : String := ""

structure SpanEvent where
  timeUnixNano : Int
  name : String
  attributes : Attributes := []

structure SpanLink where
  traceId : Bytes
  spanId : Bytes
  traceState : String := ""
  attributes : Attributes := []
  flags : Int := 0

structure Span where
  traceId : Bytes
  spanId : Bytes
  name : String
  startTimeUnixNano : Int
  endTimeUnixNano : Int
  kind : SpanKind := .unspecified
  parentSpanId : Option Bytes := none
  traceState : String := ""
  flags : Int := 0
  attributes : Attributes := []
  events : List SpanEvent := []
  links : List SpanLink := []
  status : Option Status := none

structure ScopeSpans where
  scope : InstrumentationScope
  spans : List Span

structure ResourceSpans where
  resource : Resource
  scopeSpans : List ScopeSpans

end OtlpClient
