import OtlpClient.Model.Common

/-!
# Model — logs
-/

namespace OtlpClient

inductive SeverityNumber where
  | unspecified
  | trace
  | debug
  | info
  | warn
  | error
  | fatal
  deriving DecidableEq, Repr

/-- `int(severity)`. -/
def SeverityNumber.toInt : SeverityNumber → Int
  | .unspecified => 0
  | .trace => 1
  | .debug => 5
  | .info => 9
  | .warn => 13
  | .error => 17
  | .fatal => 21

structure LogRecord where
  timeUnixNano : Int
  body : AnyValue
  observedTimeUnixNano : Int
  severityNumber : SeverityNumber := .unspecified
  severityText : String := ""
  attributes : Attributes := []
  traceId : Option Bytes := none
  spanId : Option Bytes := none
  eventName : String := ""
  flags : Int := 0

structure ScopeLogs where
  scope : InstrumentationScope
  logRecords : List LogRecord

structure ResourceLogs where
  resource : Resource
  scopeLogs : List ScopeLogs

end OtlpClient
