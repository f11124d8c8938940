import OtlpClient.Support.Binary64
import OtlpClient.Support.Text

/-!
# Model — types shared by every signal

`SignalKind`, attribute values, `Resource` and `InstrumentationScope`.  A `Mapping` is its items in
iteration order and a `Sequence` is a list; a value of a class the encoders have no branch for is
`AnyValue.other`.
-/

namespace OtlpClient

/-- `SignalKind`. -/
inductive SignalKind where
  | metrics
  | logs
  | traces
  | profiles
  deriving DecidableEq, Repr

/-- An attribute value, told apart by its Python class. -/
inductive AnyValue where
  | str (s : String)
  | bool (b : Bool)
  | int (n : Int)
  | float (x : Binary64)
  | bytes (b : Bytes)
  | sequence (vs : List AnyValue)
  | mapping (items : List (String × AnyValue))
  /-- Any other object, by the repr of its type. -/
  | other (type : String)

/-- `Mapping[str, AnyValue]`. -/
abbrev Attributes := List (String × AnyValue)

/-- The entity producing telemetry. -/
structure Resource where
  attributes : Attributes := []
  droppedAttributesCount : Int := 0

/-- The library or component that emitted a signal. -/
structure InstrumentationScope where
  name : String
  version : Option String := none
  attributes : Attributes := []

end OtlpClient
