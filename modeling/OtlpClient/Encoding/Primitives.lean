import OtlpClient.Model.Common
import OtlpClient.Proto.Json
import OtlpClient.Support.Numerals

/-!
# Encoding — primitive rules

`encoding/primitives.py`: 64-bit integers are decimal strings, ids are hex, other bytes are
base64, and absent fields are dropped.
-/

namespace OtlpClient

open Proto

/-- `str(value)`. -/
def u64 (value : Int) : Except PyError String :=
  if value.natAbs < 10 ^ maxStrDigits then .ok value.repr
  else .error (.valueError "Exceeds the limit (4300 digits) for integer string conversion")

/-- `str` writes the int. -/
def IsPrintable (n : Int) : Prop := n.natAbs < 10 ^ maxStrDigits

instance (n : Int) : Decidable (IsPrintable n) := inferInstanceAs (Decidable (_ < _))

/-- Every int of 64 bits is short enough for `str`. -/
theorem printable_of_le {n : Int} (h : n.natAbs ≤ 2 ^ 64) : IsPrintable n :=
  calc n.natAbs ≤ 2 ^ 64 := h
    _ < 10 ^ 20 := by decide
    _ ≤ 10 ^ maxStrDigits := Nat.pow_le_pow_right (by decide) (by decide)

/-- `value.hex()`. -/
def hexId (value : Bytes) : String := String.ofList (hexChars value)

/-- `base64.b64encode(value).decode("ascii")`. -/
def b64 (value : Bytes) : String := String.ofList (b64Chars value)

mutual
/-- One `AnyValue`.  A bool is told from an int by its class before an int is. -/
def encodeAnyValue : AnyValue → Except PyError Json
  | .bool value => return .obj [("boolValue", .bool value)]
  | .int value => return .obj [("intValue", .str (← u64 value))]
  | .float value => return .obj [("doubleValue", .float value)]
  | .str value => return .obj [("stringValue", .str value)]
  | .bytes value => return .obj [("bytesValue", .str (b64 value))]
  | .mapping items =>
      return .obj [("kvlistValue", .obj [("values", .arr (← encodeAttributes items))])]
  | .sequence vs => return .obj [("arrayValue", .obj [("values", .arr (← encodeAnyValues vs))])]
  | .other type => throw (.typeError ("unsupported attribute value type: " ++ type))

/-- `[encode_any_value(v) for v in value]`. -/
def encodeAnyValues : List AnyValue → Except PyError (List Json)
  | [] => return []
  | v :: vs => return (← encodeAnyValue v) :: (← encodeAnyValues vs)

/-- An attribute mapping, as a `KeyValue` list. -/
def encodeAttributes : List (String × AnyValue) → Except PyError (List Json)
  | [] => return []
  | item :: items => return (← encodeKeyValue item) :: (← encodeAttributes items)

def encodeKeyValue : String × AnyValue → Except PyError Json
  | (key, value) => return .obj [("key", .str key), ("value", ← encodeAnyValue value)]
end

/-- Drop absent fields: `None`, empty strings, empty containers.  Zero and `False` are kept. -/
def omitEmpty (obj : List (String × Json)) : Json :=
  .obj (obj.filter fun kv => !kv.2.isEmpty)

/-- `x or None` at an int. -/
def orNone (x : Int) : Json := if x = 0 then .null else .int x

/-- A field that may be `None`. -/
def optional {α : Type} (f : α → Json) (x : Option α) : Json := (x.map f).getD .null

end OtlpClient
