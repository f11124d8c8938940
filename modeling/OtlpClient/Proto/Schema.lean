import Mathlib.Data.Option.Basic
import OtlpClient.Proto.Json
import OtlpClient.Support.Python

/-!
# Proto — messages, their constructors, and the proto3 JSON mapping

A schema gives each message type its fields.  A message is the list of the fields that are *set*,
in the schema's order, so two messages are equal only when they agree on presence: an
`implicit` field holding its default is not set, an `explicit` or `oneof` field is set whenever
it was given a value.

* `Schema.construct` is the message class called with keyword arguments: `None` leaves a field
  unset, an integer outside its field's range raises.
* `readValue` is the proto3 JSON mapping: null is an absent field, 64-bit integers are decimal
  strings or numbers, bytes are base64, and the `id` fields of the deviation OTLP documents are
  hex.  Unknown keys, repeated keys and two members of one oneof are refused.

Both end in `Schema.seal`, so a document and a constructor call that agree field by field give
one message (`Agree.lean`).
-/

namespace OtlpClient.Proto

/-- The type of a field, over the message types `M`. -/
inductive FieldType (M : Type) where
  | double
  | bool
  | string
  | bytes
  /-- `bytes` written in hex. -/
  | id
  | int32
  | uint32
  | int64
  | uint64
  | enum
  | message (m : M)
  deriving DecidableEq

/-- When a field counts as set. -/
inductive Label where
  | implicit
  | explicit
  | oneof (group : String)
  | repeated
  deriving DecidableEq

structure FieldDesc (M : Type) where
  name : String
  jsonName : String
  type : FieldType M
  label : Label
  deriving DecidableEq

/-- The fields of each message type, in order. -/
abbrev Schema (M : Type) := M → List (FieldDesc M)

/-- A value a field can hold; a message is its set fields. -/
inductive Value where
  | double (x : Binary64)
  | bool (b : Bool)
  | str (s : String)
  | bytes (b : Bytes)
  | int (n : Int)
  | list (vs : List Value)
  | msg (fields : List (String × Value))

/-- What an unset field reads as; a message has no default. -/
def Value.isDefault : Value → Bool
  | .double x => x == .posZero
  | .bool b => !b
  | .str s => s == ""
  | .bytes b => b.isEmpty
  | .int n => n == 0
  | .list vs => vs.isEmpty
  | .msg _ => false

variable {M : Type}

/-- The integers a field type holds. -/
def FieldType.inRange : FieldType M → Int → Bool
  | .int32, n | .enum, n => decide (-2 ^ 31 ≤ n) && decide (n < 2 ^ 31)
  | .uint32, n => decide (0 ≤ n) && decide (n < 2 ^ 32)
  | .int64, n => decide (-2 ^ 63 ≤ n) && decide (n < 2 ^ 63)
  | .uint64, n => decide (0 ≤ n) && decide (n < 2 ^ 64)
  | _, _ => false

/-- `v` is a value of the type. -/
def FieldType.holds : FieldType M → Value → Bool
  | .double, .double _ | .bool, .bool _ | .string, .str _ | .bytes, .bytes _ | .id, .bytes _ => true
  | .message _, .msg _ => true
  | t, .int n => t.inRange n
  | _, _ => false

/-- A value as its field keeps it: an implicit or repeated field drops its default. -/
def FieldDesc.store (f : FieldDesc M) (v : Value) : Option Value :=
  match f.label with
  | .implicit | .repeated => if v.isDefault then none else some v
  | .explicit | .oneof _ => some v

/-! ### Constructors -/

/-- One keyword argument of a message class. -/
def FieldDesc.set (f : FieldDesc M) : Option Value → Except PyError (Option Value)
  | none => .ok none
  | some v =>
      match f.label, v with
      | .repeated, .list vs =>
          if vs.all f.type.holds then .ok (f.store v) else .error (.valueError f.name)
      | .repeated, _ => .error (.typeError f.name)
      | _, v => if f.type.holds v then .ok (f.store v) else .error (.valueError f.name)

/-- The oneof a field belongs to, if it is set. -/
def FieldDesc.oneof? (f : FieldDesc M) (v : Option Value) : Option String :=
  match f.label, v with
  | .oneof g, some _ => some g
  | _, _ => none

/-- The message of the given fields; none if two members of a oneof are set. -/
def Schema.seal (fs : List (FieldDesc M)) (vs : List (Option Value)) : Option Value :=
  if (List.zipWith FieldDesc.oneof? fs vs).reduceOption.Nodup then
    some (.msg (List.zipWith (fun f v => v.map (f.name, ·)) fs vs).reduceOption)
  else none

/-- The message class called with keyword arguments.  A second member of a oneof is refused;
no encoder passes one. -/
def Schema.construct (S : Schema M) (m : M) (kwargs : List (String × Option Value)) :
    Except PyError Value := do
  if kwargs.any fun kw => !(S m).any fun f => f.name == kw.1 then
    throw (.valueError "unknown field")
  let vs ← (S m).mapM fun f => f.set (kwargs.lookup f.name).join
  match Schema.seal (S m) vs with
  | some v => return v
  | none => throw (.valueError "oneof")

/-! ### The JSON mapping -/

/-- A double: a finite number, or one of the three strings.  (A number without a fraction is left
out: it would be read as the double nearest to it.) -/
def readDouble : Json → Option Binary64
  | .float x => if x.IsFinite then some x else none
  | .str s =>
      if s = "NaN" then some .nan
      else if s = "Infinity" then some .inf
      else if s = "-Infinity" then some .negInf
      else none
  | _ => none

/-- An integer: a number, or a decimal string. -/
def readInt : Json → Option Int
  | .int n => some n
  | .str s => decimal? s
  | _ => none

def readString : Json → Option String
  | .str s => some s
  | _ => none

/-- A value of any type but a message. -/
def readScalar : FieldType M → Json → Option Value
  | .double, j => (readDouble j).map .double
  | .bool, .bool b => some (.bool b)
  | .bool, _ => none
  | .string, j => (readString j).map .str
  | .bytes, j => ((readString j).bind unb64?).map .bytes
  | .id, j => ((readString j).bind unhex?).map .bytes
  | .message _, _ => none
  | t, j => ((readInt j).filter t.inRange).map .int

/-- What the entries of an object give to each field; every key must be a field's, and no key
may come twice. -/
def assemble (fs : List (FieldDesc M))
    (entries : List (String × (FieldDesc M → Option (Option Value)))) : Option Value := do
  guard ((entries.map Prod.fst).Nodup ∧
    ∀ k ∈ entries.map Prod.fst, k ∈ fs.map FieldDesc.jsonName)
  let vs ← fs.mapM fun f => ((entries.lookup f.jsonName).map (· f)).getD (some none)
  Schema.seal fs vs

mutual
/-- A JSON value read as a value of a field type. -/
def readValue (S : Schema M) : FieldType M → Json → Option Value
  | .message m, .obj kvs => assemble (S m) (readEntries S kvs)
  | t, j => readScalar t j

def readList (S : Schema M) : FieldType M → List Json → Option (List Value)
  | _, [] => some []
  | t, j :: js => do return (← readValue S t j) :: (← readList S t js)

def readEntries (S : Schema M) :
    List (String × Json) → List (String × (FieldDesc M → Option (Option Value)))
  | [] => []
  | kv :: kvs => readEntry S kv :: readEntries S kvs

/-- An entry, as a function of the field its key names. -/
def readEntry (S : Schema M) : String × Json → String × (FieldDesc M → Option (Option Value))
  | (k, .null) => (k, fun _ => some none)
  | (k, .arr js) => (k, fun f =>
      if f.label = .repeated then (readList S f.type js).map fun vs => f.store (.list vs) else none)
  | (k, j) => (k, fun f =>
      if f.label = .repeated then none else (readValue S f.type j).map f.store)
end

/-- The value of a key, as its field keeps it: null is absent, a list is a repeated field. -/
def readField (S : Schema M) (f : FieldDesc M) : Json → Option (Option Value)
  | .null => some none
  | .arr js =>
      if f.label = .repeated then (js.mapM (readValue S f.type)).map fun vs => f.store (.list vs)
      else none
  | j => if f.label = .repeated then none else (readValue S f.type j).map f.store

theorem readList_eq (S : Schema M) (t : FieldType M) (js : List Json) :
    readList S t js = js.mapM (readValue S t) := by
  induction js with
  | nil => rfl
  | cons j js ih => simp only [readList, ih, List.mapM_cons]

theorem readEntry_eq (S : Schema M) (k : String) (j : Json) :
    readEntry S (k, j) = (k, fun f => readField S f j) := by
  cases j <;> simp [readEntry, readField, readList_eq]

theorem readEntries_eq (S : Schema M) (kvs : List (String × Json)) :
    readEntries S kvs = kvs.map fun kv => (kv.1, fun f => readField S f kv.2) := by
  induction kvs with
  | nil => rfl
  | cons kv kvs ih =>
      obtain ⟨k, j⟩ := kv
      rw [readEntries, readEntry_eq, ih, List.map_cons]

/-- A field whose key may be missing. -/
def readOpt (S : Schema M) (f : FieldDesc M) (j : Option Json) : Option (Option Value) :=
  (j.map (readField S f)).getD (some none)

/-- An object read as a message: its keys are fields', none twice, and each field reads what its
key holds. -/
theorem readValue_message (S : Schema M) (m : M) (kvs : List (String × Json)) :
    readValue S (.message m) (.obj kvs) = (do
      guard ((kvs.map Prod.fst).Nodup ∧ ∀ k ∈ kvs.map Prod.fst, k ∈ (S m).map FieldDesc.jsonName)
      let vs ← (S m).mapM fun f => readOpt S f (kvs.lookup f.jsonName)
      Schema.seal (S m) vs) := by
  have hf : (kvs.map fun kv => (kv.1, fun f => readField S f kv.2)).map Prod.fst =
      kvs.map Prod.fst := by simp
  have hl : ∀ f : FieldDesc M, ((((kvs.map fun kv => (kv.1, fun f => readField S f kv.2)).lookup
      f.jsonName).map (· f)).getD (some none)) = readOpt S f (kvs.lookup f.jsonName) := fun f => by
    rw [lookup_map (fun j => fun f => readField S f j), Option.map_map]
    rfl
  rw [readValue, assemble, readEntries_eq, hf]
  simp only [hl]

theorem readValue_scalar (S : Schema M) {t : FieldType M} (ht : ∀ m, t ≠ .message m) (j : Json) :
    readValue S t j = readScalar t j := by
  cases t with
  | message m => exact absurd rfl (ht m)
  | _ => cases j <;> simp [readValue]

end OtlpClient.Proto
