import OtlpClient.Encoding.Json
import OtlpClient.Encoding.Protobuf
import OtlpClient.Errors
import OtlpClient.Model.Depth
import OtlpClient.Model.Leaves
import OtlpClient.Proto.Depth
import OtlpClient.Proto.Text

/-!
# Encoding — payloads

What the two encoders are given for a signal, and what they make of it.  `JSONEncoder.encode` has
the document written by the `_dumps` of whichever library is installed.  A float that is not finite
has no RFC 8259 literal: `json.dumps` writes a bare word for it and `orjson` writes `null`.  An int
has to be one the library writes: `json.dumps` goes by `str`, and `orjson` stops at 64 bits.
`orjson` and `SerializeToString` are not in the repository: each is a parameter, with the levels of
nesting it writes, and no more.
-/

namespace OtlpClient

open Proto

/-- The token `json.dumps` writes for a float, with its default `allow_nan`. -/
def stdlibFloat (x : Binary64) : Token :=
  if x.IsFinite then .float x
  else .bare (if x.isNaN then "NaN" else if x.negative then "-Infinity" else "Infinity")

/-- The token `orjson.dumps` writes for a float. -/
def orjsonFloat (x : Binary64) : Token := if x.IsFinite then .float x else .null

/-- `orjson.dumps`: it writes an int of 64 bits only, and lists and dicts no deeper than a number of
levels, 254 or 255 by its version. -/
structure Orjson where
  dumps : Json → Except PyError (List Token)
  /-- The levels it writes. -/
  levels : Nat
  /-- The levels of an empty list or dict, which not every version counts. -/
  empty : Nat
  text : ∀ {doc ts}, dumps doc = .ok ts → ts = doc.write orjsonFloat
  returns : ∀ doc, Yields (dumps doc) (fun _ => True) ↔
    (∀ n ∈ doc.ints, -2 ^ 63 ≤ n ∧ n < 2 ^ 64) ∧ doc.depth empty ≤ levels
  levels_ge : 254 ≤ levels
  empty_le : empty ≤ 1

/-- A version that writes 254 levels and counts the empty ones. -/
def Orjson.counting : Orjson where
  dumps doc :=
    if ¬ doc.depth 1 ≤ 254 then .error (.typeError "Recursion limit reached")
    else if ∀ n ∈ doc.ints, -2 ^ 63 ≤ n ∧ n < 2 ^ 64 then .ok (doc.write orjsonFloat)
    else .error (.typeError "Integer exceeds 64-bit range")
  levels := 254
  empty := 1
  text := by
    intro doc ts h
    split at h
    · cases h
    · split at h
      · exact (Except.ok.inj h).symm
      · cases h
  returns := by
    intro doc
    split
    · rename_i hdeep
      exact iff_of_false yields_error fun h => hdeep h.2
    · rename_i hdeep
      split
      · rename_i hints
        exact iff_of_true (yields_ok.mpr trivial) ⟨hints, not_not.mp hdeep⟩
      · rename_i hints
        exact iff_of_false yields_error fun h => hints h.1
  levels_ge := Nat.le_refl 254
  empty_le := Nat.le_refl 1

instance : Inhabited Orjson := ⟨.counting⟩

/-- The library behind `_dumps`. -/
inductive Dumper where
  | stdlib
  | orjson (lib : Orjson)

namespace Dumper

def float : Dumper → Binary64 → Token
  | .stdlib => stdlibFloat
  | .orjson _ => orjsonFloat

/-- The ints `_dumps` writes. -/
def Writes : Dumper → Int → Prop
  | .stdlib, n => IsPrintable n
  | .orjson _, n => -2 ^ 63 ≤ n ∧ n < 2 ^ 64

instance (d : Dumper) (n : Int) : Decidable (d.Writes n) := by
  cases d <;> unfold Writes <;> infer_instance

/-- The text of a document that is written. -/
def text (d : Dumper) (doc : Json) : List Token := doc.write d.float

/-- `_dumps`. -/
def dumps : Dumper → Json → Except PyError (List Token)
  | .stdlib, doc =>
      if ∀ n ∈ doc.ints, IsPrintable n then .ok (doc.write stdlibFloat)
      else .error (.valueError "Exceeds the limit (4300 digits) for integer string conversion")
  | .orjson lib, doc => lib.dumps doc

/-- The document is nested no deeper than the library writes. -/
def Holds : Dumper → Json → Prop
  | .stdlib, _ => True
  | .orjson lib, doc => doc.depth lib.empty ≤ lib.levels

variable {d : Dumper} {doc : Json}

/-- `_dumps` returns the text of the document. -/
theorem eq_text_of_dumps {ts : List Token} (h : d.dumps doc = .ok ts) : ts = d.text doc := by
  cases d with
  | orjson lib => exact lib.text h
  | stdlib =>
      unfold dumps at h
      dsimp only at h
      split at h
      · exact (Except.ok.inj h).symm
      · cases h

/-- `_dumps` returns where it writes the ints and the levels. -/
theorem dumps_yields :
    Yields (d.dumps doc) (fun _ => True) ↔ (∀ n ∈ doc.ints, d.Writes n) ∧ d.Holds doc := by
  cases d with
  | orjson lib => exact lib.returns doc
  | stdlib =>
      unfold dumps
      dsimp only
      split
      · rename_i h
        exact iff_of_true (yields_ok.mpr trivial) ⟨h, trivial⟩
      · rename_i h
        exact iff_of_false yields_error fun hw => h hw.1

end Dumper

/-- `SerializeToString` of the installed protobuf: it writes a message nested no deeper than a
number of levels, 100 in `upb`, and raises `EncodeError` at any other.  Not every implementation has
a limit. -/
structure Serializer where
  serialize : Value → Except Exn Bytes
  /-- The levels it writes. -/
  levels : Option Nat
  returns : ∀ v, Yields (serialize v) (fun _ => True) ↔ ∀ n ∈ levels, v.depth ≤ n
  levels_ge : ∀ n ∈ levels, 100 ≤ n

/-- The limit of `upb`, without its bytes. -/
instance : Inhabited Serializer where
  default :=
    { serialize := fun v =>
        if v.depth ≤ 100 then .ok [] else .error (.other "EncodeError" "Failed to serialize proto")
      levels := some 100
      returns := by
        intro v
        split
        · rename_i h
          exact iff_of_true (yields_ok.mpr trivial) (by simpa using h)
        · rename_i h
          exact iff_of_false yields_error (by simpa using h)
      levels_ge := by simp }

/-- What `encode` is given for a signal; there is no model of a profile. -/
def Payload : SignalKind → Type
  | .metrics => List ResourceMetrics
  | .logs => List ResourceLogs
  | .traces => List ResourceSpans
  | .profiles => Unit

/-- The document of a payload. -/
def document : (kind : SignalKind) → Payload kind → Except PyError Json
  | .metrics, data => encodeResourceMetrics data
  | .logs, data => encodeResourceLogs data
  | .traces, data => encodeResourceSpans data
  | .profiles, _ => throw (.notImplementedError
      "the profiles signal is still in development and is not encoded yet")

/-- `JSONEncoder.encode`. -/
def JSONEncoder.encode (d : Dumper) (kind : SignalKind) (data : Payload kind) :
    Except PyError (List Token) := do
  d.dumps (← document kind data)

/-- The request message of a payload. -/
def requestMessage : (kind : SignalKind) → Payload kind → Except PyError Value
  | .metrics, data => Protobuf.encodeMetrics data
  | .logs, data => Protobuf.encodeLogs data
  | .traces, data => Protobuf.encodeTraces data
  | .profiles, _ => throw (.notImplementedError
      "the profiles signal is still in development and is not encoded yet")

/-- `ProtobufEncoder.encode`. -/
def ProtobufEncoder.encode (s : Serializer) (kind : SignalKind) (data : Payload kind) :
    Except Exn Bytes :=
  match requestMessage kind data with
  | .ok message => s.serialize message
  | .error e => .error (.builtin e)

/-- The levels a payload takes. -/
def Payload.depth (c : Levels) : {kind : SignalKind} → Payload kind → Nat
  | .metrics, (data : List ResourceMetrics) => 1 + c.field (ResourceMetrics.depth c) data
  | .logs, (data : List ResourceLogs) => 1 + c.field (ResourceLogs.depth c) data
  | .traces, (data : List ResourceSpans) => 1 + c.field (ResourceSpans.depth c) data
  | .profiles, _ => 0

/-- The payload is nested no deeper than the library writes. -/
def Dumper.Nests (d : Dumper) {kind : SignalKind} (data : Payload kind) : Prop :=
  match d with
  | .stdlib => True
  | .orjson lib => data.depth (.json lib.empty) ≤ lib.levels

/-- The same of protobuf. -/
def Serializer.Nests (s : Serializer) {kind : SignalKind} (data : Payload kind) : Prop :=
  ∀ n ∈ s.levels, data.depth .protobuf ≤ n

/-- A payload of one of the three signals, each tree of it well typed. -/
def Payload.WellTyped (F : Binary64 → Prop) : {kind : SignalKind} → Payload kind → Prop
  | .metrics, (data : List ResourceMetrics) => ∀ rm ∈ data, rm.WellTyped F
  | .logs, (data : List ResourceLogs) => ∀ rl ∈ data, rl.WellTyped F
  | .traces, (data : List ResourceSpans) => ∀ rs ∈ data, rs.WellTyped F
  | .profiles, _ => False

def Payload.leaves : {kind : SignalKind} → Payload kind → List Leaf
  | .metrics, data => List.flatMap ResourceMetrics.leaves data
  | .logs, data => List.flatMap ResourceLogs.leaves data
  | .traces, data => List.flatMap ResourceSpans.leaves data
  | .profiles, _ => []

theorem Payload.WellTyped.leaves {F : Binary64 → Prop} {kind : SignalKind} {data : Payload kind}
    (h : data.WellTyped F) : ∀ l ∈ data.leaves, l.InRange := by
  cases kind with
  | metrics =>
      exact List.forall_mem_flatMap.mpr fun rm hrm => ResourceMetrics.WellTyped.leaves (h rm hrm)
  | logs =>
      exact List.forall_mem_flatMap.mpr fun rl hrl => ResourceLogs.WellTyped.leaves (h rl hrl)
  | traces =>
      exact List.forall_mem_flatMap.mpr fun rs hrs => ResourceSpans.WellTyped.leaves (h rs hrs)
  | profiles => exact nofun

end OtlpClient
