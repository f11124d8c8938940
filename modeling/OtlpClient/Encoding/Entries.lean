import Mathlib.Data.List.Forall2
import OtlpClient.Encoding.Json
import OtlpClient.Encoding.Protobuf
import OtlpClient.Model.WellTyped
import OtlpClient.Proto.Agree
import OtlpClient.Support.Raising

/-!
# Encoding — entries and arguments

`Encodes t j v` says that a document builder and a message builder both return, and that the
document reads as the value.  The rules here are for the entries of a dict: an entry survives
`omit_empty` exactly when the message has something in the field (`Keeps`).

* `keeps_*`: one rule a way of writing an entry.
* `unlessEmpty_keeps`: a nested message that `omit_empty` drops when its dict is empty, and that
  the other encoder leaves unset by a test of its own.
* `anyValue_encodes`, `attributes_encode`: attribute values of any depth.
-/

namespace OtlpClient

open Proto

/-- Both builders return, and the document reads as the value. -/
def Encodes (t : FieldType Msg) (j : Except PyError Json) (v : Except PyError Value) : Prop :=
  ∃ doc val, j = .ok doc ∧ v = .ok val ∧ Reads otlp t doc val

/-- Both lists are built, and the documents read as the values. -/
def EncodesList (t : FieldType Msg) (js : Except PyError (List Json))
    (vs : Except PyError (List Value)) : Prop :=
  ∃ docs vals, js = .ok docs ∧ vs = .ok vals ∧ List.Forall₂ (Reads otlp t) docs vals

/-- What is left of an entry of a dict whose empty entries are dropped agrees with the argument. -/
abbrev Keeps (f : FieldDesc Msg) (j : Json) (a : Option Value) : Prop :=
  Agrees otlp f ((some j).filter fun j => !j.isEmpty) a

theorem Encodes.ok {t : FieldType Msg} {j : Json} {v : Value} (h : Reads otlp t j v) :
    Encodes t (.ok j) (.ok v) :=
  ⟨j, v, rfl, rfl, h⟩

theorem Encodes.of_ok {t : FieldType Msg} {j : Json} {v : Except PyError Value}
    (h : Encodes t (.ok j) v) : ∃ val, v = .ok val ∧ Reads otlp t j val := by
  obtain ⟨doc, val, hdoc, hval, hr⟩ := h
  cases hdoc
  exact ⟨val, hval, hr⟩

/-! ### Dicts and lists -/

theorem Encodes.dict {m : Msg} {kvs : List (String × Json)}
    {kwargs : List (String × Option Value)}
    (h : ∀ f ∈ otlp m, Agrees otlp f (kvs.lookup f.jsonName) (argument kwargs f))
    (hone : Exclusive otlp m kwargs)
    (hkeyed : decide (Keyed otlp m (kvs.map Prod.fst) (kwargs.map Prod.fst)) = true) :
    Encodes (.message m) (.ok (.obj kvs)) (otlp.construct m kwargs) := by
  obtain ⟨v, hv, hr⟩ := construct_reads (of_decide_eq_true hkeyed) hone h
  exact ⟨_, v, rfl, hv, hr⟩

theorem Encodes.sparse {m : Msg} {kvs : List (String × Json)}
    {kwargs : List (String × Option Value)}
    (h : ∀ f ∈ otlp m, Agrees otlp f ((kvs.lookup f.jsonName).filter fun j => !j.isEmpty)
      (argument kwargs f))
    (hone : Exclusive otlp m kwargs)
    (hkeyed : decide (Keyed otlp m (kvs.map Prod.fst) (kwargs.map Prod.fst)) = true) :
    Encodes (.message m) (.ok (omitEmpty kvs)) (otlp.construct m kwargs) := by
  obtain ⟨v, hv, hr⟩ := construct_reads_sparse (of_decide_eq_true hkeyed) hone h
  exact ⟨_, v, rfl, hv, hr⟩

/-- No two fields of an OTLP message share a name or a key. -/
theorem otlp_distinct : ∀ m, Distinct otlp m := by
  intro m
  cases m <;> decide

theorem Encodes.single (m : Msg) (f : FieldDesc Msg) (hf : f ∈ otlp m) {j : Json} {v : Value}
    (h : Agrees otlp f (some j) (some v)) :
    Encodes (.message m) (.ok (.obj [(f.jsonName, j)]))
      (otlp.construct m [(f.name, some v)]) := by
  obtain ⟨w, hw, hr⟩ := construct_reads_single (otlp_distinct m) hf h
  exact ⟨_, w, rfl, hw, hr⟩

theorem EncodesList.nil {t : FieldType Msg} : EncodesList t (.ok []) (.ok []) :=
  ⟨[], [], rfl, rfl, .nil⟩

theorem EncodesList.cons {t : FieldType Msg} {j : Except PyError Json} {v : Except PyError Value}
    {js : Except PyError (List Json)} {vs : Except PyError (List Value)} (h : Encodes t j v)
    (hs : EncodesList t js vs) :
    EncodesList t (do return (← j) :: (← js)) (do return (← v) :: (← vs)) := by
  obtain ⟨doc, val, rfl, rfl, hr⟩ := h
  obtain ⟨docs, vals, rfl, rfl, hrs⟩ := hs
  exact ⟨doc :: docs, val :: vals, rfl, rfl, .cons hr hrs⟩

theorem EncodesList.mapM {t : FieldType Msg} {α : Type} {f : α → Except PyError Json}
    {g : α → Except PyError Value} {xs : List α} (h : ∀ x ∈ xs, Encodes t (f x) (g x)) :
    EncodesList t (xs.mapM f) (xs.mapM g) := by
  induction xs with
  | nil => exact EncodesList.nil
  | cons x xs ih =>
      rw [List.mapM_cons, List.mapM_cons]
      exact EncodesList.cons (h x List.mem_cons_self)
        (ih fun y hy => h y (List.mem_cons_of_mem _ hy))

/-- A builder that cannot raise. -/
theorem EncodesList.map {t : FieldType Msg} {α : Type} {f : α → Json}
    {g : α → Except PyError Value} {xs : List α} (h : ∀ x ∈ xs, Encodes t (.ok (f x)) (g x)) :
    ∃ vals, xs.mapM g = .ok vals ∧ List.Forall₂ (Reads otlp t) (xs.map f) vals := by
  obtain ⟨docs, vals, hdocs, hvals, hr⟩ := EncodesList.mapM h
  have hm : xs.mapM (fun x => Except.ok (f x)) = (.ok (xs.map f) : Except PyError (List Json)) :=
    List.mapM_pure
  rw [hm] at hdocs
  cases hdocs
  exact ⟨vals, hvals, hr⟩

theorem forall₂_map {t : FieldType Msg} {α : Type} {f : α → Json} {g : α → Value} {xs : List α}
    (h : ∀ x ∈ xs, Reads otlp t (f x) (g x)) :
    List.Forall₂ (Reads otlp t) (xs.map f) (xs.map g) := by
  rw [List.forall₂_map_left_iff, List.forall₂_map_right_iff, List.forall₂_same]
  exact h

/-! ### Scalars -/

/-- Every integer of a proto field is short enough for `str`. -/
theorem u64_eq {n : Int} (h : n.natAbs ≤ 2 ^ 64) : u64 n = .ok n.repr :=
  if_pos (printable_of_le h)

theorem IsUint64.u64 {n : Int} (h : IsUint64 n) : u64 n = .ok n.repr := by
  obtain ⟨h₁, h₂⟩ := h
  exact u64_eq (by omega)

theorem IsInt64.u64 {n : Int} (h : IsInt64 n) : OtlpClient.u64 n = .ok n.repr := by
  obtain ⟨h₁, h₂⟩ := h
  exact u64_eq (by omega)

/-- The integer types. -/
theorem reads_int {t : FieldType Msg} {j : Json} {n : Int} (hj : readInt j = some n)
    (hn : t.inRange n = true) : Reads otlp t j (.int n) := by
  refine ⟨?_, ?_⟩
  · rw [readValue_scalar otlp (by rintro m rfl; cases hn)]
    cases t <;> first | cases hn | simp [readScalar, hj, hn]
  · cases t <;> first | cases hn | exact hn

theorem reads_repr {t : FieldType Msg} {n : Int} (hn : t.inRange n = true) :
    Reads otlp t (.str n.repr) (.int n) :=
  reads_int (decimal?_repr n) hn

theorem reads_str {s : String} : Reads otlp .string (.str s) (.str s) := ⟨rfl, rfl⟩

theorem reads_bool {b : Bool} : Reads otlp .bool (.bool b) (.bool b) := ⟨rfl, rfl⟩

theorem reads_double {x : Binary64} (h : x.IsFinite) :
    Reads otlp .double (.float x) (.double x) :=
  ⟨by simp [readValue, readScalar, readDouble, h], rfl⟩

theorem reads_hexId {b : Bytes} : Reads otlp .id (.str (hexId b)) (.bytes b) :=
  ⟨by simp [readValue, readScalar, readString, hexId], rfl⟩

theorem reads_b64 {b : Bytes} : Reads otlp .bytes (.str (b64 b)) (.bytes b) :=
  ⟨by simp [readValue, readScalar, readString, b64], rfl⟩

theorem IsInt32.inRange {n : Int} (h : IsInt32 n) :
    (FieldType.int32 : FieldType Msg).inRange n = true := by
  simpa [FieldType.inRange, IsInt32] using h

theorem IsUint32.inRange {n : Int} (h : IsUint32 n) :
    (FieldType.uint32 : FieldType Msg).inRange n = true := by
  simpa [FieldType.inRange, IsUint32] using h

theorem IsInt64.inRange {n : Int} (h : IsInt64 n) :
    (FieldType.int64 : FieldType Msg).inRange n = true := by
  simpa [FieldType.inRange, IsInt64] using h

theorem IsUint64.inRange {n : Int} (h : IsUint64 n) :
    (FieldType.uint64 : FieldType Msg).inRange n = true := by
  simpa [FieldType.inRange, IsUint64] using h

/-! ### Entries -/

section Entries

variable {name key : String} {t : FieldType Msg}

/-- A 64-bit integer, as a string. -/
theorem keeps_u64 {n : Int} (h : IsUint64 n) :
    Keeps ⟨name, key, .uint64, .implicit⟩ (.str n.repr) (some (.int n)) :=
  Agrees.filled (reads_repr h.inRange) (by simp [repr_ne_empty]) nofun

/-- The integer member of a measurement. -/
theorem keeps_asInt {n : Int} {g : String} (h : IsInt64 n) :
    Keeps ⟨name, key, .int64, .oneof g⟩ (.str n.repr) (some (.int n)) :=
  Agrees.filled (reads_repr h.inRange) (by simp [repr_ne_empty]) nofun

/-- The float member of a measurement. -/
theorem keeps_asDouble {x : Binary64} {g : String} (h : x.IsFinite) :
    Keeps ⟨name, key, .double, .oneof g⟩ (.float x) (some (.double x)) :=
  Agrees.filled (reads_double h) rfl nofun

/-- `x or None`. -/
theorem keeps_orNone {n : Int} (h : t.inRange n = true) :
    Keeps ⟨name, key, t, .implicit⟩ (orNone n) (some (.int n)) := by
  unfold orNone
  split
  · rename_i hn
    subst hn
    exact Agrees.default rfl (reads_int (j := .int 0) rfl h).holds rfl
  · exact Agrees.filled (reads_int rfl h) rfl nofun

theorem keeps_str {s : String} :
    Keeps ⟨name, key, .string, .implicit⟩ (.str s) (some (.str s)) :=
  Agrees.sparse reads_str rfl fun h => by simpa [Value.isDefault] using h

/-- A string that may be `None`. -/
theorem keeps_optional_str {s : Option String} :
    Keeps ⟨name, key, .string, .implicit⟩ (optional .str s) (some (.str (s.getD ""))) := by
  cases s with
  | none => exact Agrees.default rfl rfl rfl
  | some s => exact keeps_str

theorem hexId_eq_empty {b : Bytes} : hexId b = "" ↔ b = [] := by
  rw [← hexChars_eq_nil, hexId, ← String.toList_inj, String.toList_ofList]
  exact Iff.rfl

theorem keeps_hexId {b : Bytes} :
    Keeps ⟨name, key, .id, .implicit⟩ (.str (hexId b)) (some (.bytes b)) :=
  Agrees.sparse reads_hexId rfl fun h => by
    simpa [Value.isDefault, hexId_eq_empty] using h

/-- An id that may be `None`. -/
theorem keeps_optHexId {b : Option Bytes} :
    Keeps ⟨name, key, .id, .implicit⟩ (optHexId b) (some (.bytes (b.getD []))) := by
  rcases b with _ | _ | ⟨x, b⟩
  · exact Agrees.default rfl rfl rfl
  · exact Agrees.default rfl rfl rfl
  · exact keeps_hexId

/-- An optional double. -/
theorem keeps_optional_double {x : Option Binary64} (h : ∀ y ∈ x, y.IsFinite) :
    Keeps ⟨name, key, .double, .explicit⟩ (optional .float x) (x.map .double) := by
  cases x with
  | none => exact Agrees.absent
  | some x => exact Agrees.filled (reads_double (h x rfl)) rfl nofun

/-- A double of implicit presence: the copysign test keeps all but `+0.0`. -/
theorem keeps_keepDouble {x : Binary64} (h : x.IsFinite) :
    Keeps ⟨name, key, .double, .implicit⟩ (keepDouble x) (some (.double x)) := by
  unfold keepDouble
  split
  · exact Agrees.filled (reads_double h) rfl nofun
  · rename_i hx
    rw [Binary64.ne_posZero_iff, Classical.not_not] at hx
    subst hx
    exact Agrees.default rfl rfl rfl

/-- A time that may be `None`: absent, and the default of the field. -/
theorem optU64_keeps {n : Option Int} (h : ∀ k ∈ n, IsUint64 k) :
    ∃ j, optU64 n = .ok j ∧
      Keeps ⟨name, key, .uint64, .implicit⟩ j (some (.int (n.getD 0))) := by
  cases n with
  | none => exact ⟨.null, rfl, Agrees.default rfl rfl rfl⟩
  | some n =>
      refine ⟨.str n.repr, ?_, keeps_u64 (h n rfl)⟩
      rw [optU64, (h n rfl).u64]
      rfl

/-- A list of 64-bit integers, as strings. -/
theorem encodeCounts_eq {counts : List Int} (h : ∀ c ∈ counts, IsUint64 c) :
    encodeCounts counts = .ok (.arr (counts.map fun c => .str c.repr)) := by
  have hm : counts.mapM (fun c => do return Json.str (← u64 c)) =
      .ok (counts.map fun c => .str c.repr) := by
    induction counts with
    | nil => rfl
    | cons c counts ih =>
        rw [List.mapM_cons, ih fun c' hc' => h c' (List.mem_cons_of_mem _ hc'),
          (h c List.mem_cons_self).u64]
        rfl
  rw [encodeCounts, hm]
  rfl

theorem keeps_counts {counts : List Int} (h : ∀ c ∈ counts, IsUint64 c) :
    Keeps ⟨name, key, .uint64, .repeated⟩ (.arr (counts.map fun c => .str c.repr))
      (some (Protobuf.ints counts)) :=
  Agrees.list (forall₂_map fun c hc => reads_repr (h c hc).inRange) rfl

/-- A message dropped where it is empty, and left unset by the other side's own test. -/
theorem unlessEmpty_keeps {m : Msg} {doc : Json} {empty : Bool} {v : Except PyError Value}
    (h : Encodes (.message m) (.ok doc) v) (hempty : doc.isEmpty = empty) :
    ∃ a, Protobuf.unlessEmpty empty v = .ok a ∧
      Keeps ⟨name, key, .message m, .explicit⟩ doc a := by
  obtain ⟨val, rfl, hr⟩ := h.of_ok
  cases empty with
  | true => exact ⟨none, rfl, by simpa [Keeps, Option.filter, hempty] using Agrees.absent⟩
  | false => exact ⟨some val, rfl, Agrees.filled hr hempty nofun⟩

end Entries

/-! ### Attribute values -/

/-- One member of the oneof of `AnyValue`. -/
theorem anyValue_member (f : FieldDesc Msg) (hf : f ∈ otlp .anyValue)
    {j : Except PyError Json} {v : Except PyError Value} (h : Encodes f.type j v)
    (hl : f.label = .oneof "value") :
    Encodes (.message .anyValue) (do return .obj [(f.jsonName, ← j)])
      (do otlp.construct .anyValue [(f.name, some (← v))]) := by
  obtain ⟨doc, val, rfl, rfl, hr⟩ := h
  exact Encodes.single .anyValue f hf (Agrees.value hr (by simp [hl]))

mutual
theorem anyValue_encodes : ∀ {v : AnyValue}, v.WellTyped Binary64.IsFinite →
    Encodes (.message .anyValue) (encodeAnyValue v) (Protobuf.anyValue v)
  | .bool b, _ => by
      rw [encodeAnyValue, Protobuf.anyValue]
      exact anyValue_member ⟨"bool_value", "boolValue", .bool, .oneof "value"⟩ (by decide)
        (Encodes.ok reads_bool) rfl
  | .int n, h => by
      rw [AnyValue.WellTyped] at h
      rw [encodeAnyValue, Protobuf.anyValue, h.u64]
      exact anyValue_member ⟨"int_value", "intValue", .int64, .oneof "value"⟩ (by decide)
        (Encodes.ok (reads_repr h.inRange)) rfl
  | .float x, h => by
      rw [AnyValue.WellTyped] at h
      rw [encodeAnyValue, Protobuf.anyValue]
      exact anyValue_member ⟨"double_value", "doubleValue", .double, .oneof "value"⟩
        (by decide) (Encodes.ok (reads_double h)) rfl
  | .str s, _ => by
      rw [encodeAnyValue, Protobuf.anyValue]
      exact anyValue_member ⟨"string_value", "stringValue", .string, .oneof "value"⟩
        (by decide) (Encodes.ok reads_str) rfl
  | .bytes b, _ => by
      rw [encodeAnyValue, Protobuf.anyValue]
      exact anyValue_member ⟨"bytes_value", "bytesValue", .bytes, .oneof "value"⟩
        (by decide) (Encodes.ok reads_b64) rfl
  | .sequence vs, h => by
      rw [AnyValue.WellTyped] at h
      obtain ⟨docs, vals, hdocs, hvals, hr⟩ := anyValues_encode h
      obtain ⟨array, harray, hra⟩ := (Encodes.single .arrayValue
        ⟨"values", "values", .message .anyValue, .repeated⟩ (by decide) (Agrees.kept hr rfl)).of_ok
      simp only [encodeAnyValue, Protobuf.anyValue, hdocs, hvals, ok_bind, Protobuf.build, harray]
      exact anyValue_member ⟨"array_value", "arrayValue", .message .arrayValue, .oneof "value"⟩
        (by decide) (Encodes.ok hra) rfl
  | .mapping items, h => by
      rw [AnyValue.WellTyped] at h
      obtain ⟨docs, vals, hdocs, hvals, hr⟩ := attributes_encode h
      obtain ⟨kvs, hkvs, hrk⟩ := (Encodes.single .keyValueList
        ⟨"values", "values", .message .keyValue, .repeated⟩ (by decide) (Agrees.kept hr rfl)).of_ok
      simp only [encodeAnyValue, Protobuf.anyValue, hdocs, hvals, ok_bind, Protobuf.build, hkvs]
      exact anyValue_member
        ⟨"kvlist_value", "kvlistValue", .message .keyValueList, .oneof "value"⟩
        (by decide) (Encodes.ok hrk) rfl
  | .other _, h => by
      rw [AnyValue.WellTyped] at h
      exact h.elim

theorem anyValues_encode : ∀ {vs : List AnyValue}, AnyValue.WellTypedList Binary64.IsFinite vs →
    EncodesList (.message .anyValue) (encodeAnyValues vs) (Protobuf.anyValues vs)
  | [], _ => by
      rw [encodeAnyValues, Protobuf.anyValues]
      exact EncodesList.nil
  | v :: vs, h => by
      rw [AnyValue.WellTypedList] at h
      rw [encodeAnyValues, Protobuf.anyValues]
      exact EncodesList.cons (anyValue_encodes h.1) (anyValues_encode h.2)

theorem attributes_encode : ∀ {items : List (String × AnyValue)},
    AnyValue.WellTypedItems Binary64.IsFinite items →
    EncodesList (.message .keyValue) (encodeAttributes items) (Protobuf.keyValues items)
  | [], _ => by
      rw [encodeAttributes, Protobuf.keyValues]
      exact EncodesList.nil
  | item :: items, h => by
      rw [AnyValue.WellTypedItems] at h
      rw [encodeAttributes, Protobuf.keyValues]
      exact EncodesList.cons (keyValue_encodes h.1) (attributes_encode h.2)

theorem keyValue_encodes : ∀ {item : String × AnyValue},
    AnyValue.WellTypedItem Binary64.IsFinite item →
    Encodes (.message .keyValue) (encodeKeyValue item) (Protobuf.keyValue item)
  | (key, v), h => by
      rw [AnyValue.WellTypedItem] at h
      obtain ⟨doc, val, hdoc, hval, hv⟩ := anyValue_encodes h
      simp only [encodeKeyValue, Protobuf.keyValue, hdoc, hval, ok_bind, pure_ok]
      refine Encodes.dict ?_ List.nodup_nil rfl
      simp only [otlp, List.forall_mem_cons]
      exact ⟨Agrees.value reads_str nofun, Agrees.value hv nofun, List.forall_mem_nil _⟩
end

theorem ok_of_map {α β : Type} {x : Except PyError α} {f : α → β} {b : β}
    (h : (do return f (← x)) = (.ok b : Except PyError β)) : ∃ a, x = .ok a ∧ b = f a := by
  cases x with
  | error e => cases h
  | ok a =>
      cases h
      exact ⟨a, rfl, rfl⟩

/-- A value is a dict of one entry. -/
theorem encodeAnyValue_isEmpty {v : AnyValue} {doc : Json} (h : encodeAnyValue v = .ok doc) :
    doc.isEmpty = false := by
  cases v with
  | bool _ | float _ | str _ | bytes _ =>
      rw [encodeAnyValue] at h
      cases h
      rfl
  | int _ | mapping _ | sequence _ =>
      rw [encodeAnyValue] at h
      obtain ⟨a, -, rfl⟩ := ok_of_map h
      rfl
  | other _ =>
      rw [encodeAnyValue] at h
      cases h

/-- No attributes, no entries. -/
theorem encodeAttributes_isEmpty {items : List (String × AnyValue)} {docs : List Json}
    (h : encodeAttributes items = .ok docs) : docs.isEmpty = items.isEmpty := by
  cases items with
  | nil =>
      rw [encodeAttributes] at h
      cases h
      rfl
  | cons item items =>
      rw [encodeAttributes] at h
      cases hitem : encodeKeyValue item with
      | error e => rw [hitem] at h; cases h
      | ok doc =>
          cases hitems : encodeAttributes items with
          | error e => rw [hitem, hitems] at h; cases h
          | ok docs => rw [hitem, hitems] at h; cases h; rfl

/-- What is left of a dict is empty when every entry was. -/
theorem isEmpty_omitEmpty (kvs : List (String × Json)) :
    (omitEmpty kvs).isEmpty = kvs.all fun kv => kv.2.isEmpty := by
  rw [omitEmpty, Json.isEmpty_obj]
  induction kvs with
  | nil => rfl
  | cons kv kvs ih => cases h : kv.2.isEmpty <;> simp [h, ih]

theorem isEmpty_orNone (n : Int) : (orNone n).isEmpty = (n == 0) := by
  by_cases h : n = 0 <;> simp [orNone, h]

end OtlpClient
