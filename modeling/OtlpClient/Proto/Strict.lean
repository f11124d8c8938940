import OtlpClient.Proto.Schema

/-!
# Proto — documents written strictly

The proto3 JSON mapping is lenient: a 64-bit integer may be a number, a 32-bit one a string, an
empty field may be there or not.  `Strict S E t j` allows one form of each: a 64-bit integer is a
canonical decimal string, a smaller one and an enum a number, an `id` lower-case hex, other bytes
padded base64, a bool a bool.  An object has fields' keys only, none twice, one member of each
oneof of its message, and no `null`; a string or a list in it is empty only in the fields `E`
names.

* `strict_message`: an object, entry by entry.
* `strict_dict`, `strict_sparse`: a dict as it is, and one whose empty entries are dropped, from
  what its entries hold for each field.
-/

namespace OtlpClient.Proto

variable {M : Type} {S : Schema M} {E : M → FieldDesc M → Prop}

/-- The oneof a field is a member of. -/
def FieldDesc.group? (f : FieldDesc M) : Option String :=
  match f.label with
  | .oneof g => some g
  | _ => none

/-- The keys of an object: fields' keys, none twice, and one member of each oneof. -/
def StrictKeys (S : Schema M) (m : M) (ks : List String) : Prop :=
  ks.Nodup ∧ (∀ k ∈ ks, k ∈ (S m).map FieldDesc.jsonName) ∧
    ∀ f ∈ S m, ∀ g ∈ f.group?,
      (ks.filter fun k => (S m).any fun f => f.jsonName == k && f.group? == some g).length = 1

instance (m : M) (ks : List String) : Decidable (StrictKeys S m ks) :=
  inferInstanceAs (Decidable (_ ∧ _ ∧ _))

/-- The one form of a value of any type but a message. -/
def StrictScalar : FieldType M → Json → Prop
  | .double, .float _ => True
  | .bool, .bool _ => True
  | .string, .str _ => True
  | .bytes, .str s => IsBase64 s
  | .id, .str s => IsHex s
  | .int32, .int _ | .uint32, .int _ | .enum, .int _ => True
  | .int64, .str s | .uint64, .str s => IsDecimal s
  | _, _ => False

mutual
/-- The document is written in the one form of the type. -/
def Strict (S : Schema M) (E : M → FieldDesc M → Prop) : FieldType M → Json → Prop
  | .message m, .obj kvs => StrictKeys S m (kvs.map Prod.fst) ∧ StrictEntries S E m kvs
  | t, j => StrictScalar t j

def StrictList (S : Schema M) (E : M → FieldDesc M → Prop) (t : FieldType M) : List Json → Prop
  | [] => True
  | j :: js => Strict S E t j ∧ StrictList S E t js

def StrictEntries (S : Schema M) (E : M → FieldDesc M → Prop) (m : M) :
    List (String × Json) → Prop
  | [] => True
  | kv :: kvs => StrictEntry S E m kv ∧ StrictEntries S E m kvs

/-- An entry: a list for a repeated field, anything else for the others. -/
def StrictEntry (S : Schema M) (E : M → FieldDesc M → Prop) (m : M) : String × Json → Prop
  | (k, .arr js) => ∃ f ∈ S m, f.jsonName = k ∧
      f.label = .repeated ∧ (js = [] → E m f) ∧ StrictList S E f.type js
  | (k, j) => ∃ f ∈ S m, f.jsonName = k ∧
      f.label ≠ .repeated ∧ (j = .str "" → E m f) ∧ Strict S E f.type j
end

/-- What an entry holds for its field. -/
def StrictField (S : Schema M) (E : M → FieldDesc M → Prop) (m : M) (f : FieldDesc M) :
    Json → Prop
  | .arr js => f.label = .repeated ∧ (js = [] → E m f) ∧ ∀ j ∈ js, Strict S E f.type j
  | j => f.label ≠ .repeated ∧ (j = .str "" → E m f) ∧ Strict S E f.type j

theorem strictList_iff {t : FieldType M} {js : List Json} :
    StrictList S E t js ↔ ∀ j ∈ js, Strict S E t j := by
  induction js with
  | nil => exact iff_of_true trivial nofun
  | cons j js ih => rw [StrictList, ih, List.forall_mem_cons]

theorem strictEntry_iff {m : M} {k : String} {j : Json} :
    StrictEntry S E m (k, j) ↔ ∃ f ∈ S m, f.jsonName = k ∧ StrictField S E m f j := by
  cases j with
  | arr js => simp only [StrictEntry, StrictField, strictList_iff]
  | _ => simp only [StrictEntry, StrictField]

theorem strict_message {m : M} {kvs : List (String × Json)} :
    Strict S E (.message m) (.obj kvs) ↔ StrictKeys S m (kvs.map Prod.fst) ∧
      ∀ kv ∈ kvs, ∃ f ∈ S m, f.jsonName = kv.1 ∧ StrictField S E m f kv.2 := by
  have hentries : StrictEntries S E m kvs ↔
      ∀ kv ∈ kvs, ∃ f ∈ S m, f.jsonName = kv.1 ∧ StrictField S E m f kv.2 := by
    induction kvs with
    | nil => exact iff_of_true trivial nofun
    | cons kv kvs ih =>
        obtain ⟨k, j⟩ := kv
        rw [StrictEntries, ih, strictEntry_iff, List.forall_mem_cons]
  rw [Strict, hentries]

/-! ### One field -/

section Field

variable {m : M} {f : FieldDesc M} {j : Json} {js : List Json}

/-- A list is no value. -/
theorem not_strict_arr {t : FieldType M} : ¬ Strict S E t (.arr js) := by
  intro h
  cases t <;> exact h

theorem StrictField.value (hl : f.label ≠ .repeated) (he : j = .str "" → E m f)
    (h : Strict S E f.type j) : StrictField S E m f j := by
  cases j with
  | arr js => exact absurd h not_strict_arr
  | _ => exact ⟨hl, he, h⟩

/-- What an entry holds for its field, if there is one. -/
def Held (S : Schema M) (E : M → FieldDesc M → Prop) (m : M) (f : FieldDesc M) :
    Option Json → Prop
  | none => True
  | some j => StrictField S E m f j

theorem Held.value (hl : f.label ≠ .repeated) (he : j = .str "" → E m f)
    (h : Strict S E f.type j) : Held S E m f (some j) :=
  StrictField.value hl he h

theorem Held.list (hl : f.label = .repeated) (he : js = [] → E m f)
    (h : ∀ j ∈ js, Strict S E f.type j) : Held S E m f (some (.arr js)) :=
  ⟨hl, he, h⟩

/-- What an entry that is dropped when empty holds for its field. -/
def Kept (S : Schema M) (E : M → FieldDesc M → Prop) (m : M) (f : FieldDesc M) :
    Option Json → Prop
  | none => True
  | some j => (j.isEmpty = true → f.group? = none) ∧ (j.isEmpty = false → StrictField S E m f j)

/-- A value that may be empty, of a field of no oneof. -/
theorem Kept.sparse (hl : f.label ≠ .repeated) (hg : f.group? = none)
    (h : j.isEmpty = false → Strict S E f.type j) : Kept S E m f (some j) := by
  refine ⟨fun _ => hg, fun hj => .value hl ?_ (h hj)⟩
  rintro rfl
  cases hj

/-- A value that is never empty. -/
theorem Kept.filled (hl : f.label ≠ .repeated) (hj : j.isEmpty = false)
    (h : Strict S E f.type j) : Kept S E m f (some j) := by
  refine ⟨fun he => absurd (he.symm.trans hj) nofun, fun _ => .value hl ?_ h⟩
  rintro rfl
  cases hj

theorem Kept.list (hl : f.label = .repeated) (h : ∀ j ∈ js, Strict S E f.type j) :
    Kept S E m f (some (.arr js)) := by
  refine ⟨fun _ => by simp [FieldDesc.group?, hl], fun hj => ⟨hl, ?_, h⟩⟩
  rintro rfl
  cases hj

end Field

/-! ### Dicts -/

section Dict

variable {m : M} {kvs : List (String × Json)}

theorem strict_dict (hkeys : decide (StrictKeys S m (kvs.map Prod.fst)) = true)
    (h : ∀ f ∈ S m, Held S E m f (kvs.lookup f.jsonName)) :
    Strict S E (.message m) (.obj kvs) := by
  have hkeys := of_decide_eq_true hkeys
  refine strict_message.mpr ⟨hkeys, fun kv hkv => ?_⟩
  obtain ⟨hnodup, hknown, -⟩ := hkeys
  obtain ⟨f, hf, hname⟩ := List.mem_map.mp (hknown kv.1 (List.mem_map_of_mem hkv))
  have hfield := h f hf
  rw [hname, lookup_of_mem hnodup hkv] at hfield
  exact ⟨f, hf, hname, hfield⟩

theorem strict_single (f : FieldDesc M) (hf : f ∈ S m)
    (hkeys : decide (StrictKeys S m [f.jsonName]) = true) {j : Json}
    (h : StrictField S E m f j) : Strict S E (.message m) (.obj [(f.jsonName, j)]) := by
  refine strict_message.mpr ⟨of_decide_eq_true hkeys, ?_⟩
  rw [List.forall_mem_singleton]
  exact ⟨f, hf, rfl, h⟩

/-- The members of a oneof that are left when empty entries are dropped. -/
theorem filter_kept (q : String → Bool)
    (h : ∀ kv ∈ kvs, q kv.1 = true → kv.2.isEmpty = false) :
    ((kvs.filter fun kv => !kv.2.isEmpty).map Prod.fst).filter q =
      (kvs.map Prod.fst).filter q := by
  rw [List.filter_map, List.filter_map, List.filter_filter]
  congr 1
  refine List.filter_congr fun kv hkv => ?_
  cases hq : q kv.1 with
  | false => simp [hq]
  | true => simp [hq, h kv hkv hq]

theorem strict_sparse (hkeys : decide (StrictKeys S m (kvs.map Prod.fst)) = true)
    (h : ∀ f ∈ S m, Kept S E m f (kvs.lookup f.jsonName)) :
    Strict S E (.message m) (.obj (kvs.filter fun kv => !kv.2.isEmpty)) := by
  obtain ⟨hnodup, hknown, hone⟩ := of_decide_eq_true hkeys
  have hsub : ((kvs.filter fun kv => !kv.2.isEmpty).map Prod.fst).Sublist (kvs.map Prod.fst) :=
    List.filter_sublist.map _
  have hkept : ∀ kv ∈ kvs, ∀ f ∈ S m, f.jsonName = kv.1 → Kept S E m f (some kv.2) := by
    intro kv hkv f hf hname
    have hf := h f hf
    rwa [hname, lookup_of_mem hnodup hkv] at hf
  refine strict_message.mpr ⟨⟨hnodup.sublist hsub, fun k hk => hknown k (hsub.subset hk), ?_⟩, ?_⟩
  · intro f hf g hg
    rw [filter_kept]
    · exact hone f hf g hg
    intro kv hkv hmember
    -- a member of a oneof is never empty
    obtain ⟨f', hf', hmember⟩ := List.any_eq_true.mp hmember
    simp only [Bool.and_eq_true, beq_iff_eq] at hmember
    cases he : kv.2.isEmpty with
    | false => rfl
    | true => cases hmember.2.symm.trans ((hkept kv hkv f' hf' hmember.1).1 he)
  · intro kv hkv
    obtain ⟨hkv, hfilled⟩ := List.mem_filter.mp hkv
    obtain ⟨f, hf, hname⟩ := List.mem_map.mp (hknown kv.1 (List.mem_map_of_mem hkv))
    exact ⟨f, hf, hname, (hkept kv hkv f hf hname).2 (by simpa using hfilled)⟩

end Dict

end OtlpClient.Proto
