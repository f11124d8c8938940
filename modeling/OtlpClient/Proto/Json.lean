import OtlpClient.Support.Binary64
import OtlpClient.Support.Text

/-!
# Proto — JSON documents

A document as Python holds it, before it is written and after it is read: `None`, a bool, an
int, a float, a str, a list, a dict with str keys in insertion order.

* `Json.floats`, `Json.ints`: the floats and the ints of a document, left to right.
* `lookup_filter`: filtering a dict by its values filters every lookup.
-/

namespace OtlpClient.Proto

/-- A JSON document, as `json.loads` returns one. -/
inductive Json where
  | null
  | bool (b : Bool)
  | int (n : Int)
  | float (x : Binary64)
  | str (s : String)
  | arr (js : List Json)
  | obj (kvs : List (String × Json))

namespace Json

/-- `None`, `""`, `[]` or `{}`. -/
def isEmpty : Json → Bool
  | .null | .str "" | .arr [] | .obj [] => true
  | _ => false

/-- The value of a key; `None` where there is none. -/
def get : Json → String → Json
  | .obj kvs, k => (kvs.lookup k).getD .null
  | _, _ => .null

@[simp] theorem isEmpty_null : isEmpty .null = true := rfl
@[simp] theorem isEmpty_bool (b : Bool) : isEmpty (.bool b) = false := rfl
@[simp] theorem isEmpty_int (n : Int) : isEmpty (.int n) = false := rfl
@[simp] theorem isEmpty_float (x : Binary64) : isEmpty (.float x) = false := rfl
@[simp] theorem isEmpty_arr (js : List Json) : isEmpty (.arr js) = js.isEmpty := by
  cases js <;> rfl
@[simp] theorem isEmpty_obj (kvs : List (String × Json)) : isEmpty (.obj kvs) = kvs.isEmpty := by
  cases kvs <;> rfl
@[simp] theorem isEmpty_str (s : String) : isEmpty (.str s) = (s == "") := by
  by_cases h : s = ""
  · subst h; rfl
  · rw [beq_eq_false_iff_ne.mpr h]
    unfold isEmpty
    split <;> simp_all

mutual
/-- The floats of a document, left to right. -/
def floats : Json → List Binary64
  | .float x => [x]
  | .arr js => floatsList js
  | .obj kvs => floatsEntries kvs
  | .null | .bool _ | .int _ | .str _ => []

def floatsList : List Json → List Binary64
  | [] => []
  | j :: js => floats j ++ floatsList js

def floatsEntries : List (String × Json) → List Binary64
  | [] => []
  | kv :: kvs => floatsEntry kv ++ floatsEntries kvs

def floatsEntry : String × Json → List Binary64
  | (_, j) => floats j
end

theorem floatsList_eq (js : List Json) : floatsList js = js.flatMap floats := by
  induction js with
  | nil => rfl
  | cons j js ih =>
      change floats j ++ floatsList js = _
      rw [ih, List.flatMap_cons]

theorem floatsEntries_eq (kvs : List (String × Json)) :
    floatsEntries kvs = kvs.flatMap fun kv => floats kv.2 := by
  induction kvs with
  | nil => rfl
  | cons kv kvs ih =>
      obtain ⟨k, j⟩ := kv
      change floats j ++ floatsEntries kvs = _
      rw [ih, List.flatMap_cons]

@[simp] theorem floats_null : floats .null = [] := rfl
@[simp] theorem floats_bool (b : Bool) : floats (.bool b) = [] := rfl
@[simp] theorem floats_int (n : Int) : floats (.int n) = [] := rfl
@[simp] theorem floats_float (x : Binary64) : floats (.float x) = [x] := rfl
@[simp] theorem floats_str (s : String) : floats (.str s) = [] := rfl
@[simp] theorem floats_arr (js : List Json) : floats (.arr js) = js.flatMap floats :=
  floatsList_eq js
@[simp] theorem floats_obj (kvs : List (String × Json)) :
    floats (.obj kvs) = kvs.flatMap fun kv => floats kv.2 :=
  floatsEntries_eq kvs

mutual
/-- The ints of a document, left to right. -/
def ints : Json → List Int
  | .int n => [n]
  | .arr js => intsList js
  | .obj kvs => intsEntries kvs
  | .null | .bool _ | .float _ | .str _ => []

def intsList : List Json → List Int
  | [] => []
  | j :: js => ints j ++ intsList js

def intsEntries : List (String × Json) → List Int
  | [] => []
  | kv :: kvs => intsEntry kv ++ intsEntries kvs

def intsEntry : String × Json → List Int
  | (_, j) => ints j
end

theorem intsList_eq (js : List Json) : intsList js = js.flatMap ints := by
  induction js with
  | nil => rfl
  | cons j js ih =>
      change ints j ++ intsList js = _
      rw [ih, List.flatMap_cons]

theorem intsEntries_eq (kvs : List (String × Json)) :
    intsEntries kvs = kvs.flatMap fun kv => ints kv.2 := by
  induction kvs with
  | nil => rfl
  | cons kv kvs ih =>
      obtain ⟨k, j⟩ := kv
      change ints j ++ intsEntries kvs = _
      rw [ih, List.flatMap_cons]

@[simp] theorem ints_null : ints .null = [] := rfl
@[simp] theorem ints_bool (b : Bool) : ints (.bool b) = [] := rfl
@[simp] theorem ints_int (n : Int) : ints (.int n) = [n] := rfl
@[simp] theorem ints_float (x : Binary64) : ints (.float x) = [] := rfl
@[simp] theorem ints_str (s : String) : ints (.str s) = [] := rfl
@[simp] theorem ints_arr (js : List Json) : ints (.arr js) = js.flatMap ints :=
  intsList_eq js
@[simp] theorem ints_obj (kvs : List (String × Json)) :
    ints (.obj kvs) = kvs.flatMap fun kv => ints kv.2 :=
  intsEntries_eq kvs

end Json

/-! ### Dicts -/

theorem lookup_single {β : Type} (k k' : String) (v : β) :
    [(k', v)].lookup k = if k = k' then some v else none := by
  by_cases h : k = k'
  · simp [h]
  · rw [List.lookup_cons, beq_eq_false_iff_ne.mpr h, if_neg h]
    rfl

/-- In a dict, an entry is what its key looks up. -/
theorem lookup_of_mem {β : Type} {kv : String × β} : ∀ {kvs : List (String × β)},
    (kvs.map Prod.fst).Nodup → kv ∈ kvs → kvs.lookup kv.1 = some kv.2
  | (k, v) :: kvs, h, hkv => by
      obtain ⟨hk, hkvs⟩ := List.nodup_cons.mp h
      rcases List.mem_cons.mp hkv with rfl | hmem
      · exact List.lookup_cons_self
      · have hne : kv.1 ≠ k := by
          rintro rfl
          exact hk (List.mem_map.mpr ⟨kv, hmem, rfl⟩)
        rw [List.lookup_cons, beq_eq_false_iff_ne.mpr hne]
        exact lookup_of_mem hkvs hmem

/-- In a dict, filtering by value filters each lookup. -/
theorem lookup_filter {β : Type} (p : β → Bool) (k : String) :
    ∀ {kvs : List (String × β)}, (kvs.map Prod.fst).Nodup →
      (kvs.filter fun kv => p kv.2).lookup k = (kvs.lookup k).filter p
  | [], _ => rfl
  | (k', v) :: kvs, h => by
      simp only [List.map_cons, List.nodup_cons] at h
      have ih := lookup_filter p k h.2
      by_cases hk : k = k'
      · subst hk
        have hno : kvs.lookup k = none := List.lookup_eq_none_iff.mpr fun kv hkv =>
          bne_iff_ne.mpr fun e => h.1 (e ▸ List.mem_map_of_mem hkv)
        cases hp : p v with
        | true => simp [hp, Option.filter]
        | false => simp [hp, ih, hno, Option.filter]
      · have hk' : (k == k') = false := by simpa using hk
        cases hp : p v with
        | true => simp [hp, hk', ih, List.lookup_cons]
        | false => simp [hp, hk', ih, List.lookup_cons]

/-- Mapping the values of a dict maps each lookup. -/
theorem lookup_map {α β : Type} (f : α → β) (k : String) :
    ∀ kvs : List (String × α),
      (kvs.map fun kv => (kv.1, f kv.2)).lookup k = (kvs.lookup k).map f
  | [] => rfl
  | (k', v) :: kvs => by
      by_cases hk : k = k'
      · subst hk; simp
      · have hk' : (k == k') = false := by simpa using hk
        simp [List.lookup_cons, hk', lookup_map f k kvs]

end OtlpClient.Proto
