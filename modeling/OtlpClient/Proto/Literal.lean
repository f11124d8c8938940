import OtlpClient.Proto.Coerce
import OtlpClient.Support.Exact

/-!
# Proto — JSON as it is written

A JSON value with its numbers as their literals, and what `json.loads` reads: an int of no more
digits than `int()` takes, at a point or an exponent the nearest double, and of a repeated key the
last value.

* `intOf_float`: `int()` of a whole number that was written with a point or an exponent is that
  number exactly when no digit was lost.
* `lookup_dict`: what is read under a key is what was written under it.
-/

namespace OtlpClient.Proto

/-! ### Numbers -/

/-- A number written with a point or an exponent. -/
structure Decimal where
  negative : Bool := false
  digits : Nat
  exponent : Int
  deriving DecidableEq

namespace Decimal

/-- The number that is written. -/
def value (x : Decimal) : ℚ :=
  let magnitude : ℚ := x.digits * 10 ^ x.exponent
  if x.negative then -magnitude else magnitude

/-- `float` of the literal: the nearest double, and a zero of its sign. -/
def float (x : Decimal) : Binary64 :=
  if x.digits = 0 then (if x.negative then .negZero else .posZero) else .ofRat x.value

/-- The double is the number that is written. -/
def IsExact (x : Decimal) : Prop := x.float.IsFinite ∧ x.float.toRat = x.value

example : ¬ IsExact ⟨false, 90071992547409930, -1⟩ := by
  unfold IsExact
  decide +kernel

/-- `int()` of what is read at a whole number of 64 bits. -/
theorem intOf_float {x : Decimal} {n : Int} (hn : n.natAbs < 2 ^ 64) (hx : x.value = n) :
    ∃ m, (Json.float x.float).intOf = .ok m ∧ (m = n ↔ x.IsExact) := by
  unfold IsExact
  by_cases hzero : x.digits = 0
  · have hvalue : x.value = 0 := by simp [value, hzero]
    have hn0 : n = 0 := by
      rw [hvalue] at hx
      exact_mod_cast hx.symm
    subst hn0
    rw [hx, float, if_pos hzero]
    refine ⟨0, ?_, iff_of_true rfl ?_⟩
    · cases x.negative <;> rfl
    · cases x.negative <;> decide +kernel
  · rw [float, if_neg hzero, hx]
    obtain ⟨hfinite, -⟩ := Binary64.ofRat_intCast hn
    obtain ⟨hnan, hinf⟩ := (Binary64.isFinite_iff _).mp hfinite
    refine ⟨(Binary64.ofRat n).truncate, ?_, ?_⟩
    · simp only [Json.intOf, hnan, hinf, Bool.false_eq_true, if_false]
    · rw [Binary64.truncate_ofRat hn]
      exact (and_iff_right hfinite).symm

end Decimal

/-! ### Values -/

/-- A JSON value as it is written. -/
inductive Literal where
  | null
  | bool (b : Bool)
  | int (n : Int)
  | decimal (x : Decimal)
  | str (s : String)
  | arr (js : List Literal)
  | obj (kvs : List (String × Literal))

namespace Literal

/-- The members an object has: of a repeated key, the last. -/
def members (kvs : List (String × Literal)) : List (String × Literal) := Dict.update [] kvs

mutual
/-- The ints of a value, left to right. -/
def ints : Literal → List Int
  | .int n => [n]
  | .arr js => intsList js
  | .obj kvs => intsEntries kvs
  | .null | .bool _ | .decimal _ | .str _ => []

def intsList : List Literal → List Int
  | [] => []
  | j :: js => ints j ++ intsList js

def intsEntries : List (String × Literal) → List Int
  | [] => []
  | kv :: kvs => intsEntry kv ++ intsEntries kvs

def intsEntry : String × Literal → List Int
  | (_, j) => ints j
end

mutual
/-- What a value is read as. -/
def value : Literal → Json
  | .null => .null
  | .bool b => .bool b
  | .int n => .int n
  | .decimal x => .float x.float
  | .str s => .str s
  | .arr js => .arr (valueList js)
  | .obj kvs => .obj (Dict.update [] (valueEntries kvs))

def valueList : List Literal → List Json
  | [] => []
  | j :: js => value j :: valueList js

def valueEntries : List (String × Literal) → List (String × Json)
  | [] => []
  | kv :: kvs => valueEntry kv :: valueEntries kvs

def valueEntry : String × Literal → String × Json
  | (k, j) => (k, value j)
end

/-- No int has more digits than `int()` takes. -/
def IsRead (j : Literal) : Prop := ∀ n ∈ j.ints, IsPrintable n

instance (j : Literal) : Decidable j.IsRead := inferInstanceAs (Decidable (∀ n ∈ _, _))

/-- What `json.loads` returns or raises at the text. -/
def Loads (j : Literal) (result : Except PyError Json) : Prop :=
  if j.IsRead then result = .ok j.value else ∃ message, result = .error (.valueError message)

variable {j : Literal} {kvs : List (String × Literal)} {k : String}

theorem loads_of_isRead {result : Except PyError Json} (h : j.IsRead) :
    j.Loads result ↔ result = .ok j.value :=
  iff_of_eq (if_pos h)

theorem loads_of_not_isRead {result : Except PyError Json} (h : ¬ j.IsRead) :
    j.Loads result ↔ ∃ message, result = .error (.valueError message) :=
  iff_of_eq (if_neg h)

theorem valueEntries_eq (kvs : List (String × Literal)) :
    valueEntries kvs = kvs.map fun kv => (kv.1, value kv.2) := by
  induction kvs with
  | nil => rfl
  | cons kv kvs ih =>
      obtain ⟨k, j⟩ := kv
      rw [valueEntries, valueEntry, ih, List.map_cons]

/-- The dict an object is read as. -/
def dict (kvs : List (String × Literal)) : List (String × Json) :=
  (members kvs).map fun kv => (kv.1, value kv.2)

theorem value_obj : value (.obj kvs) = .obj (dict kvs) := by
  rw [value, valueEntries_eq, dict, members, Dict.map_update, List.map_nil]

/-- What is read under a key is what was written under it. -/
theorem lookup_dict : (dict kvs).lookup k = ((members kvs).lookup k).map value :=
  lookup_map value k _

/-- The dict of an object with a member is not empty. -/
theorem dict_ne_nil (h : kvs ≠ []) : dict kvs ≠ [] := by
  obtain ⟨kv, hkv⟩ := List.exists_mem_of_ne_nil _ h
  have hkey : kv.1 ∈ Dict.keys (members kvs) :=
    Dict.mem_keys_update.mpr (Or.inr (Dict.mem_keys_of_mem hkv))
  intro hnil
  rw [List.map_eq_nil_iff.mp hnil] at hkey
  cases hkey

end Literal

end OtlpClient.Proto
