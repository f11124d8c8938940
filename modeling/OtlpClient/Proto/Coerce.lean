import OtlpClient.Encoding.Primitives

/-!
# Proto — `int()` and `str()` of a document

Python's conversions at any value `json.loads` returns, with what each raises.

* `intOf_error`: `int()` raises `TypeError` or `ValueError`, and `OverflowError` at an infinite
  float only.
* `strOf_ok`: `str()` raises at no document whose ints have the digits `str` writes.
-/

namespace OtlpClient.Proto

/-- `int(j)`. -/
def Json.intOf : Json → Except PyError Int
  | .bool b => .ok b.toNat
  | .int n => .ok n
  | .str s => intOfString s
  | .float x =>
      if x.isNaN then .error (.valueError "cannot convert float NaN to integer")
      else if x.isInf then .error (.overflowError "cannot convert float infinity to integer")
      else .ok x.truncate
  | .null => notANumber "NoneType"
  | .arr _ => notANumber "list"
  | .obj _ => notANumber "dict"
where
  notANumber (type : String) : Except PyError Int :=
    .error (.typeError ("int() argument must be a string, a bytes-like object or a real number, " ++
      "not '" ++ type ++ "'"))

/-- `json.loads`, and `repr` at a float and at a str.  A str with a lone surrogate, which JSON can
spell, is read with U+FFFD in its place. -/
structure JsonLib where
  loads : Bytes → Except PyError Json
  reprFloat : Binary64 → String
  reprStr : String → String

namespace Json

variable (lib : JsonLib)

mutual
/-- `repr(j)`. -/
def repr : Json → Except PyError String
  | .null => return "None"
  | .bool b => return if b then "True" else "False"
  | .int n => u64 n
  | .float x => return lib.reprFloat x
  | .str s => return lib.reprStr s
  | .arr js => return "[" ++ ", ".intercalate (← reprList js) ++ "]"
  | .obj kvs => return "\x7b" ++ ", ".intercalate (← reprEntries kvs) ++ "\x7d"

def reprList : List Json → Except PyError (List String)
  | [] => return []
  | j :: js => return (← repr j) :: (← reprList js)

def reprEntries : List (String × Json) → Except PyError (List String)
  | [] => return []
  | kv :: kvs => return (← reprEntry kv) :: (← reprEntries kvs)

def reprEntry : String × Json → Except PyError String
  | (k, j) => return lib.reprStr k ++ ": " ++ (← repr j)
end

/-- `str(j)`. -/
def strOf : Json → Except PyError String
  | .str s => .ok s
  | j => repr lib j

mutual
/-- Every int of the document has no more digits than `str` writes: a longer literal is one
`json.loads` raises `ValueError` at. -/
def DigitsFit : Json → Prop
  | .int n => n.natAbs < 10 ^ maxStrDigits
  | .arr js => DigitsFitList js
  | .obj kvs => DigitsFitEntries kvs
  | .null | .bool _ | .float _ | .str _ => True

def DigitsFitList : List Json → Prop
  | [] => True
  | j :: js => DigitsFit j ∧ DigitsFitList js

def DigitsFitEntries : List (String × Json) → Prop
  | [] => True
  | kv :: kvs => DigitsFitEntry kv ∧ DigitsFitEntries kvs

def DigitsFitEntry : String × Json → Prop
  | (_, j) => DigitsFit j
end

/-- What `int()` raises, and where. -/
theorem intOf_error {j : Json} {e : PyError} (h : j.intOf = .error e) :
    (∃ message, e = .typeError message) ∨ (∃ message, e = .valueError message) ∨
      ((∃ message, e = .overflowError message) ∧ ∃ x, j = .float x ∧ x.isInf = true) := by
  cases j with
  | bool b => cases h
  | int n => cases h
  | str s => exact Or.inr (Or.inl (intOfString_error h))
  | float x =>
      rw [intOf] at h
      split at h
      · cases h
        exact Or.inr (Or.inl ⟨_, rfl⟩)
      · split at h
        · rename_i hinf
          cases h
          exact Or.inr (Or.inr ⟨⟨_, rfl⟩, x, rfl, hinf⟩)
        · cases h
  | null =>
      cases h
      exact Or.inl ⟨_, rfl⟩
  | arr js =>
      cases h
      exact Or.inl ⟨_, rfl⟩
  | obj kvs =>
      cases h
      exact Or.inl ⟨_, rfl⟩

theorem intOf_float_inf {x : Binary64} (h : x.isInf = true) :
    ∃ message, intOf (.float x) = .error (.overflowError message) := by
  have hnan : x.isNaN = false := by
    simp only [Binary64.isInf, Binary64.isNaN, Bool.and_eq_true, beq_iff_eq] at h ⊢
    simp [h.2]
  refine ⟨"cannot convert float infinity to integer", ?_⟩
  simp only [intOf, hnan, h, Bool.false_eq_true, if_false, if_true]

mutual
theorem repr_ok : ∀ j : Json, j.DigitsFit → ∃ s, repr lib j = .ok s
  | .null, _ => ⟨_, by rw [repr]; rfl⟩
  | .bool b, _ => ⟨_, by rw [repr]; rfl⟩
  | .int n, h => ⟨n.repr, by rw [repr, u64, if_pos (by rwa [DigitsFit] at h)]⟩
  | .float x, _ => ⟨_, by rw [repr]; rfl⟩
  | .str s, _ => ⟨_, by rw [repr]; rfl⟩
  | .arr js, h => by
      rw [DigitsFit] at h
      obtain ⟨ss, hs⟩ := reprList_ok js h
      exact ⟨_, by rw [repr, hs]; rfl⟩
  | .obj kvs, h => by
      rw [DigitsFit] at h
      obtain ⟨ss, hs⟩ := reprEntries_ok kvs h
      exact ⟨_, by rw [repr, hs]; rfl⟩

theorem reprList_ok : ∀ js : List Json, DigitsFitList js → ∃ ss, reprList lib js = .ok ss
  | [], _ => ⟨[], by rw [reprList]; rfl⟩
  | j :: js, h => by
      rw [DigitsFitList] at h
      obtain ⟨s, hs⟩ := repr_ok j h.1
      obtain ⟨ss, hss⟩ := reprList_ok js h.2
      exact ⟨s :: ss, by rw [reprList, hs, hss]; rfl⟩

theorem reprEntries_ok :
    ∀ kvs : List (String × Json), DigitsFitEntries kvs → ∃ ss, reprEntries lib kvs = .ok ss
  | [], _ => ⟨[], by rw [reprEntries]; rfl⟩
  | kv :: kvs, h => by
      rw [DigitsFitEntries] at h
      obtain ⟨s, hs⟩ := reprEntry_ok kv h.1
      obtain ⟨ss, hss⟩ := reprEntries_ok kvs h.2
      exact ⟨s :: ss, by rw [reprEntries, hs, hss]; rfl⟩

theorem reprEntry_ok : ∀ kv : String × Json, DigitsFitEntry kv → ∃ s, reprEntry lib kv = .ok s
  | (k, j), h => by
      rw [DigitsFitEntry] at h
      obtain ⟨s, hs⟩ := repr_ok j h
      exact ⟨_, by rw [reprEntry, hs]; rfl⟩
end

/-- `str()` returns. -/
theorem strOf_ok {j : Json} (h : j.DigitsFit) : ∃ s, strOf lib j = .ok s := by
  cases j with
  | str s => exact ⟨s, rfl⟩
  | _ => exact repr_ok lib _ h

theorem digitsFit_of_mem {kv : String × Json} :
    ∀ {kvs : List (String × Json)}, DigitsFitEntries kvs → kv ∈ kvs → kv.2.DigitsFit
  | kv' :: kvs, h, hm => by
      rw [DigitsFitEntries] at h
      rcases List.mem_cons.mp hm with rfl | hm
      · have hkv := h.1
        rwa [DigitsFitEntry] at hkv
      · exact digitsFit_of_mem h.2 hm

/-- What is under a key of a document fits when the document does. -/
theorem digitsFit_lookup {kvs : List (String × Json)} {k : String} {j : Json}
    (h : DigitsFit (.obj kvs)) (hk : kvs.lookup k = some j) : j.DigitsFit := by
  rw [DigitsFit] at h
  obtain ⟨l₁, l₂, rfl, -⟩ := List.lookup_eq_some_iff.mp hk
  have hm : (k, j) ∈ l₁ ++ (k, j) :: l₂ := by simp
  exact digitsFit_of_mem h hm

end Json

/-- What is assumed of `json.loads`: it raises `ValueError` only, at an empty body among others,
and each int it reads has no more digits than `int()` reads. -/
structure JsonLib.Lawful (lib : JsonLib) : Prop where
  loads_nil : ∃ message, lib.loads [] = .error (.valueError message)
  loads_error : ∀ {body e}, lib.loads body = .error e → ∃ message, e = .valueError message
  loads_digits : ∀ {body doc}, lib.loads body = .ok doc → doc.DigitsFit

/-- Reads one text, and raises at every other. -/
def JsonLib.only (text : Bytes) (doc : Json) : JsonLib where
  loads body := if body = text then .ok doc else .error (.valueError "Expecting value")
  reprFloat _ := "0.0"
  reprStr s := "'" ++ s ++ "'"

theorem JsonLib.only_loads (text : Bytes) (doc : Json) : (only text doc).loads text = .ok doc :=
  if_pos rfl

theorem JsonLib.only_loads_of_ne {text body : Bytes} (doc : Json) (h : body ≠ text) :
    (only text doc).loads body = .error (.valueError "Expecting value") :=
  if_neg h

theorem JsonLib.only_lawful {text : Bytes} {doc : Json} (ht : text ≠ []) (hd : doc.DigitsFit) :
    (only text doc).Lawful where
  loads_nil := ⟨_, only_loads_of_ne doc ht.symm⟩
  loads_error := by
    intro body e h
    by_cases hb : body = text
    · rw [hb, only_loads] at h
      cases h
    · rw [only_loads_of_ne doc hb] at h
      cases h
      exact ⟨_, rfl⟩
  loads_digits := by
    intro body doc' h
    by_cases hb : body = text
    · rw [hb, only_loads] at h
      cases h
      exact hd
    · rw [only_loads_of_ne doc hb] at h
      cases h

end OtlpClient.Proto
