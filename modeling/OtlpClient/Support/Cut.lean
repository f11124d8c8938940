import Mathlib.Data.List.DropRight
import OtlpClient.Support.Numerals

/-!
# Support — cutting a text

Where a run of characters ends, where the first separator stands, and what is left without the
white space around it.

* `takeWhile_append_stop`, `dropWhile_append_stop`: a run ends where what follows it stops it.
* `cut_append`: a text with a separator is cut at the first one.
* `trim_pad`: white space around a text that has none at its ends is taken off.
-/

namespace OtlpClient

variable {α : Type} {p : α → Bool}

/-! ### Runs -/

/-- A run ends before what stops it. -/
theorem takeWhile_append_stop {xs ys : List α} (hxs : ∀ x ∈ xs, p x = true)
    (hys : ∀ y ∈ ys.head?, p y = false) : (xs ++ ys).takeWhile p = xs := by
  rw [List.takeWhile_append_of_pos hxs]
  cases ys with
  | nil => exact List.append_nil xs
  | cons y ys =>
      have hy : ¬ p y = true := by simp [hys y rfl]
      rw [List.takeWhile_cons_of_neg hy, List.append_nil]

theorem dropWhile_append_stop {xs ys : List α} (hxs : ∀ x ∈ xs, p x = true)
    (hys : ∀ y ∈ ys.head?, p y = false) : (xs ++ ys).dropWhile p = ys := by
  rw [List.dropWhile_append_of_pos hxs]
  cases ys with
  | nil => rfl
  | cons y ys =>
      have hy : ¬ p y = true := by simp [hys y rfl]
      rw [List.dropWhile_cons_of_neg hy]

/-- What is left after a run begins with what stopped it. -/
theorem head?_dropWhile {xs : List α} : ∀ x ∈ (xs.dropWhile p).head?, p x = false := by
  intro x hx
  have h := List.head?_dropWhile_not p xs
  rwa [Option.mem_def.mp hx] at h

/-- A run begins where the text begins. -/
theorem head?_takeWhile {xs : List α} :
    ∀ x ∈ (xs.takeWhile p).head?, x ∈ xs.head? ∧ p x = true := by
  intro x hx
  cases xs with
  | nil => cases hx
  | cons y xs =>
      by_cases hy : p y = true
      · rw [List.takeWhile_cons_of_pos hy] at hx
        cases hx
        exact ⟨rfl, hy⟩
      · rw [List.takeWhile_cons_of_neg hy] at hx
        cases hx

/-! ### The first separator -/

variable {sep : Char} {cs key value : List Char}

/-- What stands before the first separator, and after it. -/
def cut (sep : Char) (cs : List Char) : Option (List Char × List Char) :=
  match cs.dropWhile (· != sep) with
  | [] => none
  | _ :: value => some (cs.takeWhile (· != sep), value)

theorem cut_append (h : sep ∉ key) : cut sep (key ++ sep :: value) = some (key, value) := by
  have hkey : ∀ c ∈ key, (c != sep) = true := fun c hc =>
    bne_iff_ne.mpr fun heq => h (heq ▸ hc)
  have hsep : ∀ c ∈ (sep :: value).head?, (c != sep) = false := by
    rintro c ⟨⟩
    exact bne_self_eq_false sep
  rw [cut, dropWhile_append_stop hkey hsep, takeWhile_append_stop hkey hsep]

theorem cut_eq_none : cut sep cs = none ↔ sep ∉ cs := by
  constructor
  · intro h hsep
    obtain ⟨key, value, rfl, hkey⟩ := List.eq_append_cons_of_mem hsep
    rw [cut_append hkey] at h
    cases h
  · intro h
    have hcs : cs.dropWhile (· != sep) = [] :=
      List.dropWhile_eq_nil_iff.mpr fun c hc => bne_iff_ne.mpr fun heq => h (heq ▸ hc)
    rw [cut, hcs]

/-! ### White space -/

/-- White space to `str.strip`. -/
def isBlank (c : Char) : Bool := isSpace c || (0x1c ≤ c.toNat && c.toNat ≤ 0x1f)

/-- Without the white space around it. -/
def trim (cs : List Char) : List Char := (cs.dropWhile isBlank).rdropWhile isBlank

theorem strip_eq (s : String) : strip s = String.ofList (trim s.toList) := rfl

/-- There is no white space at its ends. -/
def IsTrim (cs : List Char) : Prop := cs.dropWhile isBlank = cs ∧ cs.rdropWhile isBlank = cs

instance (cs : List Char) : Decidable (IsTrim cs) := inferInstanceAs (Decidable (_ ∧ _))

theorem trim_pad {before after : List Char} (hbefore : ∀ c ∈ before, isBlank c = true)
    (hafter : ∀ c ∈ after, isBlank c = true) (h : IsTrim cs) :
    trim (before ++ cs ++ after) = cs := by
  rw [trim, List.append_assoc, List.dropWhile_append_of_pos hbefore]
  have hright : (cs ++ after).rdropWhile isBlank = cs := by
    rw [List.rdropWhile, List.reverse_append,
      List.dropWhile_append_of_pos fun c hc => hafter c (List.mem_reverse.mp hc)]
    exact h.2
  cases cs with
  | nil =>
      rw [List.nil_append, List.dropWhile_eq_nil_iff.mpr hafter]
      rfl
  | cons c cs =>
      have hc : ¬ isBlank c = true := by
        simpa using List.dropWhile_eq_self_iff.mp h.1
      rw [List.cons_append, List.dropWhile_cons_of_neg hc]
      exact hright

/-- A text with no white space at all. -/
theorem isTrim_of_forall (h : ∀ c ∈ cs, isBlank c = false) : IsTrim cs := by
  have hleft : ∀ {cs : List Char}, (∀ c ∈ cs, isBlank c = false) → cs.dropWhile isBlank = cs := by
    intro cs h
    cases cs with
    | nil => rfl
    | cons c cs => rw [List.dropWhile_cons_of_neg (by simp [h c])]
  refine ⟨hleft h, ?_⟩
  rw [List.rdropWhile, hleft fun c hc => h c (List.mem_reverse.mp hc), List.reverse_reverse]

theorem trim_eq_nil : trim cs = [] ↔ ∀ c ∈ cs, isBlank c = true := by
  rw [trim, List.rdropWhile_eq_nil_iff]
  constructor
  · intro h
    rw [← List.takeWhile_append_dropWhile (p := isBlank) (l := cs)]
    intro c hc
    rcases List.mem_append.mp hc with hc | hc
    · exact List.mem_takeWhile_imp hc
    · exact h c hc
  · intro h c hc
    exact h c ((List.dropWhile_suffix _).mem hc)

end OtlpClient
