import Mathlib.Data.List.Basic
import Mathlib.Tactic.Common

/-!
# Support — histories

What happened, oldest first, and what may happen next given what happened before.

* `Parted`: a list some positions of which were taken out, in order.
* `always_snoc`: each event of a history was allowed exactly when each one but the last was, and
  the last is.
-/

namespace OtlpClient

variable {α : Type} {P : List α → α → Prop} {tr : List α} {x : α}

/-- Every event is one `P` allows after the events before it. -/
def Always (P : List α → α → Prop) (tr : List α) : Prop :=
  ∀ pre e post, tr = pre ++ e :: post → P pre e

/-- An event of a longer history is the new one, or an event of the old one. -/
theorem snoc_eq_append_cons {pre post : List α} {e : α} (h : tr ++ [x] = pre ++ e :: post) :
    (post = [] ∧ e = x ∧ pre = tr) ∨ ∃ post', post = post' ++ [x] ∧ tr = pre ++ e :: post' := by
  rcases List.eq_nil_or_concat post with rfl | ⟨post', y, rfl⟩
  · have hx := List.append_inj' h rfl
    exact Or.inl ⟨rfl, ((List.cons.inj hx.2).1).symm, hx.1.symm⟩
  · have hy : tr ++ [x] = (pre ++ e :: post') ++ [y] := by simpa using h
    have hx := List.append_inj' hy rfl
    refine Or.inr ⟨post', ?_, hx.1⟩
    rw [List.concat_eq_append, (List.cons.inj hx.2).1]

/-- The only element of a kind stands in one place. -/
theorem unique_split {p : α → Prop} {a b c d : List α} {y : α} (ha : ∀ z ∈ a, ¬ p z)
    (hb : ∀ z ∈ b, ¬ p z) (hy : p y) (h : a ++ x :: b = c ++ y :: d) : a = c := by
  rcases List.append_eq_append_iff.mp h with ⟨c', rfl, hc⟩ | ⟨a', rfl, hc⟩
  · cases c' with
    | nil => simp
    | cons z c' =>
        -- `y` would be an element of `b`.
        have hm : y ∈ b := by
          rw [(List.cons.inj hc).2]
          simp
        exact absurd hy (hb y hm)
  · cases a' with
    | nil => simp
    | cons z a' =>
        have hm : y ∈ c ++ z :: a' := by
          rw [(List.cons.inj hc).1]
          simp
        exact absurd hy (ha y hm)

theorem always_nil : Always P [] := by
  intro pre e post h
  cases pre <;> cases h

theorem always_snoc : Always P (tr ++ [x]) ↔ Always P tr ∧ P tr x := by
  constructor
  · intro h
    refine ⟨fun pre e post htr => ?_, h tr x [] rfl⟩
    exact h pre e (post ++ [x]) (by rw [htr]; simp)
  · rintro ⟨h, hx⟩ pre e post htr
    rcases snoc_eq_append_cons htr with ⟨-, rfl, rfl⟩ | ⟨post', -, htr'⟩
    · exact hx
    · exact h pre e post' htr'

theorem Always.snoc (h : Always P tr) (hx : P tr x) : Always P (tr ++ [x]) :=
  always_snoc.mpr ⟨h, hx⟩

/-- What was allowed at first. -/
theorem Always.of_append {es : List α} (h : Always P (tr ++ es)) : Always P tr := by
  intro pre e post htr
  exact h pre e (post ++ es) (by rw [htr, List.append_assoc, List.cons_append])

/-- Events none of which is in question. -/
theorem Always.append {es : List α} (h : Always P tr) (hes : ∀ pre e, e ∈ es → P pre e) :
    Always P (tr ++ es) := by
  induction es generalizing tr with
  | nil => rwa [List.append_nil]
  | cons e es ih =>
      rw [List.append_cons]
      exact ih (h.snoc (hes tr e (List.mem_cons_self ..))) fun pre e' he' =>
        hes pre e' (List.mem_cons_of_mem _ he')

/-! ### Taking positions out of a list -/

/-- The positions of the last list are those of the first, kept, and those of the second, taken
out, each in order. -/
inductive Parted : List α → List α → List α → Prop where
  | nil : Parted [] [] []
  | keep (x : α) {kept taken all : List α} (h : Parted kept taken all) :
      Parted (x :: kept) taken (x :: all)
  | take (x : α) {kept taken all : List α} (h : Parted kept taken all) :
      Parted kept (x :: taken) (x :: all)

theorem Parted.kept (xs : List α) : Parted xs [] xs := by
  induction xs with
  | nil => exact .nil
  | cons x xs ih => exact .keep x ih

theorem Parted.taken (xs : List α) : Parted [] xs xs := by
  induction xs with
  | nil => exact .nil
  | cons x xs ih => exact .take x ih

theorem Parted.append {kept taken all kept' taken' all' : List α} (h : Parted kept taken all)
    (h' : Parted kept' taken' all') : Parted (kept ++ kept') (taken ++ taken') (all ++ all') := by
  induction h with
  | nil => exact h'
  | keep x _ ih => exact .keep x ih
  | take x _ ih => exact .take x ih

/-- What is kept stands in order in the whole. -/
theorem Parted.sublist {kept taken all : List α} (h : Parted kept taken all) :
    kept.Sublist all := by
  induction h with
  | nil => exact .slnil
  | keep x _ ih => exact ih.cons_cons x
  | take x _ ih => exact ih.cons x

end OtlpClient
