import Mathlib.Data.List.Basic
import Mathlib.Tactic.Common

/-!
# Support — bounded deques

`collections.deque(maxlen=m)`: appending to a full one drops its left end.

* `evicted_append`: what an append drops and what it keeps are the old items and the new one.
* `evicted_full`: a full deque with room for one item drops its oldest.
-/

namespace OtlpClient

/-- A deque of at most `maxlen` items, oldest first. -/
structure Deque (α : Type) (maxlen : Nat) where
  items : List α
  bounded : items.length ≤ maxlen

namespace Deque

variable {α : Type} {m : Nat} (d : Deque α m) (x : α)

def empty : Deque α m := ⟨[], Nat.zero_le m⟩

/-- `len(d) == d.maxlen`. -/
def IsFull : Prop := d.items.length = m

instance : Decidable d.IsFull := inferInstanceAs (Decidable (_ = _))

/-- What an append drops. -/
def evicted : List α := (d.items ++ [x]).take (d.items.length + 1 - m)

/-- `d.append(x)`. -/
def append : Deque α m where
  items := (d.items ++ [x]).drop (d.items.length + 1 - m)
  bounded := by
    rw [List.length_drop, List.length_append, List.length_singleton]
    omega

@[simp] theorem items_empty : (empty : Deque α m).items = [] := rfl

theorem evicted_append : d.evicted x ++ (d.append x).items = d.items ++ [x] :=
  List.take_append_drop _ _

theorem length_evicted : (d.evicted x).length = if d.IsFull then 1 else 0 := by
  have h := d.bounded
  rw [evicted, List.length_take, List.length_append, List.length_singleton]
  by_cases hf : d.IsFull
  · rw [if_pos hf, IsFull] at *
    omega
  · rw [if_neg hf]
    have hlt : d.items.length < m := Nat.lt_of_le_of_ne h hf
    omega

/-- A full deque drops its oldest item. -/
theorem evicted_full (hm : 1 ≤ m) {y : α} (hy : y ∈ d.evicted x) :
    ∃ q, d.items = y :: q ∧ d.IsFull := by
  have hf : d.IsFull := by
    by_contra hf
    have h0 := d.length_evicted x
    rw [if_neg hf] at h0
    rw [List.eq_nil_of_length_eq_zero h0] at hy
    cases hy
  have h1 : d.items.length + 1 - m = 1 := by
    rw [IsFull] at hf
    omega
  cases hd : d.items with
  | nil =>
      rw [IsFull, hd, List.length_nil] at hf
      omega
  | cons z q =>
      rw [evicted, h1, hd] at hy
      simp only [List.cons_append, List.take_succ_cons, List.take_zero, List.mem_singleton] at hy
      subst hy
      exact ⟨q, rfl, hf⟩

end Deque

end OtlpClient
