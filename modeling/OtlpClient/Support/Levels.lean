import OtlpClient.Support.Raising

/-!
# Support — nesting

How deep the elements of a container are, and what two counts of levels agree on.

* `deepest`: the depth of the deepest element; `Levels`: what a format counts.
* `SameFrom`: two depths pass the same limits, from a limit on.
* `Ensures.deepest_mapM`: a loop that keeps the depth of each element keeps that of the deepest.
-/

namespace OtlpClient

variable {ε α β : Type}

/-- The depth of the deepest element, `0` where there is none. -/
def deepest (depth : α → Nat) : List α → Nat
  | [] => 0
  | x :: xs => max (depth x) (deepest depth xs)

@[simp] theorem deepest_nil (depth : α → Nat) : deepest depth [] = 0 := rfl

@[simp]
theorem deepest_cons (depth : α → Nat) (x : α) (xs : List α) :
    deepest depth (x :: xs) = max (depth x) (deepest depth xs) := rfl

theorem deepest_le {depth : α → Nat} {k : Nat} {xs : List α} (h : ∀ x ∈ xs, depth x ≤ k) :
    deepest depth xs ≤ k := by
  induction xs with
  | nil => exact Nat.zero_le k
  | cons x xs ih =>
      obtain ⟨hx, hxs⟩ := List.forall_mem_cons.mp h
      exact Nat.max_le.mpr ⟨hx, ih hxs⟩

@[simp]
theorem deepest_map (depth : β → Nat) (f : α → β) (xs : List α) :
    deepest depth (xs.map f) = deepest (fun x => depth (f x)) xs := by
  induction xs with
  | nil => rfl
  | cons x xs ih => rw [List.map_cons, deepest_cons, ih, deepest_cons]

/-- Elements without a level. -/
@[simp]
theorem deepest_zero (xs : List α) : deepest (fun _ => 0) xs = 0 := by
  induction xs with
  | nil => rfl
  | cons x xs ih => rw [deepest_cons, ih, Nat.max_self]

/-- What a format counts as levels: a list next to its elements, and a list without any. -/
structure Levels where
  list : Nat
  empty : Nat

/-- The levels of a list, by whether it is empty and how deep its elements are. -/
def Levels.wrap (c : Levels) (isEmpty : Bool) (inner : Nat) : Nat :=
  if isEmpty then c.empty else c.list + inner

/-- The levels of a list that may be left out when it is empty. -/
def Levels.field (c : Levels) (depth : α → Nat) (xs : List α) : Nat := c.list + deepest depth xs

/-! ### The same limits -/

/-- Depths that pass the same limits, from the limit `k` on. -/
def SameFrom (k a b : Nat) : Prop := max a k = max b k

namespace SameFrom

variable {k l a b a' b' n : Nat}

theorem le_iff (h : SameFrom k a b) (hn : k ≤ n) : a ≤ n ↔ b ≤ n := by
  unfold SameFrom at h
  omega

theorem of_eq (h : a = b) : SameFrom k a b := congrArg (Max.max · k) h

/-- Depths within the limit. -/
theorem of_le (ha : a ≤ k) (hb : b ≤ k) : SameFrom k a b := by
  unfold SameFrom
  omega

theorem mono (h : SameFrom k a b) (hkl : k ≤ l) : SameFrom l a b := by
  unfold SameFrom at h ⊢
  omega

/-- One level more. -/
theorem succ (h : SameFrom k a b) : SameFrom (k + 1) (1 + a) (1 + b) := by
  unfold SameFrom at h ⊢
  omega

/-- The deeper of two. -/
theorem max (h : SameFrom k a b) (h' : SameFrom l a' b') :
    SameFrom (Max.max k l) (Max.max a a') (Max.max b b') := by
  unfold SameFrom at h h' ⊢
  omega

/-- What is within the limit may be left out. -/
theorem max_of_le (h : SameFrom k a b) (ha' : a' ≤ k) : SameFrom k (Max.max a a') b := by
  unfold SameFrom at h ⊢
  omega

theorem le_max (h : SameFrom k a b) (ha' : a' ≤ k) : SameFrom k (Max.max a' a) b := by
  unfold SameFrom at h ⊢
  omega

end SameFrom

/-- Elements within the limit may be left out. -/
theorem deepest_filter {depth : α → Nat} {p : α → Bool} {k : Nat} {xs : List α}
    (h : ∀ x ∈ xs, p x = false → depth x ≤ k) :
    SameFrom k (deepest depth (xs.filter p)) (deepest depth xs) := by
  unfold SameFrom
  induction xs with
  | nil => rfl
  | cons x xs ih =>
      obtain ⟨hx, hxs⟩ := List.forall_mem_cons.mp h
      have ih := ih hxs
      cases hp : p x with
      | true =>
          rw [List.filter_cons_of_pos hp, deepest_cons, deepest_cons]
          omega
      | false =>
          have hle := hx hp
          rw [List.filter_cons_of_neg (by rw [hp]; exact Bool.false_ne_true), deepest_cons]
          omega

/-- What a loop makes of elements is as deep as they are. -/
theorem Ensures.deepest_mapM {f : α → Except ε β} {depth : β → Nat} {depth' : α → Nat} {k : Nat}
    {xs : List α} (h : ∀ x, Ensures (f x) fun y => SameFrom k (depth y) (depth' x)) :
    Ensures (xs.mapM f) fun ys => SameFrom k (deepest depth ys) (deepest depth' xs) := by
  induction xs with
  | nil => exact Ensures.pure rfl
  | cons x xs ih =>
      rw [List.mapM_cons]
      refine Ensures.bind (h x) fun y hy => Ensures.bind ih fun ys hys => Ensures.pure ?_
      rw [deepest_cons, deepest_cons]
      exact (hy.max hys).mono (Nat.max_le.mpr ⟨Nat.le_refl k, Nat.le_refl k⟩)

end OtlpClient
