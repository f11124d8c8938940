import Mathlib.Data.List.Basic
import Mathlib.Tactic.Common

/-!
# Support — computations that may raise

What a computation in `Except` gives when it returns.

* `Yields`: it returns, with a value of the property.  `yields_bind` and `yields_mapM` take a
  sequence and a loop apart.
* `Ensures`: where it returns, the value has the property.
* `Raises`: it does not return.
-/

namespace OtlpClient

variable {ε α β : Type}

/-- The computation returns a value with the property. -/
def Yields (x : Except ε α) (P : α → Prop) : Prop := ∃ a, x = .ok a ∧ P a

/-- What the computation returns, if it returns, has the property. -/
def Ensures (x : Except ε α) (P : α → Prop) : Prop := ∀ a, x = .ok a → P a

/-- The computation raises. -/
def Raises (x : Except ε α) : Prop := ∃ e, x = .error e

theorem ok_bind (a : α) (f : α → Except ε β) : ((Except.ok a : Except ε α) >>= f) = f a := rfl

/-- A sequence returns what its last computation returns. -/
theorem bind_eq_ok {x : Except ε α} {f : α → Except ε β} {b : β} :
    (x >>= f) = .ok b ↔ ∃ a, x = .ok a ∧ f a = .ok b := by
  cases x with
  | ok a =>
      rw [ok_bind]
      exact ⟨fun h => ⟨a, rfl, h⟩, fun ⟨_, ha, h⟩ => (Except.ok.inj ha) ▸ h⟩
  | error e => exact iff_of_false nofun nofun

theorem pure_ok (a : α) : (pure a : Except ε α) = .ok a := rfl

/-- A computation raises or returns. -/
theorem raises_iff {x : Except ε α} : Raises x ↔ ¬ Yields x fun _ => True := by
  cases x with
  | ok a => exact iff_of_false nofun (not_not_intro ⟨a, rfl, trivial⟩)
  | error e => exact iff_of_true ⟨e, rfl⟩ nofun

section Yields

variable {x : Except ε α} {f : α → Except ε β} {a : α} {e : ε} {p : Prop} {P : α → Prop}
  {Q : β → Prop}

theorem yields_congr {P Q : α → Prop} (h : ∀ a, P a ↔ Q a) : Yields x P ↔ Yields x Q := by
  rw [funext fun a => propext (h a)]

@[simp]
theorem yields_ok : Yields (.ok a : Except ε α) P ↔ P a := by
  constructor
  · rintro ⟨b, ⟨⟩, hb⟩
    exact hb
  · intro h
    exact ⟨a, rfl, h⟩

@[simp]
theorem yields_pure : Yields (pure a : Except ε α) P ↔ P a := yields_ok

@[simp]
theorem yields_error : ¬ Yields (.error e : Except ε α) P := by
  rintro ⟨b, ⟨⟩, -⟩

@[simp]
theorem yields_throw : ¬ Yields (throw e : Except ε α) P := yields_error

@[simp]
theorem yields_false : ¬ Yields x fun _ => False := by
  rintro ⟨a, -, h⟩
  exact h

@[simp]
theorem yields_bind : Yields (x >>= f) Q ↔ Yields x fun a => Yields (f a) Q := by
  cases x with
  | ok a =>
      rw [yields_ok]
      exact Iff.rfl
  | error e => exact iff_of_false yields_error yields_error

@[simp]
theorem yields_map {g : α → β} : Yields (g <$> x) Q ↔ Yields x fun a => Q (g a) := by
  cases x with
  | ok a =>
      rw [yields_ok]
      exact yields_ok
  | error e => exact iff_of_false yields_error yields_error

/-- A part that does not depend on the value. -/
@[simp]
theorem yields_and_left : Yields x (fun a => p ∧ P a) ↔ p ∧ Yields x P := by
  constructor
  · rintro ⟨a, ha, hp, hP⟩
    exact ⟨hp, a, ha, hP⟩
  · rintro ⟨hp, a, ha, hP⟩
    exact ⟨a, ha, hp, hP⟩

@[simp]
theorem yields_and_right : Yields x (fun a => P a ∧ p) ↔ Yields x P ∧ p := by
  constructor
  · rintro ⟨a, ha, hP, hp⟩
    exact ⟨⟨a, ha, hP⟩, hp⟩
  · rintro ⟨⟨a, ha, hP⟩, hp⟩
    exact ⟨a, ha, hP, hp⟩

/-- A loop returns where each round does. -/
theorem yields_mapM {xs : List α} :
    Yields (xs.mapM f) (fun bs => ∀ b ∈ bs, Q b) ↔ ∀ a ∈ xs, Yields (f a) Q := by
  induction xs with
  | nil =>
      rw [List.mapM_nil, yields_pure]
      exact iff_of_true nofun nofun
  | cons a xs ih =>
      rw [List.mapM_cons, List.forall_mem_cons, ← ih]
      simp only [yields_bind, yields_pure, List.forall_mem_cons, yields_and_left, yields_and_right]

end Yields

namespace Ensures

variable {x : Except ε α} {f : α → Except ε β} {a : α} {e : ε} {P : α → Prop} {Q : β → Prop}

theorem pure (h : P a) : Ensures (Pure.pure a : Except ε α) P := by
  rintro b ⟨⟩
  exact h

theorem trivial : Ensures x fun _ => True := fun _ _ => True.intro

/-- What holds of every value returned adds nothing. -/
theorem yields_iff (h : Ensures x P) : Yields x (fun _ => True) ↔ Yields x P := by
  constructor
  · rintro ⟨a, ha, -⟩
    exact ⟨a, ha, h a ha⟩
  · rintro ⟨a, ha, -⟩
    exact ⟨a, ha, True.intro⟩

/-- Properties that agree on what is returned. -/
theorem yields_congr {P' : α → Prop} (h : Ensures x fun a => P a ↔ P' a) :
    Yields x P ↔ Yields x P' := by
  constructor
  · rintro ⟨a, ha, hP⟩
    exact ⟨a, ha, (h a ha).mp hP⟩
  · rintro ⟨a, ha, hP⟩
    exact ⟨a, ha, (h a ha).mpr hP⟩

theorem throw : Ensures (MonadExcept.throw e : Except ε α) P := by
  rintro b ⟨⟩

theorem bind (hx : Ensures x P) (hf : ∀ a, P a → Ensures (f a) Q) : Ensures (x >>= f) Q := by
  cases x with
  | ok a => exact hf a (hx a rfl)
  | error e => rintro b ⟨⟩

theorem mapM {xs : List α} (h : ∀ a ∈ xs, Ensures (f a) Q) :
    Ensures (xs.mapM f) fun bs => ∀ b ∈ bs, Q b := by
  induction xs with
  | nil =>
      rw [List.mapM_nil]
      exact pure nofun
  | cons a xs ih =>
      obtain ⟨ha, hxs⟩ := List.forall_mem_cons.mp h
      rw [List.mapM_cons]
      exact bind ha fun b hb => bind (ih hxs) fun bs hbs =>
        pure (List.forall_mem_cons.mpr ⟨hb, hbs⟩)

end Ensures

end OtlpClient
