import Mathlib.Data.List.Basic
import Mathlib.Tactic.Common

/-!
# Support — computations that raise

A computation on a state returns or raises, and keeps what it did to the state either way.
`Spec P x Q E` is the triple of such a computation: from a state in `P` it returns in `Q` or raises
in `E`.

* `Spec.bind`, `Spec.tryCatch`: the rules of sequencing and of `try`.
* `Spec.iterate`, `Spec.iterate_count`: the rules of a loop, cut off after any number of rounds.
-/

namespace OtlpClient

/-- A computation on a state `σ` that may raise an `ε`. -/
abbrev Effect (ε σ α : Type) := ExceptT ε (StateM σ) α

namespace Effect

variable {ε σ α β : Type}

/-- Answer from the state, and record the answer in it. -/
def call (answer : σ → Except ε α) (record : Except ε α → σ → σ) : Effect ε σ α := fun s =>
  (answer s, record (answer s) s)

/-- What does nothing to the state. -/
def lift (x : Except ε α) : Effect ε σ α := fun s => (x, s)

/-- `while True: ...`, for at most so many rounds: a round ends the loop with a value or goes on
with the next loop state.  `none` is a loop that is still running. -/
def iterate (body : β → Effect ε σ (α ⊕ β)) : Nat → β → Effect ε σ (Option α)
  | 0, _ => pure none
  | rounds + 1, b => do
      match ← body b with
      | .inl a => return some a
      | .inr b' => iterate body rounds b'

theorem bind_apply (x : Effect ε σ α) (f : α → Effect ε σ β) (s : σ) :
    (x >>= f) s = match x s with
      | (.ok a, s') => f a s'
      | (.error e, s') => (.error e, s') := by
  change ExceptT.bindCont f (x s).1 (x s).2 = _
  rcases x s with ⟨e | a, s'⟩ <;> rfl

theorem tryCatch_apply (x : Effect ε σ α) (f : ε → Effect ε σ α) (s : σ) :
    (tryCatch x f : Effect ε σ α) s = match x s with
      | (.ok a, s') => (.ok a, s')
      | (.error e, s') => f e s' := by
  change ExceptT.tryCatch x f s = _
  unfold ExceptT.tryCatch
  change (match (x s).1 with
    | Except.ok a => (Pure.pure (Except.ok a) : StateM σ (Except ε α))
    | Except.error e => f e) (x s).2 = _
  rcases x s with ⟨e | a, s'⟩ <;> rfl

/-- From `P` the computation returns in `Q` or raises in `E`. -/
def Spec (P : σ → Prop) (x : Effect ε σ α) (Q : α → σ → Prop) (E : ε → σ → Prop) : Prop :=
  ∀ s, P s → match x s with
    | (.ok a, s') => Q a s'
    | (.error e, s') => E e s'

namespace Spec

variable {P P' : σ → Prop} {Q Q' : α → σ → Prop} {R : β → σ → Prop} {E E' : ε → σ → Prop}
  {x : Effect ε σ α}

theorem pure {a : α} (h : ∀ s, P s → Q a s) : Spec P (Pure.pure a : Effect ε σ α) Q E :=
  fun s hs => h s hs

theorem throw {e : ε} (h : ∀ s, P s → E e s) :
    Spec P (MonadExcept.throw e : Effect ε σ α) Q E :=
  fun s hs => h s hs

theorem bind {f : α → Effect ε σ β} (hx : Spec P x Q E) (hf : ∀ a, Spec (Q a) (f a) R E) :
    Spec P (x >>= f) R E := by
  intro s hs
  have h := hx s hs
  rw [bind_apply]
  rcases hxs : x s with ⟨e | a, s'⟩ <;> rw [hxs] at h
  · exact h
  · exact hf a s' h

theorem conseq (hx : Spec P x Q E) (hP : ∀ s, P' s → P s) (hQ : ∀ a s, Q a s → Q' a s)
    (hE : ∀ e s, E e s → E' e s) : Spec P' x Q' E' := by
  intro s hs
  have h := hx s (hP s hs)
  rcases hxs : x s with ⟨e | a, s'⟩ <;> rw [hxs] at h
  · exact hE e s' h
  · exact hQ a s' h

/-- A part of the precondition that does not depend on the state. -/
theorem of_and {p : Prop} (h : p → Spec P x Q E) : Spec (fun s => p ∧ P s) x Q E :=
  fun s hs => h hs.1 s hs.2

theorem of_exists {ι : Type} {P : ι → σ → Prop} (h : ∀ i, Spec (P i) x Q E) :
    Spec (fun s => ∃ i, P i s) x Q E :=
  fun s ⟨i, hs⟩ => h i s hs

/-- What holds of the state however the computation ends. -/
theorem state {R : σ → Prop} (h : Spec P x (fun _ => R) fun _ => R) {s : σ} (hs : P s) :
    R (x s).2 := by
  have h := h s hs
  rcases hxs : x s with ⟨e | a, s'⟩ <;> rw [hxs] at h
  · exact h
  · exact h

theorem trivial : Spec P x (fun _ _ => True) fun _ _ => True := by
  intro s _
  rcases x s with ⟨e | a, s'⟩
  · exact True.intro
  · exact True.intro

/-- `try: ... except: ...`. -/
theorem tryCatch {f : ε → Effect ε σ α} {F : ε → σ → Prop} (hx : Spec P x Q F)
    (hf : ∀ e, Spec (F e) (f e) Q E) : Spec P (MonadExcept.tryCatch x f) Q E := by
  intro s hs
  have h := hx s hs
  rw [tryCatch_apply]
  rcases hxs : x s with ⟨e | a, s'⟩ <;> rw [hxs] at h
  · exact hf e s' h
  · exact h

theorem get : Spec P (MonadState.get : Effect ε σ σ) (fun a s => a = s ∧ P s) E :=
  fun _ hs => ⟨rfl, hs⟩

theorem modifies {f : σ → σ} {I : σ → Prop} (h : ∀ s, P s → I (f s)) :
    Spec P (modify f : Effect ε σ PUnit) (fun _ => I) E :=
  fun s hs => h s hs

theorem call {answer : σ → Except ε α} {record : Except ε α → σ → σ}
    (hok : ∀ s a, P s → answer s = .ok a → Q a (record (.ok a) s))
    (herror : ∀ s e, P s → answer s = .error e → E e (record (.error e) s)) :
    Spec P (Effect.call answer record) Q E := by
  intro s hs
  rw [Effect.call]
  cases ha : answer s with
  | ok a => exact hok s a hs ha
  | error e => exact herror s e hs ha

theorem lift {x : Except ε α} (hok : ∀ a s, x = .ok a → P s → Q a s)
    (herror : ∀ e s, x = .error e → P s → E e s) : Spec P (Effect.lift x) Q E := by
  intro s hs
  rw [Effect.lift]
  cases hx : x with
  | ok a => exact hok a s hx hs
  | error e => exact herror e s hx hs

/-- A loop, by what holds after so many rounds. -/
theorem iterate_count {I : Nat → β → σ → Prop} {body : β → Effect ε σ (α ⊕ β)}
    {Q : Option α → σ → Prop}
    (hbody : ∀ n b, Spec (I n b) (body b) (Sum.elim (fun a => Q (some a)) (I (n + 1))) E) :
    ∀ (rounds n : Nat) (b : β), (∀ b s, I (n + rounds) b s → Q none s) →
      Spec (I n b) (Effect.iterate body rounds b) Q E
  | 0, n, b, hout => pure (hout b)
  | rounds + 1, n, b, hout => by
      refine bind (hbody n b) fun r => ?_
      cases r with
      | inl a => exact pure fun s hs => hs
      | inr b' =>
          refine iterate_count hbody rounds (n + 1) b' fun b s hs => hout b s ?_
          rwa [Nat.add_right_comm, Nat.add_assoc] at hs

/-- A loop keeps what each round keeps. -/
theorem iterate {I : β → σ → Prop} {body : β → Effect ε σ (α ⊕ β)} {Q : Option α → σ → Prop}
    (hbody : ∀ b, Spec (I b) (body b) (Sum.elim (fun a => Q (some a)) I) E)
    (hout : ∀ b s, I b s → Q none s) (rounds : Nat) (b : β) :
    Spec (I b) (Effect.iterate body rounds b) Q E :=
  iterate_count (I := fun _ => I) (fun _ => hbody) rounds 0 b hout

end Spec

end Effect

end OtlpClient
