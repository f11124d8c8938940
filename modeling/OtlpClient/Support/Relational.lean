import OtlpClient.Support.Effects

/-!
# Support — two computations side by side

`Rel R x y Q E`: from states in `R`, both computations return values in `Q` or both raise exceptions
in `E`, and they leave states in `R`.

* `Rel.bind`, `Rel.tryCatch`: the rules of sequencing and of `try`.
* `Rel.iterate`: two loops go round as often.
-/

namespace OtlpClient

/-- Both return, or both raise. -/
inductive Both {ε α β : Type} (Q : α → β → Prop) (E : ε → ε → Prop) :
    Except ε α → Except ε β → Prop where
  | ok {a : α} {b : β} (h : Q a b) : Both Q E (.ok a) (.ok b)
  | error {e e' : ε} (h : E e e') : Both Q E (.error e) (.error e')

namespace Effect

variable {ε σ τ α β α' β' : Type}

/-- Both computations end alike, in related states. -/
def Rel (R : σ → τ → Prop) (x : Effect ε σ α) (y : Effect ε τ β) (Q : α → β → Prop)
    (E : ε → ε → Prop) : Prop :=
  ∀ s t, R s t → Both Q E (x s).1 (y t).1 ∧ R (x s).2 (y t).2

namespace Rel

variable {R : σ → τ → Prop} {Q : α → β → Prop} {Q' : α' → β' → Prop} {E F : ε → ε → Prop}
  {x : Effect ε σ α} {y : Effect ε τ β}

theorem pure {a : α} {b : β} (h : Q a b) :
    Rel R (Pure.pure a : Effect ε σ α) (Pure.pure b : Effect ε τ β) Q E :=
  fun _ _ hst => ⟨.ok h, hst⟩

theorem throw {e e' : ε} (h : E e e') :
    Rel R (MonadExcept.throw e : Effect ε σ α) (MonadExcept.throw e' : Effect ε τ β) Q E :=
  fun _ _ hst => ⟨.error h, hst⟩

theorem bind {f : α → Effect ε σ α'} {g : β → Effect ε τ β'} (h : Rel R x y Q E)
    (hfg : ∀ a b, Q a b → Rel R (f a) (g b) Q' E) : Rel R (x >>= f) (y >>= g) Q' E := by
  intro s t hst
  have hxy := h s t hst
  rw [bind_apply, bind_apply]
  rcases hx : x s with ⟨ex, s'⟩
  rcases hy : y t with ⟨ey, t'⟩
  rw [hx, hy] at hxy
  obtain ⟨hends, hst'⟩ := hxy
  cases hends with
  | ok hab => exact hfg _ _ hab s' t' hst'
  | error he => exact ⟨.error he, hst'⟩

theorem tryCatch {f : ε → Effect ε σ α} {g : ε → Effect ε τ β} (h : Rel R x y Q F)
    (hfg : ∀ e e', F e e' → Rel R (f e) (g e') Q E) :
    Rel R (MonadExcept.tryCatch x f) (MonadExcept.tryCatch y g) Q E := by
  intro s t hst
  have hxy := h s t hst
  rw [tryCatch_apply, tryCatch_apply]
  rcases hx : x s with ⟨ex, s'⟩
  rcases hy : y t with ⟨ey, t'⟩
  rw [hx, hy] at hxy
  obtain ⟨hends, hst'⟩ := hxy
  cases hends with
  | ok hab => exact ⟨.ok hab, hst'⟩
  | error he => exact hfg _ _ he s' t' hst'

/-- The states are related when they are read. -/
theorem get : Rel R (MonadState.get : Effect ε σ σ) (MonadState.get : Effect ε τ τ) R E :=
  fun _ _ hst => ⟨.ok hst, hst⟩

theorem modifies {f : σ → σ} {g : τ → τ} (h : ∀ s t, R s t → R (f s) (g t)) :
    Rel R (modify f : Effect ε σ PUnit) (modify g : Effect ε τ PUnit) (fun _ _ => True) E :=
  fun s t hst => ⟨.ok True.intro, h s t hst⟩

theorem call {answer : σ → Except ε α} {record : Except ε α → σ → σ}
    {answer' : τ → Except ε β} {record' : Except ε β → τ → τ}
    (hanswer : ∀ s t, R s t → Both Q E (answer s) (answer' t))
    (hrecord : ∀ s t r r', R s t → Both Q E r r' → R (record r s) (record' r' t)) :
    Rel R (Effect.call answer record) (Effect.call answer' record') Q E :=
  fun s t hst => ⟨hanswer s t hst, hrecord s t _ _ hst (hanswer s t hst)⟩

/-- Two loops that go round alike end alike. -/
theorem iterate {S : α' → β' → Prop} {body : α' → Effect ε σ (α ⊕ α')}
    {body' : β' → Effect ε τ (β ⊕ β')}
    (hbody : ∀ b c, S b c → Rel R (body b) (body' c) (Sum.LiftRel Q S) E) :
    ∀ (rounds : Nat) (b : α') (c : β'), S b c →
      Rel R (Effect.iterate body rounds b) (Effect.iterate body' rounds c) (Option.Rel Q) E
  | 0, _, _, _ => pure .none
  | rounds + 1, b, c, hbc => by
      refine bind (hbody b c hbc) fun r r' hr => ?_
      cases hr with
      | inl hab => exact pure (.some hab)
      | inr hbc' => exact iterate hbody rounds _ _ hbc'

end Rel

end Effect

end OtlpClient
