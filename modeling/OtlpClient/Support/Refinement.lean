import OtlpClient.Support.History
import OtlpClient.Support.Machine

/-!
# Support — refinement

One machine read as another, and histories that several machines share.

* `Run.refines`: a machine each step of which is a run of another, through an abstraction, has no
  history that one has not.
* `Always.shared`: what one of the machines always does, it does in the history they share.
-/

namespace OtlpClient.Machine

variable {S A E T B : Type} {M : Machine S A E} {N : Machine T B E} {s₀ s s' : S}
  {tr es : List E}

/-- One run after another. -/
theorem Run.trans (h : Run M s₀ s tr) (h' : Run M s s' es) : Run M s₀ s' (tr ++ es) := by
  induction h' with
  | start => rwa [List.append_nil]
  | next _ hs ih =>
      rw [← List.append_assoc]
      exact ih.next hs

theorem Run.one {a : A} (hs : M s a s' es) : Run M s s' es := by
  have h : Run M s s' ([] ++ es) := Run.start.next hs
  rwa [List.nil_append] at h

/-- The steps of a run, seen through an abstraction, are runs of another machine. -/
theorem Run.refines {f : S → T} {I : S → Prop} (hr : Run M s₀ s tr) (h₀ : I s₀)
    (hkeep : ∀ s a s' es, M s a s' es → I s → I s')
    (hstep : ∀ s a s' es, M s a s' es → I s → Run N (f s) (f s') es) :
    Run N (f s₀) (f s) tr := by
  have hboth : I s ∧ Run N (f s₀) (f s) tr := by
    induction hr with
    | start => exact ⟨h₀, .start⟩
    | next _ hs ih => exact ⟨hkeep _ _ _ _ hs ih.1, ih.2.trans (hstep _ _ _ _ hs ih.1)⟩
  exact hboth.2

end OtlpClient.Machine

namespace OtlpClient

/-! ### Shared histories -/

variable {E F : Type} {see : E → Option F}

/-- What a machine always does, in the history it shares, of which it sees a part. -/
theorem Always.shared {P : List F → F → Prop} {tr : List E} (h : Always P (tr.filterMap see)) :
    Always (fun pre e => ∀ f, see e = some f → P (pre.filterMap see) f) tr := by
  intro pre e post htr f hf
  refine h (pre.filterMap see) f (post.filterMap see) ?_
  rw [htr, List.filterMap_append, List.filterMap_cons_some hf]

/-- Where in a shared history an event stands that a machine sees. -/
theorem exists_of_filterMap_eq {tr : List E} {pre post : List F} {f : F}
    (h : tr.filterMap see = pre ++ f :: post) : ∃ pre' e post', tr = pre' ++ e :: post' ∧
      see e = some f ∧ pre'.filterMap see = pre ∧ post'.filterMap see = post := by
  obtain ⟨pre', rest, rfl, hpre, hrest⟩ := List.filterMap_eq_append_iff.mp h
  obtain ⟨quiet, e, post', rfl, hquiet, he, hpost⟩ := List.filterMap_eq_cons_iff.mp hrest
  refine ⟨pre' ++ quiet, e, post', by rw [List.append_assoc], he, ?_, hpost⟩
  rw [List.filterMap_append, hpre, List.filterMap_eq_nil_iff.mpr hquiet, List.append_nil]

end OtlpClient
