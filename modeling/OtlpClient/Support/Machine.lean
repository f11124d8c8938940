import Mathlib.Data.List.Basic
import Mathlib.Tactic.Common

/-!
# Support — machines

A machine takes a step under an action, and a step puts out events.  A run is any sequence of
steps, under any actions; what it put out so far is its history.

* `Run.invariant`: what the start has and every step keeps, every run has.
* `Run.mono`: a run of fewer steps is a run.
-/

namespace OtlpClient

/-- The steps of a machine: from a state, under an action, to a state, with events. -/
abbrev Machine (S A E : Type) := S → A → S → List E → Prop

namespace Machine

variable {S A E : Type} {M N : Machine S A E} {s₀ s : S} {tr : List E}

/-- The state a run has reached, and its history. -/
inductive Run (M : Machine S A E) (s₀ : S) : S → List E → Prop where
  | start : Run M s₀ s₀ []
  | next {s s' : S} {a : A} {tr es : List E} (h : Run M s₀ s tr) (hs : M s a s' es) :
      Run M s₀ s' (tr ++ es)

/-- The steps of a machine that are taken where a condition holds. -/
def onlyIf (M : Machine S A E) (C : S → A → Prop) : Machine S A E :=
  fun s a s' es => M s a s' es ∧ C s a

theorem Run.mono (h : ∀ s a s' es, M s a s' es → N s a s' es) (hr : Run M s₀ s tr) :
    Run N s₀ s tr := by
  induction hr with
  | start => exact .start
  | next _ hs ih => exact .next ih (h _ _ _ _ hs)

theorem Run.of_onlyIf {C : S → A → Prop} (hr : Run (M.onlyIf C) s₀ s tr) : Run M s₀ s tr :=
  hr.mono fun _ _ _ _ h => h.1

theorem Run.nextIf {C : S → A → Prop} {s' : S} {a : A} {es : List E}
    (hr : Run (M.onlyIf C) s₀ s tr) (hs : M s a s' es) (hc : C s a) :
    Run (M.onlyIf C) s₀ s' (tr ++ es) :=
  hr.next ⟨hs, hc⟩

/-- What holds at the start and is kept by every step of a run holds along the run. -/
theorem Run.invariant {I : S → List E → Prop} (hr : Run M s₀ s tr) (h₀ : I s₀ [])
    (hstep : ∀ s a s' tr es, Run M s₀ s tr → I s tr → M s a s' es → I s' (tr ++ es)) :
    I s tr := by
  induction hr with
  | start => exact h₀
  | next hr hs ih => exact hstep _ _ _ _ _ hr ih hs

end Machine

end OtlpClient
