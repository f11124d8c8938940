import Mathlib.Algebra.Order.BigOperators.Group.Finset
import OtlpClient.Support.Machine

/-!
# Support — ranks

How many steps of a kind a run can take, where the steps lower a rank: a bound of what is left.

* `Run.taken_le`: a rank that some actions lower, and that the others raise where they are calls,
  bounds how often the first are taken.
* `sum_update`, `mem_of_update`: the rank of many tasks, one of which moves.
-/

namespace OtlpClient

namespace Machine

variable {S A E : Type} {M : Machine S A E} {s₀ s : S}

/-- The machine that puts out the actions it is under. -/
def taken (M : Machine S A E) : Machine S A A := fun s a s' as => as = [a] ∧ ∃ es, M s a s' es

/-- The rank of a state, here a bound of it, goes down by one with each action of its own, and up by
`k` at most with a call. -/
theorem Run.taken_le {Rank : S → Nat → Prop} {own call : A → Bool} {k : Nat} {as : List A}
    {n₀ : Nat} (hr : Run M.taken s₀ s as) (h₀ : Rank s₀ n₀)
    (hown : ∀ s a s' es n, own a = true → M s a s' es → Rank s n →
      ∃ n', Rank s' n' ∧ n' + 1 ≤ n)
    (hother : ∀ s a s' es n, own a = false → M s a s' es → Rank s n →
      ∃ n', Rank s' n' ∧ n' ≤ n + if call a then k else 0) :
    ∃ n, Rank s n ∧ as.countP own + n ≤ n₀ + k * as.countP call := by
  induction hr with
  | start => exact ⟨n₀, h₀, by simp⟩
  | @next s s' a as bs _ hs ih =>
      obtain ⟨n, hn, hle⟩ := ih
      obtain ⟨rfl, es, hs⟩ := hs
      rw [List.countP_append, List.countP_append, List.countP_singleton, List.countP_singleton,
        Nat.mul_add]
      cases ha : own a with
      | true =>
          obtain ⟨n', hn', hlt⟩ := hown s a s' es n ha hs hn
          refine ⟨n', hn', ?_⟩
          rw [if_pos rfl]
          omega
      | false =>
          obtain ⟨n', hn', hlt⟩ := hother s a s' es n ha hs hn
          refine ⟨n', hn', ?_⟩
          rw [if_neg Bool.false_ne_true]
          by_cases hc : call a = true
          · rw [if_pos hc] at hlt ⊢
            omega
          · rw [if_neg hc] at hlt ⊢
            omega

end Machine

/-! ### Many tasks -/

variable {ι β : Type} [DecidableEq ι] {f : ι → β} {i : ι} {tasks : Finset ι}

/-- One task moves. -/
theorem sum_update (rank : β → Nat) (f : ι → β) (hi : i ∈ tasks) (b : β) :
    ∑ j ∈ tasks, rank (Function.update f i b j) + rank (f i) =
      ∑ j ∈ tasks, rank (f j) + rank b := by
  have hothers : ∑ j ∈ tasks.erase i, rank (Function.update f i b j) =
      ∑ j ∈ tasks.erase i, rank (f j) :=
    Finset.sum_congr rfl fun j hj => by
      rw [Function.update_of_ne (Finset.ne_of_mem_erase hj)]
  rw [← Finset.add_sum_erase tasks _ hi, ← Finset.add_sum_erase tasks (fun j => rank (f j)) hi,
    hothers, Function.update_self]
  omega

/-- And no other begins to. -/
theorem mem_of_update {idle b : β} (hi : i ∈ tasks) (hall : ∀ j, f j ≠ idle → j ∈ tasks) (j : ι)
    (h : Function.update f i b j ≠ idle) : j ∈ tasks := by
  by_cases heq : j = i
  · rw [heq]
    exact hi
  · rw [Function.update_of_ne heq] at h
    exact hall j h

end OtlpClient
