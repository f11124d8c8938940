import Mathlib.Data.List.Basic
import Mathlib.Tactic.Common

/-!
# Support — Python

The built-in exceptions the modelled code raises or catches, and dicts.

* `Dict.mem_keys_update`, `Dict.nodup_keys_update`: the keys of a merge.
* `Dict.mem_update`: the items merged in are in the merge.
* `Dict.map_update`: a function of the values goes into a merge.
-/

namespace OtlpClient

/-- A built-in exception, with `str(exc)`. -/
inductive PyError where
  | typeError (message : String)
  | valueError (message : String)
  | overflowError (message : String)
  | keyError (message : String)
  | notImplementedError (message : String)
  deriving DecidableEq, Repr

def PyError.text : PyError → String
  | .typeError message | .valueError message | .overflowError message | .keyError message
  | .notImplementedError message => message

/-! ### Dicts -/

/-- `d[k] = v`: in the place of the key where there is one, else at the end. -/
def Dict.set {β : Type} : List (String × β) → String → β → List (String × β)
  | [], k, v => [(k, v)]
  | (k', v') :: d, k, v => if k' = k then (k, v) :: d else (k', v') :: Dict.set d k v

/-- `{**d, **d'}`. -/
def Dict.update {β : Type} (d d' : List (String × β)) : List (String × β) :=
  d'.foldl (fun d kv => Dict.set d kv.1 kv.2) d

namespace Dict

variable {β : Type} {d d' : List (String × β)} {k : String} {v : β}

/-- The keys, in order. -/
def keys (d : List (String × β)) : List String := d.map Prod.fst

theorem set_cons {kv : String × β} :
    set (kv :: d) k v = if kv.1 = k then (k, v) :: d else kv :: set d k v := rfl

theorem mem_keys_of_mem {kv : String × β} (h : kv ∈ d) : kv.1 ∈ keys d :=
  List.mem_map_of_mem h

theorem mem_keys_set {x : String} : x ∈ keys (set d k v) ↔ x = k ∨ x ∈ keys d := by
  induction d with
  | nil => simp [set, keys]
  | cons kv d ih =>
      obtain ⟨k', v'⟩ := kv
      rw [set_cons]
      by_cases hk : k' = k
      · subst hk
        rw [if_pos rfl]
        simp [keys]
      · rw [if_neg hk]
        simp only [keys, List.map_cons, List.mem_cons] at ih ⊢
        rw [ih]
        tauto

theorem nodup_keys_set (h : (keys d).Nodup) : (keys (set d k v)).Nodup := by
  induction d with
  | nil => simp [set, keys]
  | cons kv d ih =>
      obtain ⟨k', v'⟩ := kv
      obtain ⟨hk', hd⟩ := List.nodup_cons.mp h
      rw [set_cons]
      by_cases hk : k' = k
      · subst hk
        rw [if_pos rfl]
        exact List.nodup_cons.mpr ⟨hk', hd⟩
      · rw [if_neg hk]
        refine List.nodup_cons.mpr ⟨fun hm => ?_, ih hd⟩
        exact (mem_keys_set.mp hm).elim hk hk'

/-- A new key goes to the end. -/
theorem set_new (h : k ∉ keys d) : set d k v = d ++ [(k, v)] := by
  induction d with
  | nil => rfl
  | cons kv d ih =>
      obtain ⟨k', v'⟩ := kv
      obtain ⟨hk, hd⟩ := not_or.mp (mt List.mem_cons.mpr h)
      rw [set_cons, if_neg (Ne.symm hk), ih hd, List.cons_append]

theorem mem_set_self : (k, v) ∈ set d k v := by
  induction d with
  | nil => exact List.mem_singleton_self _
  | cons kv d ih =>
      rw [set_cons]
      split
      · exact List.mem_cons_self ..
      · exact List.mem_cons_of_mem _ ih

/-- The items at the other keys stay. -/
theorem mem_set_of_ne {kv : String × β} (hk : kv.1 ≠ k) (h : kv ∈ d) : kv ∈ set d k v := by
  induction d with
  | nil => cases h
  | cons kv' d ih =>
      rw [set_cons]
      rcases List.mem_cons.mp h with rfl | h
      · rw [if_neg hk]
        exact List.mem_cons_self ..
      · split
        · exact List.mem_cons_of_mem _ h
        · exact List.mem_cons_of_mem _ (ih h)

theorem mem_keys_update {x : String} : x ∈ keys (update d d') ↔ x ∈ keys d ∨ x ∈ keys d' := by
  induction d' generalizing d with
  | nil => simp [update, keys]
  | cons kv d' ih =>
      change x ∈ keys (update (set d kv.1 kv.2) d') ↔ _
      rw [ih, mem_keys_set]
      simp only [keys, List.map_cons, List.mem_cons]
      tauto

theorem nodup_keys_update (h : (keys d).Nodup) : (keys (update d d')).Nodup := by
  induction d' generalizing d with
  | nil => exact h
  | cons kv d' ih => exact ih (nodup_keys_set h)

/-- A merge leaves the items at the other keys. -/
theorem mem_update_of_notMem {kv : String × β} (hk : kv.1 ∉ keys d') (h : kv ∈ d) :
    kv ∈ update d d' := by
  induction d' generalizing d with
  | nil => exact h
  | cons kv' d' ih =>
      have hne : kv.1 ≠ kv'.1 := fun heq => hk (by rw [heq]; exact List.mem_cons_self ..)
      exact ih (fun hm => hk (List.mem_cons_of_mem _ hm)) (mem_set_of_ne hne h)

theorem mem_update (h : (keys d').Nodup) {kv : String × β} (hkv : kv ∈ d') :
    kv ∈ update d d' := by
  induction d' generalizing d with
  | nil => cases hkv
  | cons kv' d' ih =>
      obtain ⟨hk, hd'⟩ := List.nodup_cons.mp h
      rcases List.mem_cons.mp hkv with rfl | hkv
      · exact @mem_update_of_notMem _ _ d' _ hk mem_set_self
      · exact ih hd' hkv

/-- A function of the values goes into a dict. -/
theorem map_set {γ : Type} (f : β → γ) :
    (set d k v).map (fun kv => (kv.1, f kv.2)) =
      set (d.map fun kv => (kv.1, f kv.2)) k (f v) := by
  induction d with
  | nil => rfl
  | cons kv d ih =>
      rw [set_cons, List.map_cons, set_cons]
      by_cases hk : kv.1 = k
      · rw [if_pos hk, if_pos hk, List.map_cons]
      · rw [if_neg hk, if_neg hk, List.map_cons, ih]

theorem map_update {γ : Type} (f : β → γ) :
    (update d d').map (fun kv => (kv.1, f kv.2)) =
      update (d.map fun kv => (kv.1, f kv.2)) (d'.map fun kv => (kv.1, f kv.2)) := by
  induction d' generalizing d with
  | nil => rfl
  | cons kv d' ih =>
      change (update (set d kv.1 kv.2) d').map _ = _
      rw [ih, map_set]
      rfl

end Dict

/-- Header names and values, `Mapping[str, str]`. -/
abbrev Headers := List (String × String)

end OtlpClient
