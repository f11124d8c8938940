import Mathlib.Data.List.Nodup
import Mathlib.Data.List.ReduceOption
import OtlpClient.Proto.Schema

/-!
# Proto — a document and a constructor call that agree

A JSON dict and the keyword arguments of a message class *agree* on a field when reading the
dict's entry and setting the field to the argument leave the same thing in it (`Agrees`).  If
they agree on every field of a message, the dict reads as the message the call builds
(`construct_reads`).  Nothing is asked of the order of the dict's keys or of the arguments.

`Reads S t j v` says that `j` reads as `v` at the type `t`.  The rules from it to `Agrees` are one
for each way a field is written: as it is (`Agrees.value`), left out when empty (`Agrees.sparse`,
`Agrees.list`), absent on both sides (`Agrees.absent`), left out where the call passes the
default (`Agrees.default`).
-/

namespace OtlpClient.Proto

variable {M : Type} {S : Schema M}

/-- `j` reads as `v`, a value of the type. -/
structure Reads (S : Schema M) (t : FieldType M) (j : Json) (v : Value) : Prop where
  read : readValue S t j = some v
  holds : t.holds v = true

/-- The dict's entry and the argument leave the same thing in the field. -/
def Agrees (S : Schema M) (f : FieldDesc M) (j : Option Json) (a : Option Value) : Prop :=
  ∃ v, f.set a = .ok v ∧ readOpt S f j = some v

/-! ### One field -/

theorem readScalar_null (t : FieldType M) : readScalar t .null = none := by cases t <;> rfl

theorem readScalar_arr (t : FieldType M) (js : List Json) : readScalar t (.arr js) = none := by
  cases t <;> rfl

/-- Null is no value. -/
theorem Reads.ne_null {t : FieldType M} {j : Json} {v : Value} (h : Reads S t j v) :
    j ≠ .null := by
  rintro rfl
  have hr := h.read
  cases t <;> simp [readValue, readScalar_null] at hr

/-- A list is no value. -/
theorem Reads.ne_arr {t : FieldType M} {j : Json} {v : Value} (h : Reads S t j v)
    (js : List Json) : j ≠ .arr js := by
  rintro rfl
  have hr := h.read
  cases t <;> simp [readValue, readScalar_arr] at hr

/-- A list holds only what a repeated field holds. -/
theorem set_of_holds {f : FieldDesc M} (hl : f.label ≠ .repeated) {v : Value}
    (h : f.type.holds v = true) : f.set (some v) = .ok (f.store v) := by
  unfold FieldDesc.set
  cases hf : f.label <;> simp_all

theorem readField_of_reads {f : FieldDesc M} (hl : f.label ≠ .repeated) {j : Json} {v : Value}
    (h : Reads S f.type j v) : readField S f j = some (f.store v) := by
  cases j with
  | null => exact absurd rfl h.ne_null
  | arr js => exact absurd rfl (h.ne_arr js)
  | _ => simp [readField, hl, h.read]

/-- The entry reads as the argument. -/
theorem Agrees.value {f : FieldDesc M} {j : Json} {v : Value} (h : Reads S f.type j v)
    (hl : f.label ≠ .repeated) : Agrees S f (some j) (some v) :=
  ⟨f.store v, set_of_holds hl h.holds, readField_of_reads hl h⟩

/-- No entry and no argument. -/
theorem Agrees.absent {f : FieldDesc M} : Agrees S f none none := ⟨none, rfl, rfl⟩

/-- No entry, and the default of an implicit field as the argument. -/
theorem Agrees.default {f : FieldDesc M} {v : Value} (hv : v.isDefault = true)
    (h : f.type.holds v = true) (hl : f.label = .implicit) :
    Agrees S f none (some v) := by
  refine ⟨none, ?_, rfl⟩
  rw [set_of_holds (by simp [hl]) h]
  simp [FieldDesc.store, hl, hv]

/-- An entry left out when it is empty, where only the default is written as empty. -/
theorem Agrees.sparse {f : FieldDesc M} {j : Json} {v : Value} (h : Reads S f.type j v)
    (hl : f.label = .implicit) (hj : j.isEmpty = true → v.isDefault = true) :
    Agrees S f ((some j).filter fun j => !j.isEmpty) (some v) := by
  cases hje : j.isEmpty with
  | false =>
      simp only [Option.filter, hje, Bool.not_false, if_true]
      exact Agrees.value h (by simp [hl])
  | true =>
      simp only [Option.filter, hje, Bool.not_true, Bool.false_eq_true, if_false]
      exact Agrees.default (hj hje) h.holds hl

/-- An entry that is not empty is not left out. -/
theorem Agrees.filled {f : FieldDesc M} {j : Json} {v : Value} (h : Reads S f.type j v)
    (hj : j.isEmpty = false) (hl : f.label ≠ .repeated) :
    Agrees S f ((some j).filter fun j => !j.isEmpty) (some v) := by
  simp only [Option.filter, hj, Bool.not_false, if_true]
  exact Agrees.value h hl

theorem mapM_reads {t : FieldType M} {js : List Json} {vs : List Value}
    (h : List.Forall₂ (Reads S t) js vs) :
    js.mapM (readValue S t) = some vs ∧ vs.all t.holds = true := by
  induction h with
  | nil => exact ⟨rfl, rfl⟩
  | cons hj _ ih =>
      obtain ⟨ih₁, ih₂⟩ := ih
      exact ⟨by simp [List.mapM_cons, hj.read, ih₁], by simp [hj.holds, ih₂]⟩

/-- The entry of a repeated field, kept even when it is empty. -/
theorem Agrees.kept {f : FieldDesc M} {js : List Json} {vs : List Value}
    (h : List.Forall₂ (Reads S f.type) js vs) (hl : f.label = .repeated) :
    Agrees S f (some (.arr js)) (some (.list vs)) := by
  obtain ⟨hr, hh⟩ := mapM_reads h
  refine ⟨f.store (.list vs), by simp [FieldDesc.set, hl, hh], ?_⟩
  simp [readOpt, readField, hl, hr]

/-- The entry of a repeated field, left out when it is empty. -/
theorem Agrees.list {f : FieldDesc M} {js : List Json} {vs : List Value}
    (h : List.Forall₂ (Reads S f.type) js vs) (hl : f.label = .repeated) :
    Agrees S f ((some (.arr js)).filter fun j => !j.isEmpty) (some (.list vs)) := by
  cases h with
  | nil =>
      refine ⟨none, ?_, rfl⟩
      simp [FieldDesc.set, hl, FieldDesc.store, Value.isDefault]
  | cons hj hjs => exact Agrees.kept (.cons hj hjs) hl

/-! ### One message -/

/-- The argument a call gives a field. -/
def argument (kwargs : List (String × Option Value)) (f : FieldDesc M) : Option Value :=
  (kwargs.lookup f.name).join

/-- The keys of the dict and the names of the arguments are the message's, and no two keys are
the same. -/
def Keyed (S : Schema M) (m : M) (ks names : List String) : Prop :=
  ks.Nodup ∧ (∀ k ∈ ks, k ∈ (S m).map FieldDesc.jsonName) ∧
    ∀ n ∈ names, n ∈ (S m).map FieldDesc.name

instance (m : M) (ks names : List String) : Decidable (Keyed S m ks names) :=
  inferInstanceAs (Decidable (_ ∧ _ ∧ _))

/-- The arguments set no two members of a oneof. -/
def Exclusive (S : Schema M) (m : M) (kwargs : List (String × Option Value)) : Prop :=
  ((S m).filterMap fun f => f.oneof? (argument kwargs f)).Nodup

theorem oneof?_set {f : FieldDesc M} {a v : Option Value} (h : f.set a = .ok v) :
    f.oneof? v = f.oneof? a := by
  unfold FieldDesc.oneof?
  cases hf : f.label with
  | oneof g =>
      cases a with
      | none => cases h; rfl
      | some x =>
          simp only [FieldDesc.set, hf, FieldDesc.store] at h
          split at h
          · cases h; rfl
          · cases h
  | _ => rfl

/-- Setting the fields sets the oneofs that the arguments do. -/
theorem oneofs_mapM {a : FieldDesc M → Option Value} : ∀ {fs : List (FieldDesc M)}
    {vs : List (Option Value)}, fs.mapM (fun f => f.set (a f)) = .ok vs →
      (List.zipWith FieldDesc.oneof? fs vs).reduceOption = fs.filterMap fun f => f.oneof? (a f)
  | [], vs, h => by
      cases h
      rfl
  | f :: fs, vs, h => by
      rw [List.mapM_cons] at h
      cases hset : f.set (a f) with
      | error e =>
          rw [hset] at h
          cases h
      | ok v =>
          cases hsets : fs.mapM fun f => f.set (a f) with
          | error e =>
              rw [hset, hsets] at h
              cases h
          | ok ws =>
              rw [hset, hsets] at h
              cases h
              rw [List.zipWith_cons_cons, oneof?_set hset]
              cases hf : f.oneof? (a f) with
              | none =>
                  rw [List.reduceOption_cons_of_none, oneofs_mapM hsets, List.filterMap_cons, hf]
              | some g =>
                  rw [List.reduceOption_cons_of_some, oneofs_mapM hsets, List.filterMap_cons, hf]

/-- Fields that agree one by one are read and set to the same values. -/
theorem agrees_mapM {j : FieldDesc M → Option Json} {a : FieldDesc M → Option Value} :
    ∀ {fs : List (FieldDesc M)}, (∀ f ∈ fs, Agrees S f (j f) (a f)) →
      ∃ vs, fs.mapM (fun f => f.set (a f)) = .ok vs ∧
        fs.mapM (fun f => readOpt S f (j f)) = some vs
  | [], _ => ⟨[], rfl, rfl⟩
  | f :: fs, h => by
      obtain ⟨v, hset, hread⟩ := h f List.mem_cons_self
      obtain ⟨vs, hsets, hreads⟩ := agrees_mapM fun f' hf' => h f' (List.mem_cons_of_mem _ hf')
      refine ⟨v :: vs, ?_, ?_⟩
      · rw [List.mapM_cons, hset, hsets]; rfl
      · rw [List.mapM_cons, hread, hreads]; rfl

/-- Every argument is of a field of the message. -/
theorem known_arguments {m : M} {kwargs : List (String × Option Value)}
    (h : ∀ n ∈ kwargs.map Prod.fst, n ∈ (S m).map FieldDesc.name) :
    (kwargs.any fun kw => !(S m).any fun f => f.name == kw.1) = false := by
  rw [List.any_eq_false]
  intro kw hkw
  obtain ⟨f, hf, e⟩ := List.mem_map.mp (h kw.1 (List.mem_map_of_mem hkw))
  simp only [Bool.not_eq_true', Bool.not_eq_false, List.any_eq_true, beq_iff_eq]
  exact ⟨f, hf, e⟩

/-- **A dict and a call that agree on every field.**  The dict reads as the message the call
builds. -/
theorem construct_reads {m : M} {kvs : List (String × Json)}
    {kwargs : List (String × Option Value)}
    (hkeyed : Keyed S m (kvs.map Prod.fst) (kwargs.map Prod.fst)) (hone : Exclusive S m kwargs)
    (h : ∀ f ∈ S m, Agrees S f (kvs.lookup f.jsonName) (argument kwargs f)) :
    ∃ v, S.construct m kwargs = .ok v ∧ Reads S (.message m) (.obj kvs) v := by
  obtain ⟨hnodup, hkeys, hnames⟩ := hkeyed
  obtain ⟨vs, hsets, hreads⟩ := agrees_mapM h
  have hseal : Schema.seal (S m) vs =
      some (.msg (List.zipWith (fun f v => v.map (f.name, ·)) (S m) vs).reduceOption) :=
    if_pos (oneofs_mapM hsets ▸ hone)
  have hknown := known_arguments hnames
  refine ⟨.msg (List.zipWith (fun f v => v.map (f.name, ·)) (S m) vs).reduceOption, ?_, ?_, rfl⟩
  · have hsets' : (S m).mapM (fun f => f.set (kwargs.lookup f.name).join) = .ok vs := hsets
    simp [Schema.construct, hknown, hsets', hseal, bind, Except.bind, pure, Except.pure]
  · rw [readValue_message, hreads, guard, if_pos ⟨hnodup, hkeys⟩]
    exact hseal

/-- …and of a dict without its empty entries. -/
theorem construct_reads_sparse {m : M} {kvs : List (String × Json)}
    {kwargs : List (String × Option Value)}
    (hkeyed : Keyed S m (kvs.map Prod.fst) (kwargs.map Prod.fst)) (hone : Exclusive S m kwargs)
    (h : ∀ f ∈ S m, Agrees S f ((kvs.lookup f.jsonName).filter fun j => !j.isEmpty)
      (argument kwargs f)) :
    ∃ v, S.construct m kwargs = .ok v ∧
      Reads S (.message m) (.obj (kvs.filter fun kv => !kv.2.isEmpty)) v := by
  obtain ⟨hnodup, hkeys, hnames⟩ := hkeyed
  have hsub : ((kvs.filter fun kv => !kv.2.isEmpty).map Prod.fst).Sublist (kvs.map Prod.fst) :=
    List.filter_sublist.map _
  refine construct_reads ⟨hnodup.sublist hsub, fun k hk => hkeys k (hsub.subset hk), hnames⟩
    hone fun f hf => ?_
  rw [lookup_filter (fun j => !j.isEmpty) f.jsonName hnodup]
  exact h f hf

/-- No two fields of a message share a name or a key. -/
def Distinct (S : Schema M) (m : M) : Prop :=
  ((S m).map FieldDesc.name).Nodup ∧ ((S m).map FieldDesc.jsonName).Nodup

instance (m : M) : Decidable (Distinct S m) := inferInstanceAs (Decidable (_ ∧ _))

theorem argument_single (f f' : FieldDesc M) (v : Value) :
    argument [(f.name, some v)] f' = if f'.name = f.name then some v else none := by
  rw [argument, lookup_single]
  split <;> rfl

/-- A dict of one entry and a call with one argument. -/
theorem construct_reads_single {m : M} (hdistinct : Distinct S m) {f : FieldDesc M} (hf : f ∈ S m)
    {j : Json} {v : Value} (h : Agrees S f (some j) (some v)) :
    ∃ w, S.construct m [(f.name, some v)] = .ok w ∧
      Reads S (.message m) (.obj [(f.jsonName, j)]) w := by
  obtain ⟨hnames, hkeys⟩ := hdistinct
  have hone : Exclusive S m [(f.name, some v)] := by
    -- no second field has the name
    refine List.pairwise_filterMap.mpr ((List.pairwise_map.mp hnames).imp ?_)
    intro f₁ f₂ hne g₁ hg₁ g₂ hg₂
    rw [argument_single] at hg₁ hg₂
    split at hg₁
    · rename_i h₁
      rw [if_neg fun h₂ => hne (h₁.trans h₂.symm)] at hg₂
      simp [FieldDesc.oneof?] at hg₂
    · simp [FieldDesc.oneof?] at hg₁
  refine construct_reads ⟨by simp, ?_, ?_⟩ hone fun f' hf' => ?_
  · simpa using ⟨f, hf, rfl⟩
  · simpa using ⟨f, hf, rfl⟩
  · rw [argument_single]
    by_cases he : f' = f
    · subst he
      simpa using h
    · have hkey : f'.jsonName ≠ f.jsonName := fun e =>
        he (List.inj_on_of_nodup_map hkeys hf' hf e)
      have hname : f'.name ≠ f.name := fun e => he (List.inj_on_of_nodup_map hnames hf' hf e)
      rw [lookup_single, if_neg hkey, if_neg hname]
      exact Agrees.absent

end OtlpClient.Proto
