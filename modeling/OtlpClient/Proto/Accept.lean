import OtlpClient.Proto.Agree
import OtlpClient.Support.Raising

/-!
# Proto — when a message class returns

* `FieldDesc.Takes`: what a field takes; `takes_*` and `holds_*` are its rules, one a label and one
  a type.
* `construct_yields`: a call whose arguments are of known fields, no two of one oneof, returns a
  message exactly when every field takes its argument.
-/

namespace OtlpClient.Proto

variable {M : Type} {S : Schema M}

/-- A message. -/
def Value.IsMsg : Value → Prop
  | .msg _ => True
  | _ => False

/-- The field takes the argument. -/
def FieldDesc.Takes (f : FieldDesc M) : Option Value → Prop
  | none => True
  | some v =>
      match f.label, v with
      | .repeated, .list vs => ∀ v ∈ vs, f.type.holds v = true
      | .repeated, _ => False
      | _, v => f.type.holds v = true

/-! ### One field -/

section Rules

variable {name key : String} {g : String} {t : FieldType M} {m : M} {a : Option Value} {v : Value}

@[simp]
theorem takes_implicit :
    (⟨name, key, t, .implicit⟩ : FieldDesc M).Takes a ↔ ∀ v ∈ a, t.holds v = true := by
  cases a <;> simp [FieldDesc.Takes]

@[simp]
theorem takes_explicit :
    (⟨name, key, t, .explicit⟩ : FieldDesc M).Takes a ↔ ∀ v ∈ a, t.holds v = true := by
  cases a <;> simp [FieldDesc.Takes]

@[simp]
theorem takes_oneof :
    (⟨name, key, t, .oneof g⟩ : FieldDesc M).Takes a ↔ ∀ v ∈ a, t.holds v = true := by
  cases a <;> simp [FieldDesc.Takes]

@[simp]
theorem takes_repeated {vs : List Value} :
    (⟨name, key, t, .repeated⟩ : FieldDesc M).Takes (some (.list vs)) ↔
      ∀ v ∈ vs, t.holds v = true :=
  Iff.rfl

@[simp]
theorem takes_none {f : FieldDesc M} : f.Takes none := trivial

@[simp]
theorem holds_message : (FieldType.message m).holds v = true ↔ v.IsMsg := by
  cases v <;> simp [FieldType.holds, FieldType.inRange, Value.IsMsg]

@[simp]
theorem holds_string {s : String} : (FieldType.string : FieldType M).holds (.str s) = true := rfl

@[simp]
theorem holds_bytes {b : Bytes} : (FieldType.bytes : FieldType M).holds (.bytes b) = true := rfl

@[simp]
theorem holds_id {b : Bytes} : (FieldType.id : FieldType M).holds (.bytes b) = true := rfl

@[simp]
theorem holds_bool {b : Bool} : (FieldType.bool : FieldType M).holds (.bool b) = true := rfl

@[simp]
theorem holds_double {x : Binary64} : (FieldType.double : FieldType M).holds (.double x) = true :=
  rfl

@[simp]
theorem holds_int {n : Int} : t.holds (.int n) = t.inRange n := by
  cases t <;> rfl

@[simp]
theorem argument_nil {f : FieldDesc M} : argument [] f = none := rfl

@[simp]
theorem argument_cons {kwargs : List (String × Option Value)} {f : FieldDesc M} :
    argument ((name, a) :: kwargs) f = if f.name = name then a else argument kwargs f := by
  unfold argument
  rw [List.lookup_cons]
  by_cases h : f.name = name
  · rw [if_pos h, beq_iff_eq.mpr h]
    rfl
  · rw [if_neg h, beq_eq_false_iff_ne.mpr h]

end Rules

theorem set_yields {f : FieldDesc M} {a : Option Value} :
    Yields (f.set a) (fun _ => True) ↔ f.Takes a := by
  have hcheck : ∀ {b : Bool} {v : Option Value} {e : PyError},
      Yields (if b = true then .ok v else .error e) (fun _ => True) ↔ b = true := by
    intro b v e
    cases b with
    | true => exact iff_of_true (yields_ok.mpr trivial) rfl
    | false => exact iff_of_false yields_error nofun
  cases a with
  | none => exact iff_of_true (yields_ok.mpr trivial) trivial
  | some v =>
      unfold FieldDesc.set FieldDesc.Takes
      dsimp only
      cases f.label with
      | «repeated» =>
          cases v with
          | list vs => exact hcheck.trans List.all_eq_true
          | _ => exact iff_of_false yields_error id
      | «implicit» => exact hcheck
      | «explicit» => exact hcheck
      | «oneof» g => exact hcheck

/-! ### One message -/

theorem construct_isMsg {m : M} {kwargs : List (String × Option Value)} :
    Ensures (S.construct m kwargs) Value.IsMsg := by
  intro v hv
  unfold Schema.construct at hv
  split at hv
  · cases hv
  · cases hvs : (S m).mapM fun f => f.set (kwargs.lookup f.name).join with
    | error e => simp [hvs, bind, Except.bind] at hv
    | ok vs =>
        by_cases hone : (List.zipWith FieldDesc.oneof? (S m) vs).reduceOption.Nodup
        · simp [hvs, Schema.seal, hone, bind, Except.bind, pure, Except.pure] at hv
          cases hv
          trivial
        · simp [hvs, Schema.seal, hone, bind, Except.bind] at hv

/-- A call returns a message exactly when every field takes its argument. -/
theorem construct_yields {m : M} {kwargs : List (String × Option Value)}
    (hnames : decide (∀ n ∈ kwargs.map Prod.fst, n ∈ (S m).map FieldDesc.name) = true)
    (hone : Exclusive S m kwargs) :
    Yields (S.construct m kwargs) Value.IsMsg ↔ ∀ f ∈ S m, f.Takes (argument kwargs f) := by
  have hknown := known_arguments (of_decide_eq_true hnames)
  have hsets : (∃ vs, (S m).mapM (fun f => f.set (argument kwargs f)) = .ok vs) ↔
      ∀ f ∈ S m, f.Takes (argument kwargs f) := by
    have hmap : Yields ((S m).mapM fun f => f.set (argument kwargs f))
        (fun vs => ∀ v ∈ vs, True) ↔
          ∀ f ∈ S m, Yields (f.set (argument kwargs f)) fun _ => True := yields_mapM
    simp only [set_yields, implies_true] at hmap
    rw [← hmap]
    exact ⟨fun ⟨vs, hvs⟩ => ⟨vs, hvs, trivial⟩, fun ⟨vs, hvs, _⟩ => ⟨vs, hvs⟩⟩
  rw [← hsets]
  unfold Schema.construct
  rw [hknown]
  constructor
  · rintro ⟨v, hv, -⟩
    cases hvs : (S m).mapM fun f => f.set (argument kwargs f) with
    | ok vs => exact ⟨vs, rfl⟩
    | error e =>
        have hvs' : ((S m).mapM fun f => f.set (kwargs.lookup f.name).join) = .error e := hvs
        simp [hvs', bind, Except.bind] at hv
  · rintro ⟨vs, hvs⟩
    have hvs' : ((S m).mapM fun f => f.set (kwargs.lookup f.name).join) = .ok vs := hvs
    have hseal : Schema.seal (S m) vs =
        some (.msg (List.zipWith (fun f v => v.map (f.name, ·)) (S m) vs).reduceOption) :=
      if_pos (oneofs_mapM hvs ▸ hone)
    refine ⟨.msg (List.zipWith (fun f v => v.map (f.name, ·)) (S m) vs).reduceOption, ?_, trivial⟩
    simp [hvs', hseal, bind, Except.bind, pure, Except.pure]

end OtlpClient.Proto
