import OtlpClient.Proto.Accept
import OtlpClient.Support.Levels

/-!
# Proto — how deep documents and messages are

* `depth_arr`, `depth_obj`: a list or a dict is one level; one without elements may count as none.
* `construct_depth`: a message is one level, over the arguments it was built of.
-/

namespace OtlpClient

/-- JSON counts a list as a level, and one without elements as `empty`. -/
def Levels.json (empty : Nat) : Levels := ⟨1, empty⟩

/-- Only messages are levels. -/
def Levels.protobuf : Levels := ⟨0, 0⟩

namespace Proto

/-! ### Documents -/

namespace Json

variable (e : Nat)

mutual
/-- The levels of lists and dicts in a document; one without elements takes `e`. -/
def depth : Json → Nat
  | .arr js => (Levels.json e).wrap js.isEmpty (depthList js)
  | .obj kvs => (Levels.json e).wrap kvs.isEmpty (depthEntries kvs)
  | .null | .bool _ | .int _ | .float _ | .str _ => 0

def depthList : List Json → Nat
  | [] => 0
  | j :: js => max (depth j) (depthList js)

def depthEntries : List (String × Json) → Nat
  | [] => 0
  | kv :: kvs => max (depthEntry kv) (depthEntries kvs)

def depthEntry : String × Json → Nat
  | (_, j) => depth j
end

variable {e}

@[simp] theorem depth_null : depth e .null = 0 := rfl
@[simp] theorem depth_bool (b : Bool) : depth e (.bool b) = 0 := rfl
@[simp] theorem depth_int (n : Int) : depth e (.int n) = 0 := rfl
@[simp] theorem depth_float (x : Binary64) : depth e (.float x) = 0 := rfl
@[simp] theorem depth_str (s : String) : depth e (.str s) = 0 := rfl

theorem depthList_eq (js : List Json) : depthList e js = deepest (depth e) js := by
  induction js with
  | nil => rfl
  | cons j js ih => rw [depthList, ih, deepest_cons]

theorem depthEntries_eq (kvs : List (String × Json)) :
    depthEntries e kvs = deepest (fun kv => depth e kv.2) kvs := by
  induction kvs with
  | nil => rfl
  | cons kv kvs ih =>
      obtain ⟨k, j⟩ := kv
      rw [depthEntries, depthEntry, ih, deepest_cons]

theorem depth_arr (js : List Json) :
    depth e (.arr js) = (Levels.json e).wrap js.isEmpty (deepest (depth e) js) := by
  rw [depth, depthList_eq]

theorem depth_obj (kvs : List (String × Json)) :
    depth e (.obj kvs) =
      (Levels.json e).wrap kvs.isEmpty (deepest (fun kv => depth e kv.2) kvs) := by
  rw [depth, depthEntries_eq]

/-- A dict with entries is one level more than they are. -/
theorem depth_obj_cons (kv : String × Json) (kvs : List (String × Json)) :
    depth e (.obj (kv :: kvs)) = 1 + deepest (fun kv => depth e kv.2) (kv :: kvs) := by
  rw [depth_obj]
  rfl

/-- What is dropped as absent is at most a level. -/
theorem depth_of_isEmpty (he : e ≤ 1) {j : Json} (h : j.isEmpty = true) : depth e j ≤ 1 := by
  unfold isEmpty at h
  split at h
  · exact Nat.zero_le 1
  · exact Nat.zero_le 1
  · exact he
  · exact he
  · cases h

end Json

/-! ### Messages -/

mutual
/-- The levels of messages in a value. -/
def Value.depth : Value → Nat
  | .msg fields => 1 + Value.depthFields fields
  | .list vs => Value.depthList vs
  | .double _ | .bool _ | .str _ | .bytes _ | .int _ => 0

def Value.depthList : List Value → Nat
  | [] => 0
  | v :: vs => max (Value.depth v) (Value.depthList vs)

def Value.depthFields : List (String × Value) → Nat
  | [] => 0
  | field :: fields => max (Value.depthField field) (Value.depthFields fields)

def Value.depthField : String × Value → Nat
  | (_, v) => Value.depth v
end

section Rules

@[simp] theorem depth_double (x : Binary64) : (Value.double x).depth = 0 := rfl
@[simp] theorem depth_boolValue (b : Bool) : (Value.bool b).depth = 0 := rfl
@[simp] theorem depth_string (s : String) : (Value.str s).depth = 0 := rfl
@[simp] theorem depth_bytes (b : Bytes) : (Value.bytes b).depth = 0 := rfl
@[simp] theorem depth_integer (n : Int) : (Value.int n).depth = 0 := rfl

@[simp]
theorem depth_list (vs : List Value) : (Value.list vs).depth = deepest Value.depth vs := by
  rw [Value.depth]
  induction vs with
  | nil => rfl
  | cons v vs ih => rw [Value.depthList, ih, deepest_cons]

theorem depth_msg (fields : List (String × Value)) :
    (Value.msg fields).depth = 1 + deepest (fun field => field.2.depth) fields := by
  rw [Value.depth]
  congr 1
  induction fields with
  | nil => rfl
  | cons field fields ih =>
      obtain ⟨name, v⟩ := field
      rw [Value.depthFields, Value.depthField, ih, deepest_cons]

/-- The levels of an argument, none for `None`. -/
def argumentDepth (a : Option Value) : Nat := a.elim 0 Value.depth

@[simp] theorem argumentDepth_none : argumentDepth none = 0 := rfl
@[simp] theorem argumentDepth_some (v : Value) : argumentDepth (some v) = v.depth := rfl

/-- A default has no level. -/
theorem depth_of_isDefault {v : Value} (h : v.isDefault = true) : v.depth = 0 := by
  cases v with
  | msg fields => cases h
  | list vs =>
      rw [List.isEmpty_iff.mp h, depth_list]
      rfl
  | double x | bool b | str s | bytes b | int n => rfl

variable {M : Type} {S : Schema M} {f : FieldDesc M} {a : Option Value}

theorem store_depth (f : FieldDesc M) (v : Value) : argumentDepth (f.store v) = v.depth := by
  have hdrop : argumentDepth (if v.isDefault then none else some v) = v.depth := by
    cases hv : v.isDefault with
    | true => exact (depth_of_isDefault hv).symm
    | false => rfl
  unfold FieldDesc.store
  split
  · exact hdrop
  · exact hdrop
  · rfl
  · rfl

/-- A field keeps what its argument nests. -/
theorem set_depth : Ensures (f.set a) fun v => argumentDepth v = argumentDepth a := by
  intro v hv
  cases a with
  | none =>
      cases hv
      rfl
  | some x =>
      unfold FieldDesc.set at hv
      dsimp only at hv
      split at hv
      · split at hv
        · cases hv
          exact store_depth f _
        · cases hv
      · cases hv
      · split at hv
        · cases hv
          exact store_depth f _
        · cases hv

/-- The set fields of a message nest what the arguments do. -/
theorem fields_depth {arguments : FieldDesc M → Option Value} :
    ∀ {fs : List (FieldDesc M)} {vs : List (Option Value)},
      fs.mapM (fun f => f.set (arguments f)) = .ok vs →
        deepest (fun field => field.2.depth)
            (List.zipWith (fun f v => v.map (f.name, ·)) fs vs).reduceOption =
          deepest (fun f => argumentDepth (arguments f)) fs
  | [], vs, h => by
      cases h
      rfl
  | f :: fs, vs, h => by
      rw [List.mapM_cons] at h
      obtain ⟨v, hv, h⟩ := bind_eq_ok.mp h
      obtain ⟨vs', hvs, h⟩ := bind_eq_ok.mp h
      cases h
      have ih := fields_depth hvs
      have hset := set_depth v hv
      rw [List.zipWith_cons_cons, deepest_cons, ← ih, ← hset]
      cases v with
      | none =>
          rw [Option.map_none, List.reduceOption_cons_of_none, argumentDepth_none, Nat.zero_max]
      | some v =>
          rw [Option.map_some, List.reduceOption_cons_of_some, deepest_cons, argumentDepth_some]

/-- A message is one level over its arguments. -/
theorem construct_depth {m : M} {kwargs : List (String × Option Value)} :
    Ensures (S.construct m kwargs) fun v =>
      v.depth = 1 + deepest (fun f => argumentDepth (argument kwargs f)) (S m) := by
  intro v hv
  unfold Schema.construct at hv
  split at hv
  · cases hv
  · obtain ⟨vs, hvs, hv⟩ := bind_eq_ok.mp hv
    unfold Schema.seal at hv
    split at hv
    · rename_i hseal
      split at hseal
      · cases hseal
        cases hv
        rw [depth_msg]
        exact congrArg (1 + ·) (fields_depth hvs)
      · cases hseal
    · cases hv

end Rules

end Proto

end OtlpClient
