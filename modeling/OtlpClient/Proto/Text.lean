import OtlpClient.Proto.Schema

/-!
# Proto — JSON texts

A text is its tokens: the six structural characters, the three literal names, strings, and
numbers (a literal stands for the number it reads as).  `Token.bare` is any other word, such as
the `NaN` that `json.dumps` writes; RFC 8259 has no place for one.

* `parse_write`: a document written with a writer of floats reads back as the document with each
  float replaced by what its token reads as.
* `parse_noBare`: a text that reads as a document has no bare word.
* `Json.Carries`: a document holds another's entries, each of its floats as something the proto3
  JSON mapping reads as that float.
-/

namespace OtlpClient.Proto

inductive Token where
  | lbracket
  | rbracket
  | lbrace
  | rbrace
  | colon
  | comma
  | null
  | bool (b : Bool)
  | str (s : String)
  | int (n : Int)
  /-- The literal of a finite number. -/
  | float (x : Binary64)
  | bare (word : String)
  deriving DecidableEq

/-- What a token is on its own. -/
def Token.scalar? : Token → Option Json
  | .null => some .null
  | .bool b => some (.bool b)
  | .str s => some (.str s)
  | .int n => some (.int n)
  | .float x => some (.float x)
  | _ => none

/-! ### Reading -/

mutual
/-- A value at the front of a text, and the rest of the text. -/
def parseValue : Nat → List Token → Option (Json × List Token)
  | 0, _ | _ + 1, [] => none
  | _ + 1, .lbracket :: .rbracket :: ts => some (.arr [], ts)
  | n + 1, .lbracket :: ts => do
      let (j, ts) ← parseValue n ts
      let (js, ts) ← parseElements n ts
      return (.arr (j :: js), ts)
  | _ + 1, .lbrace :: .rbrace :: ts => some (.obj [], ts)
  | n + 1, .lbrace :: .str k :: .colon :: ts => do
      let (j, ts) ← parseValue n ts
      let (kvs, ts) ← parseMembers n ts
      return (.obj ((k, j) :: kvs), ts)
  | _ + 1, t :: ts => t.scalar?.map (·, ts)

/-- The rest of an array, after an element. -/
def parseElements : Nat → List Token → Option (List Json × List Token)
  | _ + 1, .rbracket :: ts => some ([], ts)
  | n + 1, .comma :: ts => do
      let (j, ts) ← parseValue n ts
      let (js, ts) ← parseElements n ts
      return (j :: js, ts)
  | _, _ => none

/-- The rest of an object, after a member. -/
def parseMembers : Nat → List Token → Option (List (String × Json) × List Token)
  | _ + 1, .rbrace :: ts => some ([], ts)
  | n + 1, .comma :: .str k :: .colon :: ts => do
      let (j, ts) ← parseValue n ts
      let (kvs, ts) ← parseMembers n ts
      return ((k, j) :: kvs, ts)
  | _, _ => none
end

/-- A text, read as one document.  Each call consumes a token. -/
def parse (ts : List Token) : Option Json :=
  match parseValue ts.length ts with
  | some (j, []) => some j
  | _ => none

/-! ### Writing -/

section Write

variable (w : Binary64 → Token)

mutual
/-- A document as a text, with a writer for its floats. -/
def Json.write : Json → List Token
  | .null => [.null]
  | .bool b => [.bool b]
  | .int n => [.int n]
  | .float x => [w x]
  | .str s => [.str s]
  | .arr [] => [.lbracket, .rbracket]
  | .arr (j :: js) => .lbracket :: (j.write ++ Json.writeElements js)
  | .obj [] => [.lbrace, .rbrace]
  | .obj (kv :: kvs) => .lbrace :: (Json.writeMember kv ++ Json.writeMembers kvs)

def Json.writeElements : List Json → List Token
  | [] => [.rbracket]
  | j :: js => .comma :: (j.write ++ Json.writeElements js)

def Json.writeMembers : List (String × Json) → List Token
  | [] => [.rbrace]
  | kv :: kvs => .comma :: (Json.writeMember kv ++ Json.writeMembers kvs)

def Json.writeMember : String × Json → List Token
  | (k, j) => .str k :: .colon :: j.write
end

end Write

section Floats

variable (r : Binary64 → Json)

mutual
/-- Every float of a document replaced. -/
def Json.mapFloats : Json → Json
  | .float x => r x
  | .arr js => .arr (Json.mapFloatsList js)
  | .obj kvs => .obj (Json.mapFloatsEntries kvs)
  | j => j

def Json.mapFloatsList : List Json → List Json
  | [] => []
  | j :: js => j.mapFloats :: Json.mapFloatsList js

def Json.mapFloatsEntries : List (String × Json) → List (String × Json)
  | [] => []
  | kv :: kvs => Json.mapFloatsEntry kv :: Json.mapFloatsEntries kvs

def Json.mapFloatsEntry : String × Json → String × Json
  | (k, j) => (k, j.mapFloats)
end

end Floats

mutual
/-- The second document is the first, up to how each float is written. -/
def Json.Carries : Json → Json → Prop
  | .float x, j => readDouble j = some x
  | .arr js, .arr js' => Json.CarriesList js js'
  | .obj kvs, .obj kvs' => Json.CarriesEntries kvs kvs'
  | .null, .null => True
  | .bool b, .bool b' => b = b'
  | .int n, .int n' => n = n'
  | .str s, .str s' => s = s'
  | _, _ => False

def Json.CarriesList : List Json → List Json → Prop
  | [], [] => True
  | j :: js, j' :: js' => j.Carries j' ∧ Json.CarriesList js js'
  | _, _ => False

def Json.CarriesEntries : List (String × Json) → List (String × Json) → Prop
  | [], [] => True
  | kv :: kvs, kv' :: kvs' => Json.CarriesEntry kv kv' ∧ Json.CarriesEntries kvs kvs'
  | _, _ => False

def Json.CarriesEntry : String × Json → String × Json → Prop
  | (k, j), (k', j') => k = k' ∧ j.Carries j'
end

/-! ### Reading what was written -/

section RoundTrip

variable {w : Binary64 → Token} {r : Binary64 → Json}

theorem parseValue_scalar {t : Token} {j : Json} (h : t.scalar? = some j) (n : Nat)
    (ts : List Token) : parseValue (n + 1) (t :: ts) = some (j, ts) := by
  cases t <;> cases h <;> simp [parseValue, Token.scalar?]

/-- A document's text is not empty, and begins no other way than a value does. -/
theorem write_head (j : Json) (h : ∀ x ∈ j.floats, (w x).scalar? = some (r x)) :
    ∃ t ts, j.write w = t :: ts ∧ t ≠ .rbracket := by
  cases j with
  | null | bool _ | int _ | str _ =>
      rw [Json.write]
      exact ⟨_, _, rfl, nofun⟩
  | float x =>
      rw [Json.write]
      refine ⟨_, _, rfl, fun e => ?_⟩
      have hx := h x (by simp)
      rw [e] at hx
      cases hx
  | arr js =>
      cases js <;> rw [Json.write] <;> exact ⟨_, _, rfl, nofun⟩
  | obj kvs =>
      cases kvs <;> rw [Json.write] <;> exact ⟨_, _, rfl, nofun⟩

theorem parseValue_lbracket (n : Nat) {ts : List Token} (h : ∀ ts', ts ≠ .rbracket :: ts') :
    parseValue (n + 1) (.lbracket :: ts) = (do
      let (j, ts) ← parseValue n ts
      let (js, ts) ← parseElements n ts
      return (.arr (j :: js), ts)) := by
  rw [parseValue]
  exact h

mutual
theorem parseValue_write : ∀ (j : Json) (n : Nat) (ts : List Token),
    (j.write w).length ≤ n → (∀ x ∈ j.floats, (w x).scalar? = some (r x)) →
    parseValue n (j.write w ++ ts) = some (j.mapFloats r, ts)
  | .null, n + 1, ts, _, _ | .bool _, n + 1, ts, _, _ | .int _, n + 1, ts, _, _
  | .str _, n + 1, ts, _, _ => by
      rw [Json.write]
      exact parseValue_scalar rfl n ts
  | .float x, n + 1, ts, _, h => by
      rw [Json.write, Json.mapFloats]
      exact parseValue_scalar (h x (by simp)) n ts
  | .arr [], n + 1, ts, _, _ => by rw [Json.write]; rfl
  | .arr (j :: js), n + 1, ts, hn, h => by
      rw [Json.write, List.length_cons, List.length_append] at hn
      rw [Json.floats_arr, List.flatMap_cons, List.forall_mem_append] at h
      have hj := parseValue_write j n (Json.writeElements w js ++ ts) (by omega) h.1
      have hjs := parseElements_write js n ts (by omega) h.2
      -- The first element is not `]`, so that the parser goes on to it.
      obtain ⟨t, ts', ht, hne⟩ := write_head j h.1
      rw [Json.write, List.cons_append, List.append_assoc, parseValue_lbracket, hj]
      · simp only [Option.bind_eq_bind, Option.bind_some, hjs, Json.mapFloats, Json.mapFloatsList]
        rfl
      · intro ts'' e
        rw [ht] at e
        exact hne (List.cons.inj e).1
  | .obj [], n + 1, ts, _, _ => by rw [Json.write]; rfl
  | .obj ((k, j) :: kvs), n + 1, ts, hn, h => by
      rw [Json.write, Json.writeMember, List.length_cons, List.length_append] at hn
      rw [Json.floats_obj, List.flatMap_cons, List.forall_mem_append] at h
      simp only [List.length_cons] at hn
      have hj := parseValue_write j n (Json.writeMembers w kvs ++ ts) (by omega) h.1
      have hkvs := parseMembers_write kvs n ts (by omega) h.2
      rw [Json.write, Json.writeMember, List.cons_append, List.append_assoc,
        List.cons_append, List.cons_append, parseValue, hj]
      simp only [Option.bind_eq_bind, Option.bind_some, hkvs, Json.mapFloats,
        Json.mapFloatsEntries, Json.mapFloatsEntry]
      rfl
  -- The fuel is the length of the text, which is not empty.
  | j, 0, ts, hn, h => by
      obtain ⟨t, ts', ht, -⟩ := write_head j h
      rw [ht] at hn
      cases hn

theorem parseElements_write : ∀ (js : List Json) (n : Nat) (ts : List Token),
    (Json.writeElements w js).length ≤ n →
    (∀ x ∈ js.flatMap Json.floats, (w x).scalar? = some (r x)) →
    parseElements n (Json.writeElements w js ++ ts) = some (Json.mapFloatsList r js, ts)
  | [], n + 1, ts, _, _ => by rw [Json.writeElements]; rfl
  | j :: js, n + 1, ts, hn, h => by
      rw [Json.writeElements, List.length_cons, List.length_append] at hn
      rw [List.flatMap_cons, List.forall_mem_append] at h
      have hj := parseValue_write j n (Json.writeElements w js ++ ts) (by omega) h.1
      have hjs := parseElements_write js n ts (by omega) h.2
      rw [Json.writeElements, List.cons_append, List.append_assoc, parseElements, hj]
      simp only [Option.bind_eq_bind, Option.bind_some, hjs, Json.mapFloatsList]
      rfl
  | [], 0, ts, hn, _ | _ :: _, 0, ts, hn, _ => by
      rw [Json.writeElements] at hn
      cases hn

theorem parseMembers_write : ∀ (kvs : List (String × Json)) (n : Nat) (ts : List Token),
    (Json.writeMembers w kvs).length ≤ n →
    (∀ x ∈ kvs.flatMap fun kv => kv.2.floats, (w x).scalar? = some (r x)) →
    parseMembers n (Json.writeMembers w kvs ++ ts) = some (Json.mapFloatsEntries r kvs, ts)
  | [], n + 1, ts, _, _ => by rw [Json.writeMembers]; rfl
  | (k, j) :: kvs, n + 1, ts, hn, h => by
      rw [Json.writeMembers, Json.writeMember, List.length_cons, List.length_append] at hn
      rw [List.flatMap_cons, List.forall_mem_append] at h
      simp only [List.length_cons] at hn
      have hj := parseValue_write j n (Json.writeMembers w kvs ++ ts) (by omega) h.1
      have hkvs := parseMembers_write kvs n ts (by omega) h.2
      rw [Json.writeMembers, Json.writeMember, List.cons_append, List.append_assoc,
        List.cons_append, List.cons_append, parseMembers, hj]
      simp only [Option.bind_eq_bind, Option.bind_some, hkvs, Json.mapFloatsEntries,
        Json.mapFloatsEntry]
      rfl
  | [], 0, ts, hn, _ | _ :: _, 0, ts, hn, _ => by
      rw [Json.writeMembers] at hn
      cases hn
end

/-- **A text reads back as the document it was written from**, each float as what its token
reads as. -/
theorem parse_write (j : Json) (h : ∀ x ∈ j.floats, (w x).scalar? = some (r x)) :
    parse (j.write w) = some (j.mapFloats r) := by
  have hp := parseValue_write j (j.write w).length [] le_rfl h
  rw [List.append_nil] at hp
  rw [parse, hp]

end RoundTrip

/-! ### Floats, wherever they are -/

mutual
/-- What replaces a float carries it when it reads as it. -/
theorem carries_mapFloats {r : Binary64 → Json} : ∀ {j : Json},
    j.Carries (j.mapFloats r) ↔ ∀ x ∈ j.floats, readDouble (r x) = some x
  | .float x => by simp [Json.mapFloats, Json.Carries]
  | .null | .bool _ | .int _ | .str _ => by simp [Json.mapFloats, Json.Carries]
  | .arr js => by
      rw [Json.mapFloats, Json.Carries, Json.floats_arr]
      exact carries_mapFloatsList
  | .obj kvs => by
      rw [Json.mapFloats, Json.Carries, Json.floats_obj]
      exact carries_mapFloatsEntries

theorem carries_mapFloatsList {r : Binary64 → Json} : ∀ {js : List Json},
    Json.CarriesList js (Json.mapFloatsList r js) ↔
      ∀ x ∈ js.flatMap Json.floats, readDouble (r x) = some x
  | [] => by simp [Json.mapFloatsList, Json.CarriesList]
  | j :: js => by
      rw [Json.mapFloatsList, Json.CarriesList, List.flatMap_cons, List.forall_mem_append,
        carries_mapFloats, carries_mapFloatsList]

theorem carries_mapFloatsEntries {r : Binary64 → Json} : ∀ {kvs : List (String × Json)},
    Json.CarriesEntries kvs (Json.mapFloatsEntries r kvs) ↔
      ∀ x ∈ kvs.flatMap fun kv => kv.2.floats, readDouble (r x) = some x
  | [] => by simp [Json.mapFloatsEntries, Json.CarriesEntries]
  | (k, j) :: kvs => by
      rw [Json.mapFloatsEntries, Json.mapFloatsEntry, Json.CarriesEntries, Json.CarriesEntry,
        List.flatMap_cons, List.forall_mem_append, carries_mapFloats, carries_mapFloatsEntries]
      simp only [true_and]
end

/-! ### Bare words -/

mutual
/-- The token of every float is in the text. -/
theorem mem_write {w : Binary64 → Token} {x : Binary64} : ∀ {j : Json}, x ∈ j.floats →
    w x ∈ j.write w
  | .float y, h => by
      rw [Json.floats_float, List.mem_singleton] at h
      rw [h, Json.write]
      exact List.mem_singleton_self _
  | .null, h | .bool _, h | .int _, h | .str _, h => by simp at h
  | .arr [], h => by simp at h
  | .arr (j :: js), h => by
      rw [Json.floats_arr, List.flatMap_cons, List.mem_append] at h
      rw [Json.write]
      refine List.mem_cons_of_mem _ (List.mem_append.mpr ?_)
      rcases h with h | h
      · exact Or.inl (mem_write h)
      · exact Or.inr (mem_writeElements h)
  | .obj [], h => by simp at h
  | .obj ((k, j) :: kvs), h => by
      rw [Json.floats_obj, List.flatMap_cons, List.mem_append] at h
      rw [Json.write, Json.writeMember]
      refine List.mem_cons_of_mem _ (List.mem_append.mpr ?_)
      rcases h with h | h
      · exact Or.inl (List.mem_cons_of_mem _ (List.mem_cons_of_mem _ (mem_write h)))
      · exact Or.inr (mem_writeMembers h)

theorem mem_writeElements {w : Binary64 → Token} {x : Binary64} : ∀ {js : List Json},
    x ∈ js.flatMap Json.floats → w x ∈ Json.writeElements w js
  | [], h => by simp at h
  | j :: js, h => by
      rw [List.flatMap_cons, List.mem_append] at h
      rw [Json.writeElements]
      refine List.mem_cons_of_mem _ (List.mem_append.mpr ?_)
      rcases h with h | h
      · exact Or.inl (mem_write h)
      · exact Or.inr (mem_writeElements h)

theorem mem_writeMembers {w : Binary64 → Token} {x : Binary64} : ∀ {kvs : List (String × Json)},
    (x ∈ kvs.flatMap fun kv => kv.2.floats) → w x ∈ Json.writeMembers w kvs
  | [], h => by simp at h
  | (k, j) :: kvs, h => by
      rw [List.flatMap_cons, List.mem_append] at h
      rw [Json.writeMembers, Json.writeMember]
      refine List.mem_cons_of_mem _ (List.mem_append.mpr ?_)
      rcases h with h | h
      · exact Or.inl (List.mem_cons_of_mem _ (List.mem_cons_of_mem _ (mem_write h)))
      · exact Or.inr (mem_writeMembers h)
end

def Token.isBare : Token → Bool
  | .bare _ => true
  | _ => false

/-- The tokens are those that were read, none of them a bare word, and then the rest. -/
def Consumed (ts rest : List Token) : Prop :=
  ∃ read, ts = read ++ rest ∧ ∀ t ∈ read, t.isBare = false

theorem Consumed.refl (ts : List Token) : Consumed ts ts := ⟨[], rfl, nofun⟩

theorem Consumed.cons {ts rest : List Token} (h : Consumed ts rest) {t : Token}
    (ht : t.isBare = false) : Consumed (t :: ts) rest := by
  obtain ⟨read, rfl, hread⟩ := h
  exact ⟨t :: read, rfl, List.forall_mem_cons.mpr ⟨ht, hread⟩⟩

theorem Consumed.trans {ts ts' rest : List Token} (h : Consumed ts ts') (h' : Consumed ts' rest) :
    Consumed ts rest := by
  obtain ⟨read, rfl, hread⟩ := h
  obtain ⟨read', rfl, hread'⟩ := h'
  exact ⟨read ++ read', (List.append_assoc ..).symm, List.forall_mem_append.mpr ⟨hread, hread'⟩⟩

theorem consumed_of_parse (n : Nat) :
    (∀ {ts j rest}, parseValue n ts = some (j, rest) → Consumed ts rest) ∧
    (∀ {ts js rest}, parseElements n ts = some (js, rest) → Consumed ts rest) ∧
    (∀ {ts kvs rest}, parseMembers n ts = some (kvs, rest) → Consumed ts rest) := by
  induction n with
  | zero =>
      refine ⟨fun h => ?_, fun h => ?_, fun h => ?_⟩
      · rw [parseValue] at h
        cases h
      · rw [parseElements] at h
        · cases h
        all_goals nofun
      · rw [parseMembers] at h
        · cases h
        all_goals nofun
  | succ n ih =>
      obtain ⟨ihValue, ihElements, ihMembers⟩ := ih
      -- Each token a rule reads is one that no bare word is, and so are those of its parts.
      refine ⟨fun {ts j rest} h => ?_, fun {ts js rest} h => ?_, fun {ts kvs rest} h => ?_⟩
      · unfold parseValue at h
        split at h
        · cases h
        · cases h
        · cases h
          exact ((Consumed.refl _).cons rfl).cons rfl
        · rename_i hm
          cases hm
          simp only [Option.bind_eq_bind, Option.bind_eq_some_iff] at h
          obtain ⟨⟨j, ts₁⟩, hj, ⟨js, ts₂⟩, hjs, e⟩ := h
          cases e
          exact ((ihValue hj).trans (ihElements hjs)).cons rfl
        · cases h
          exact ((Consumed.refl _).cons rfl).cons rfl
        · rename_i hm
          cases hm
          simp only [Option.bind_eq_bind, Option.bind_eq_some_iff] at h
          obtain ⟨⟨j, ts₁⟩, hj, ⟨kvs, ts₂⟩, hkvs, e⟩ := h
          cases e
          exact ((((ihValue hj).trans (ihMembers hkvs)).cons rfl).cons rfl).cons rfl
        · rename_i t ts _ _ _ _ _
          cases t <;> cases h <;> exact (Consumed.refl _).cons rfl
      · unfold parseElements at h
        split at h
        · cases h
          exact (Consumed.refl _).cons rfl
        · rename_i hm
          cases hm
          simp only [Option.bind_eq_bind, Option.bind_eq_some_iff] at h
          obtain ⟨⟨j, ts₁⟩, hj, ⟨js, ts₂⟩, hjs, e⟩ := h
          cases e
          exact ((ihValue hj).trans (ihElements hjs)).cons rfl
        · cases h
      · unfold parseMembers at h
        split at h
        · cases h
          exact (Consumed.refl _).cons rfl
        · rename_i hm
          cases hm
          simp only [Option.bind_eq_bind, Option.bind_eq_some_iff] at h
          obtain ⟨⟨j, ts₁⟩, hj, ⟨kvs, ts₂⟩, hkvs, e⟩ := h
          cases e
          exact ((((ihValue hj).trans (ihMembers hkvs)).cons rfl).cons rfl).cons rfl
        · cases h

/-- A text with a bare word is no document. -/
theorem parse_noBare {ts : List Token} {j : Json} (h : parse ts = some j) :
    ∀ t ∈ ts, t.isBare = false := by
  unfold parse at h
  split at h
  · rename_i hp
    cases h
    obtain ⟨read, e, hread⟩ := (consumed_of_parse ts.length).1 hp
    rw [List.append_nil] at e
    rw [e]
    exact hread
  · cases h

end OtlpClient.Proto
