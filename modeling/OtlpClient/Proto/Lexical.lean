import Mathlib.Data.List.Chain
import OtlpClient.Proto.Text
import OtlpClient.Support.Cut

/-!
# Proto — the characters of a JSON text

How the tokens of a text are spelled.  A writer escapes every character outside ASCII, or leaves it
as it is; a reader takes a character from any of its spellings (RFC 8259, section 7).  A float is
spelled by whoever writes it (`FloatText`).

* `string?_text`: a string reads back from either spelling.
* `lex_render`: so do the tokens of a text, where no two words meet.
* `readText?_render`: so does the text of a document of finite floats.
-/

namespace OtlpClient.Proto

/-! ### Strings -/

/-- The characters with an escape of two. -/
def shortEscapes : List (Char × Char) :=
  [('"', '"'), ('\\', '\\'), ('\x08', 'b'), ('\x0c', 'f'), ('\n', 'n'), ('\r', 'r'), ('\t', 't')]

/-- Four hex digits. -/
def hex4 (n : Nat) : List Char :=
  [hexDigit (n / 4096 % 16), hexDigit (n / 256 % 16), hexDigit (n / 16 % 16), hexDigit (n % 16)]

def unicodeEscape (n : Nat) : List Char := '\\' :: 'u' :: hex4 n

/-- A character of a string; past the last four-digit one it takes a surrogate pair. -/
def escape (ascii : Bool) (c : Char) : List Char :=
  match shortEscapes.lookup c with
  | some letter => ['\\', letter]
  | none =>
      if c.toNat < 0x20 ∨ ascii = true ∧ 0x7e < c.toNat then
        if c.toNat < 0x10000 then unicodeEscape c.toNat
        else unicodeEscape (0xd800 + (c.toNat - 0x10000) / 0x400) ++
          unicodeEscape (0xdc00 + (c.toNat - 0x10000) % 0x400)
      else [c]

def hex4? : List Char → Option (Nat × List Char)
  | a :: b :: c :: d :: cs => do
      let a ← hexValue? a
      let b ← hexValue? b
      let c ← hexValue? c
      let d ← hexValue? d
      return (((a * 16 + b) * 16 + c) * 16 + d, cs)
  | _ => none

/-- The second half of a surrogate pair. -/
def lowSurrogate? : List Char → Option (Nat × List Char)
  | '\\' :: 'u' :: cs => do
      let (n, cs) ← hex4? cs
      if 0xdc00 ≤ n ∧ n < 0xe000 then some (n - 0xdc00, cs) else none
  | _ => none

/-- What follows a backslash. -/
def escape? : List Char → Option (Char × List Char)
  | [] => none
  | c :: cs =>
      if c = 'u' then do
        let (n, cs) ← hex4? cs
        if n < 0xd800 ∨ 0xe000 ≤ n then some (Char.ofNat n, cs)
        else if 0xdc00 ≤ n then none
        else do
          let (low, cs) ← lowSurrogate? cs
          return (Char.ofNat (0x10000 + (n - 0xd800) * 0x400 + low), cs)
      else if c = '/' then some ('/', cs)
      else ((shortEscapes.find? fun e => e.2 = c).map Prod.fst).map (·, cs)

/-- The rest of a string, after its quote. -/
def string? : Nat → List Char → Option (List Char × List Char)
  | n + 1, c :: cs =>
      if c = '"' then some ([], cs)
      else if c = '\\' then do
        let (c, cs) ← escape? cs
        let (s, cs) ← string? n cs
        return (c :: s, cs)
      else if c.toNat < 0x20 then none
      else do
        let (s, cs) ← string? n cs
        return (c :: s, cs)
  | _, _ => none

/-! ### Tokens -/

/-- How a finite float is spelled, and what a number that is no integer reads as. -/
structure FloatText where
  write : Binary64 → List Char
  read : List Char → Option Binary64

/-- The characters of a number. -/
def isNumeric (c : Char) : Bool := c.isDigit || ['+', '-', '.', 'e', 'E'].contains c

/-- A finite float is spelled as a number with a fraction or an exponent, which reads as it. -/
def FloatText.Lawful (F : FloatText) : Prop :=
  ∀ x : Binary64, x.IsFinite → (∀ c ∈ F.write x, isNumeric c = true) ∧
    ('.' ∈ F.write x ∨ 'e' ∈ F.write x) ∧ F.read (F.write x) = some x

def structurals : List (Char × Token) :=
  [('[', .lbracket), (']', .rbracket), ('\x7b', .lbrace), ('\x7d', .rbrace), (':', .colon),
    (',', .comma)]

/-- The characters of a word. -/
def isWordChar (c : Char) : Bool := c.isAlphanum || ['+', '-', '.'].contains c

/-- The word is a name, a number, or none. -/
def word? (F : FloatText) (w : List Char) : Option Token :=
  if w = "null".toList then some .null
  else if w = "true".toList then some (.bool true)
  else if w = "false".toList then some (.bool false)
  else match decimal? (String.ofList w) with
    | some n => if n.repr.toList = w then some (.int n) else none
    | none => if w.all isNumeric then (F.read w).map .float else none

/-- The tokens of a text.  Each takes a character. -/
def lex (F : FloatText) : Nat → List Char → Option (List Token)
  | _, [] => some []
  | 0, _ :: _ => none
  | n + 1, c :: cs =>
      if [' ', '\t', '\n', '\r'].contains c then lex F n cs
      else match structurals.lookup c with
        | some t => (lex F n cs).map (t :: ·)
        | none =>
            if c = '"' then do
              let (s, cs) ← string? n cs
              return .str (String.ofList s) :: (← lex F n cs)
            else if isWordChar c then do
              let t ← word? F ((c :: cs).takeWhile isWordChar)
              return t :: (← lex F n ((c :: cs).dropWhile isWordChar))
            else none

/-- A text, read as one document. -/
def readText? (F : FloatText) (cs : List Char) : Option Json := (lex F cs.length cs).bind parse

section Render

variable (F : FloatText) (ascii : Bool)

def Token.text : Token → List Char
  | .lbracket => ['[']
  | .rbracket => [']']
  | .lbrace => ['\x7b']
  | .rbrace => ['\x7d']
  | .colon => [':']
  | .comma => [',']
  | .null => "null".toList
  | .bool b => (if b then "true" else "false").toList
  | .str s => '"' :: (s.toList.flatMap (escape ascii) ++ ['"'])
  | .int n => n.repr.toList
  | .float x => F.write x
  | .bare word => word.toList

/-- The text of some tokens, with nothing between them. -/
def render (ts : List Token) : List Char := ts.flatMap (Token.text F ascii)

end Render

/-! ### Strings read back -/

theorem hex4?_hex4 {n : Nat} (h : n < 0x10000) (cs : List Char) :
    hex4? (hex4 n ++ cs) = some (n, cs) := by
  have hd : ∀ k, hexValue? (hexDigit (k % 16)) = some (k % 16) := fun k =>
    hexValue?_hexDigit _ (Nat.mod_lt _ (by decide))
  have hn : ((n / 4096 % 16 * 16 + n / 256 % 16) * 16 + n / 16 % 16) * 16 + n % 16 = n := by omega
  simp only [hex4, hex4?, List.cons_append, List.nil_append, hd, Option.bind_eq_bind,
    Option.bind_some, hn]
  rfl

/-- No character is a surrogate. -/
theorem toNat_cases (c : Char) : (c.toNat < 0xd800 ∨ 0xe000 ≤ c.toNat) ∧ c.toNat < 0x110000 := by
  rcases c.valid with h | ⟨h₁, h₂⟩
  · have hn : c.toNat < 0xd800 := h
    omega
  · have hn₁ : 0xdfff < c.toNat := h₁
    have hn₂ : c.toNat < 0x110000 := h₂
    omega

theorem escape?_u {n : Nat} (h : n < 0x10000) (cs : List Char) :
    escape? ('u' :: (hex4 n ++ cs)) =
      if n < 0xd800 ∨ 0xe000 ≤ n then some (Char.ofNat n, cs)
      else if 0xdc00 ≤ n then none
      else do
        let (low, cs) ← lowSurrogate? cs
        return (Char.ofNat (0x10000 + (n - 0xd800) * 0x400 + low), cs) := by
  rw [escape?, if_pos rfl, hex4?_hex4 h]
  rfl

/-- A character written with one escape. -/
theorem escape?_unicode {c : Char} (h : c.toNat < 0x10000) (cs : List Char) :
    escape? ('u' :: (hex4 c.toNat ++ cs)) = some (c, cs) := by
  rw [escape?_u h, if_pos (toNat_cases c).1, Char.ofNat_toNat]

theorem lowSurrogate?_unicode {low : Nat} (h : low < 0x400) (cs : List Char) :
    lowSurrogate? (unicodeEscape (0xdc00 + low) ++ cs) = some (low, cs) := by
  have hsub : 0xdc00 + low - 0xdc00 = low := by omega
  have hrange : 0xdc00 ≤ 0xdc00 + low ∧ 0xdc00 + low < 0xe000 := by omega
  simp only [unicodeEscape, List.cons_append, lowSurrogate?]
  rw [hex4?_hex4 (by omega)]
  simp only [Option.bind_eq_bind, Option.bind_some, if_pos hrange, hsub]

/-- A character written with two. -/
theorem escape?_pair (high low : Nat) (hh : high < 0x400) (hl : low < 0x400) (cs : List Char) :
    escape? ('u' :: (hex4 (0xd800 + high) ++ (unicodeEscape (0xdc00 + low) ++ cs))) =
      some (Char.ofNat (0x10000 + high * 0x400 + low), cs) := by
  have hsub : 0xd800 + high - 0xd800 = high := by omega
  rw [escape?_u (by omega), if_neg (by omega), if_neg (by omega), lowSurrogate?_unicode hl]
  simp only [Option.bind_eq_bind, Option.bind_some, Option.pure_def, hsub]

/-- A character written with a letter. -/
theorem escape?_short (cs : List Char) :
    ∀ e ∈ shortEscapes, escape? (e.2 :: cs) = some (e.1, cs) := by
  simp only [shortEscapes, List.forall_mem_cons]
  exact ⟨rfl, rfl, rfl, rfl, rfl, rfl, rfl, List.forall_mem_nil _⟩

theorem mem_of_lookup {α β : Type} [BEq α] [LawfulBEq α] {l : List (α × β)} {a : α} {b : β}
    (h : l.lookup a = some b) : (a, b) ∈ l := by
  obtain ⟨l₁, l₂, rfl, -⟩ := List.lookup_eq_some_iff.mp h
  simp

/-- One character of a string reads back. -/
theorem string?_escape (ascii : Bool) (c : Char) (n : Nat) (cs : List Char) :
    string? (n + 1) (escape ascii c ++ cs) =
      (string? n cs).map fun p => (c :: p.1, p.2) := by
  -- A character that is escaped.
  have hescape : ∀ {cs₁ : List Char}, escape? cs₁ = some (c, cs) →
      string? (n + 1) ('\\' :: cs₁) = (string? n cs).map fun p => (c :: p.1, p.2) := by
    intro cs₁ h
    rw [string?, if_neg (by decide), if_pos rfl, h]
    simp only [Option.bind_eq_bind, Option.bind_some]
    cases string? n cs with
    | none => rfl
    | some p => rfl
  rw [escape]
  cases hc : shortEscapes.lookup c with
  | some letter => exact hescape (escape?_short cs (c, letter) (mem_of_lookup hc))
  | none =>
      have hne : ∀ e ∈ shortEscapes, c ≠ e.1 := by
        intro e he
        exact bne_iff_ne.mp (List.lookup_eq_none_iff.mp hc e he)
      dsimp only
      by_cases hesc : c.toNat < 0x20 ∨ ascii = true ∧ 0x7e < c.toNat
      · rw [if_pos hesc]
        by_cases hbmp : c.toNat < 0x10000
        · rw [if_pos hbmp]
          exact hescape (escape?_unicode hbmp cs)
        · rw [if_neg hbmp]
          have hmax := (toNat_cases c).2
          have hpair := escape?_pair ((c.toNat - 0x10000) / 0x400) ((c.toNat - 0x10000) % 0x400)
            (by omega) (by omega) cs
          have hval : 0x10000 + (c.toNat - 0x10000) / 0x400 * 0x400 +
              (c.toNat - 0x10000) % 0x400 = c.toNat := by omega
          rw [hval, Char.ofNat_toNat] at hpair
          rw [List.append_assoc]
          exact hescape hpair
      · rw [if_neg hesc]
        have hquote : c ≠ '"' := hne ('"', '"') (by simp [shortEscapes])
        have hslash : c ≠ '\\' := hne ('\\', '\\') (by simp [shortEscapes])
        rw [List.singleton_append, string?, if_neg hquote, if_neg hslash,
          if_neg fun h => hesc (Or.inl h)]
        cases string? n cs with
        | none => rfl
        | some p => rfl

theorem escape_ne_nil (ascii : Bool) (c : Char) : escape ascii c ≠ [] := by
  unfold escape
  cases shortEscapes.lookup c with
  | some letter => nofun
  | none =>
      dsimp only
      split
      · split
        · nofun
        · nofun
      · nofun

/-- A string reads back, and what follows it is left. -/
theorem string?_text (ascii : Bool) (s : List Char) (n : Nat) (cs : List Char)
    (hn : (s.flatMap (escape ascii)).length < n) :
    string? n (s.flatMap (escape ascii) ++ '"' :: cs) = some (s, cs) := by
  induction s generalizing n with
  | nil =>
      obtain ⟨n, rfl⟩ : ∃ k, n = k + 1 := ⟨n - 1, by simp at hn; omega⟩
      rfl
  | cons c s ih =>
      rw [List.flatMap_cons, List.length_append] at hn
      have hpos := List.length_pos_iff.mpr (escape_ne_nil ascii c)
      obtain ⟨n, rfl⟩ : ∃ k, n = k + 1 := ⟨n - 1, by omega⟩
      rw [List.flatMap_cons, List.append_assoc, string?_escape, ih n (by omega)]
      rfl

/-! ### Tokens read back -/

/-- The token is a name or a number. -/
def Token.isWord : Token → Bool
  | .null | .bool _ | .int _ | .float _ | .bare _ => true
  | _ => false

/-- The token is one of a JSON text. -/
def Token.Legible : Token → Prop
  | .float x => x.IsFinite
  | .bare _ => False
  | _ => True

/-- No two words meet. -/
def Apart (ts : List Token) : Prop :=
  ts.IsChain fun t t' => t.isWord = true → t'.isWord = false

/-- A text with something else than a decimal in it. -/
theorem decimal?_eq_none {cs : List Char} {c : Char} (hc : c ∈ cs) (hd : c.isDigit = false)
    (hm : c ≠ '-') : decimal? (String.ofList cs) = none := by
  have hdigits : ∀ {cs : List Char}, c ∈ cs → digits? cs = none := by
    intro cs hc
    have hall : cs.all Char.isDigit = false :=
      List.all_eq_false.mpr ⟨c, hc, by rw [hd]; exact Bool.false_ne_true⟩
    rw [digits?, hall]
    simp
  unfold decimal?
  rw [String.toList_ofList]
  split
  · rw [hdigits ((List.mem_cons.mp hc).resolve_left hm)]
    rfl
  · rw [hdigits hc]
    rfl

theorem isWordChar_of_isDigit {c : Char} (h : c.isDigit = true) : isWordChar c = true := by
  rw [isWordChar, Char.isAlphanum, h, Bool.or_true, Bool.true_or]

theorem isWordChar_of_isNumeric {c : Char} (h : isNumeric c = true) : isWordChar c = true := by
  rcases Bool.or_eq_true _ _ ▸ h with hd | hs
  · exact isWordChar_of_isDigit hd
  · have hall : ∀ c ∈ ['+', '-', '.', 'e', 'E'], isWordChar c = true :=
      List.all_eq_true.mp (by decide)
    exact hall c (List.contains_iff_mem.mp hs)

theorem isWordChar_repr (n : Int) : ∀ c ∈ n.repr.toList, isWordChar c = true := by
  intro c hc
  rcases isDecimal_repr n with h | ⟨d, ds, h | h, -, hdigits⟩
  · rw [h] at hc
    rw [List.mem_singleton.mp hc]
    decide
  · exact isWordChar_of_isDigit (hdigits c (h ▸ hc))
  · rw [h] at hc
    rcases List.mem_cons.mp hc with rfl | hc
    · decide
    · exact isWordChar_of_isDigit (hdigits c hc)

/-- A word reads back. -/
theorem word?_text {F : FloatText} (hF : F.Lawful) (ascii : Bool) {t : Token}
    (hw : t.isWord = true) (hl : t.Legible) : t.text F ascii ≠ [] ∧
      (∀ c ∈ t.text F ascii, isWordChar c = true) ∧ word? F (t.text F ascii) = some t := by
  have hname : ∀ w ∈ ["null", "true", "false"],
      w.toList ≠ [] ∧ ∀ c ∈ w.toList, isWordChar c = true := by
    simp only [← List.all_eq_true, List.forall_mem_cons, List.not_mem_nil, false_imp_iff,
      implies_true, and_true]
    decide
  cases t with
  | lbracket | rbracket | lbrace | rbrace | colon | comma | str => cases hw
  | bare => exact hl.elim
  | null => exact ⟨(hname "null" (by simp)).1, (hname "null" (by simp)).2, rfl⟩
  | bool b =>
      cases b with
      | true => exact ⟨(hname "true" (by simp)).1, (hname "true" (by simp)).2, rfl⟩
      | false => exact ⟨(hname "false" (by simp)).1, (hname "false" (by simp)).2, rfl⟩
  | int n =>
      have hd := decimal?_repr n
      have hne : ∀ {w : String}, decimal? w = none → n.repr.toList ≠ w.toList := by
        intro w hw heq
        rw [String.toList_injective heq, hw] at hd
        cases hd
      refine ⟨fun h => repr_ne_empty n (String.toList_injective h), isWordChar_repr n, ?_⟩
      rw [Token.text, word?, if_neg (hne (by decide)), if_neg (hne (by decide)),
        if_neg (hne (by decide)), String.ofList_toList, hd]
      exact if_pos rfl
  | float x =>
      obtain ⟨hnum, hpoint, hread⟩ := hF x hl
      have hne : ∀ {w : String}, (∃ c ∈ w.toList, isNumeric c = false) →
          F.write x ≠ w.toList := by
        rintro w ⟨c, hc, hnot⟩ heq
        have h := hnum c (heq ▸ hc)
        rw [hnot] at h
        cases h
      have hdec : decimal? (String.ofList (F.write x)) = none := by
        rcases hpoint with hp | he
        · exact decimal?_eq_none hp (by decide) (by decide)
        · exact decimal?_eq_none he (by decide) (by decide)
      refine ⟨?_, fun c hc => isWordChar_of_isNumeric (hnum c hc), ?_⟩
      · rcases hpoint with hp | he
        · exact List.ne_nil_of_mem hp
        · exact List.ne_nil_of_mem he
      · rw [Token.text, word?, if_neg (hne ⟨'n', by decide, by decide⟩),
          if_neg (hne ⟨'t', by decide, by decide⟩), if_neg (hne ⟨'f', by decide, by decide⟩), hdec]
        dsimp only
        rw [if_pos (List.all_eq_true.mpr hnum), hread]
        rfl

theorem lex_structural (F : FloatText) (n : Nat) (cs : List Char) :
    ∀ e ∈ structurals, lex F (n + 1) (e.1 :: cs) = (lex F n cs).map (e.2 :: ·) := by
  simp only [structurals, List.forall_mem_cons]
  exact ⟨rfl, rfl, rfl, rfl, rfl, rfl, List.forall_mem_nil _⟩

theorem lex_string (F : FloatText) (ascii : Bool) (s : String) {n : Nat} (cs : List Char)
    (hn : (s.toList.flatMap (escape ascii)).length < n) :
    lex F (n + 1) (Token.text F ascii (.str s) ++ cs) = (lex F n cs).map (.str s :: ·) := by
  rw [Token.text, List.cons_append, List.append_assoc, List.singleton_append]
  rw [lex, if_neg (by decide)]
  simp only [show structurals.lookup '"' = none from rfl]
  rw [string?_text ascii s.toList n cs hn]
  simp only [Option.bind_eq_bind, Option.bind_some, String.ofList_toList]
  cases lex F n cs with
  | none => rfl
  | some ts => rfl

/-- A run of word characters, up to what is none. -/
theorem lex_word (F : FloatText) {w : List Char} (hw : w ≠ []) (hall : ∀ c ∈ w, isWordChar c = true)
    (n : Nat) {cs : List Char} (hcs : ∀ c ∈ cs.head?, isWordChar c = false) :
    lex F (n + 1) (w ++ cs) = (do
      let t ← word? F w
      return t :: (← lex F n cs)) := by
  cases w with
  | nil => exact absurd rfl hw
  | cons c w =>
      have hc := hall c (List.mem_cons_self ..)
      -- No character of a word begins anything else.
      have hne : ∀ {c' : Char}, isWordChar c' = false → c ≠ c' := by
        rintro c' hc' rfl
        rw [hc] at hc'
        cases hc'
      have hwhite : ¬ [' ', '\t', '\n', '\r'].contains c = true := by
        have hstop : ∀ c' ∈ [' ', '\t', '\n', '\r'], isWordChar c' = false := by
          simp only [List.forall_mem_cons, List.not_mem_nil, false_imp_iff, implies_true, and_true]
          decide
        exact fun h => hne (hstop c (List.contains_iff_mem.mp h)) rfl
      have hlookup : structurals.lookup c = none := by
        have hstop : ∀ e ∈ structurals, isWordChar e.1 = false := by decide
        exact List.lookup_eq_none_iff.mpr fun e he => bne_iff_ne.mpr (hne (hstop e he))
      rw [List.cons_append, lex, if_neg hwhite, hlookup]
      dsimp only
      rw [if_neg (hne (by decide)), if_pos hc, ← List.cons_append, takeWhile_append_stop hall hcs,
        dropWhile_append_stop hall hcs]

/-- The first character of what is no word. -/
theorem head?_text (F : FloatText) (ascii : Bool) {t : Token} (h : t.isWord = false) :
    ∃ c cs, t.text F ascii = c :: cs ∧ isWordChar c = false := by
  cases t with
  | null | bool | int | float | bare => cases h
  | lbracket | rbracket | lbrace | rbrace | colon | comma | str => exact ⟨_, _, rfl, by decide⟩

theorem head?_render (F : FloatText) (ascii : Bool) {ts : List Token}
    (h : ∀ t ∈ ts.head?, t.isWord = false) :
    ∀ c ∈ (render F ascii ts).head?, isWordChar c = false := by
  cases ts with
  | nil => nofun
  | cons t ts =>
      obtain ⟨c, cs, htext, hc⟩ := head?_text F ascii (h t rfl)
      intro c' hc'
      rw [render, List.flatMap_cons, htext] at hc'
      cases hc'
      exact hc

/-- **The tokens of a text read back**, where they are those of a JSON text and no two words meet. -/
theorem lex_render {F : FloatText} (hF : F.Lawful) (ascii : Bool) {ts : List Token}
    (hl : ∀ t ∈ ts, t.Legible) (ha : Apart ts) (n : Nat) (hn : (render F ascii ts).length ≤ n) :
    lex F n (render F ascii ts) = some ts := by
  induction ts generalizing n with
  | nil => cases n <;> rfl
  | cons t ts ih =>
      have hl' := List.forall_mem_cons.mp hl
      obtain ⟨hnext, ha'⟩ := List.isChain_cons.mp ha
      rw [render, List.flatMap_cons, List.length_append] at hn
      change lex F n (t.text F ascii ++ render F ascii ts) = _
      change (t.text F ascii).length + (render F ascii ts).length ≤ n at hn
      cases hw : t.isWord with
      | true =>
          obtain ⟨hne, hall, hread⟩ := word?_text hF ascii hw hl'.1
          have hpos := List.length_pos_iff.mpr hne
          obtain ⟨n, rfl⟩ : ∃ k, n = k + 1 := ⟨n - 1, by omega⟩
          rw [lex_word F hne hall n (head?_render F ascii fun t' ht' => hnext t' ht' hw), hread,
            ih hl'.2 ha' n (by omega)]
          rfl
      | false =>
          obtain ⟨c, cs, htext, -⟩ := head?_text F ascii hw
          rw [htext, List.length_cons] at hn
          obtain ⟨n, rfl⟩ : ∃ k, n = k + 1 := ⟨n - 1, by omega⟩
          have hrest := ih hl'.2 ha' n (by omega)
          have hstructural : ∀ e ∈ structurals, lex F (n + 1) (e.1 :: render F ascii ts) =
              some (e.2 :: ts) := by
            intro e he
            rw [lex_structural F n _ e he, hrest]
            rfl
          cases t with
          | null | bool | int | float | bare => cases hw
          | lbracket => exact hstructural ('[', .lbracket) (by simp [structurals])
          | rbracket => exact hstructural (']', .rbracket) (by simp [structurals])
          | lbrace => exact hstructural ('\x7b', .lbrace) (by simp [structurals])
          | rbrace => exact hstructural ('\x7d', .rbrace) (by simp [structurals])
          | colon => exact hstructural (':', .colon) (by simp [structurals])
          | comma => exact hstructural (',', .comma) (by simp [structurals])
          | str s =>
              rw [← List.length_cons, ← htext, Token.text, List.length_cons, List.length_append,
                List.length_singleton] at hn
              rw [lex_string F ascii s _ (by omega), hrest]
              rfl

/-! ### The text of a document -/

section Documents

variable {w : Binary64 → Token}

theorem apart_cons {t : Token} {ts : List Token} (ht : t.isWord = false) (h : Apart ts) :
    Apart (t :: ts) := by
  refine List.isChain_cons.mpr ⟨fun t' _ hw => ?_, h⟩
  rw [ht] at hw
  cases hw

/-- A value stands between two tokens that are no words. -/
theorem apart_scalar {t : Token} {ts : List Token} (h : Apart ts)
    (hhead : ∀ t ∈ ts.head?, t.isWord = false) : Apart (t :: ts) :=
  List.isChain_cons.mpr ⟨fun t' ht' _ => hhead t' ht', h⟩

theorem head?_writeElements (js : List Json) {ts : List Token} :
    ∀ t ∈ (Json.writeElements w js ++ ts).head?, t.isWord = false := by
  intro t ht
  cases js with
  | nil =>
      rw [Json.writeElements] at ht
      cases ht
      rfl
  | cons j js =>
      rw [Json.writeElements] at ht
      cases ht
      rfl

theorem head?_writeMembers (kvs : List (String × Json)) {ts : List Token} :
    ∀ t ∈ (Json.writeMembers w kvs ++ ts).head?, t.isWord = false := by
  intro t ht
  cases kvs with
  | nil =>
      rw [Json.writeMembers] at ht
      cases ht
      rfl
  | cons kv kvs =>
      rw [Json.writeMembers] at ht
      cases ht
      rfl

mutual
/-- No two words of a document's text meet. -/
theorem apart_write : ∀ (j : Json) {ts : List Token}, Apart ts →
    (∀ t ∈ ts.head?, t.isWord = false) → Apart (j.write w ++ ts)
  | .null, _, h, hhead | .bool _, _, h, hhead | .int _, _, h, hhead | .float _, _, h, hhead
  | .str _, _, h, hhead => by
      rw [Json.write]
      exact apart_scalar h hhead
  | .arr [], _, h, _ => by
      rw [Json.write]
      exact apart_cons rfl (apart_cons rfl h)
  | .arr (j :: js), _, h, _ => by
      rw [Json.write, List.cons_append, List.append_assoc]
      exact apart_cons rfl (apart_write j (apart_writeElements js h) (head?_writeElements js))
  | .obj [], _, h, _ => by
      rw [Json.write]
      exact apart_cons rfl (apart_cons rfl h)
  | .obj ((k, j) :: kvs), _, h, _ => by
      rw [Json.write, Json.writeMember, List.cons_append, List.append_assoc, List.cons_append,
        List.cons_append]
      exact apart_cons rfl (apart_cons rfl (apart_cons rfl
        (apart_write j (apart_writeMembers kvs h) (head?_writeMembers kvs))))

theorem apart_writeElements : ∀ (js : List Json) {ts : List Token}, Apart ts →
    Apart (Json.writeElements w js ++ ts)
  | [], _, h => by
      rw [Json.writeElements]
      exact apart_cons rfl h
  | j :: js, _, h => by
      rw [Json.writeElements, List.cons_append, List.append_assoc]
      exact apart_cons rfl (apart_write j (apart_writeElements js h) (head?_writeElements js))

theorem apart_writeMembers : ∀ (kvs : List (String × Json)) {ts : List Token}, Apart ts →
    Apart (Json.writeMembers w kvs ++ ts)
  | [], _, h => by
      rw [Json.writeMembers]
      exact apart_cons rfl h
  | (k, j) :: kvs, _, h => by
      rw [Json.writeMembers, Json.writeMember, List.cons_append, List.append_assoc,
        List.cons_append, List.cons_append]
      exact apart_cons rfl (apart_cons rfl (apart_cons rfl
        (apart_write j (apart_writeMembers kvs h) (head?_writeMembers kvs))))
end

mutual
/-- A document of finite floats is written in the tokens of a JSON text. -/
theorem legible_write (hw : ∀ x : Binary64, x.IsFinite → (w x).Legible) : ∀ (j : Json),
    (∀ x ∈ j.floats, x.IsFinite) → ∀ t ∈ j.write w, t.Legible
  | .null, _ | .bool _, _ | .int _, _ | .str _, _ => by
      rw [Json.write]
      exact List.forall_mem_singleton.mpr trivial
  | .float x, h => by
      rw [Json.write]
      exact List.forall_mem_singleton.mpr (hw x (h x (by simp)))
  | .arr [], _ => by
      rw [Json.write]
      exact List.forall_mem_cons.mpr ⟨trivial, List.forall_mem_singleton.mpr trivial⟩
  | .arr (j :: js), h => by
      rw [Json.floats_arr, List.flatMap_cons, List.forall_mem_append] at h
      rw [Json.write, List.forall_mem_cons, List.forall_mem_append]
      exact ⟨trivial, legible_write hw j h.1, legible_writeElements hw js h.2⟩
  | .obj [], _ => by
      rw [Json.write]
      exact List.forall_mem_cons.mpr ⟨trivial, List.forall_mem_singleton.mpr trivial⟩
  | .obj ((k, j) :: kvs), h => by
      rw [Json.floats_obj, List.flatMap_cons, List.forall_mem_append] at h
      rw [Json.write, Json.writeMember, List.forall_mem_cons, List.forall_mem_append,
        List.forall_mem_cons, List.forall_mem_cons]
      exact ⟨trivial, ⟨trivial, trivial, legible_write hw j h.1⟩,
        legible_writeMembers hw kvs h.2⟩

theorem legible_writeElements (hw : ∀ x : Binary64, x.IsFinite → (w x).Legible) :
    ∀ (js : List Json), (∀ x ∈ js.flatMap Json.floats, x.IsFinite) →
      ∀ t ∈ Json.writeElements w js, t.Legible
  | [], _ => by
      rw [Json.writeElements]
      exact List.forall_mem_singleton.mpr trivial
  | j :: js, h => by
      rw [List.flatMap_cons, List.forall_mem_append] at h
      rw [Json.writeElements, List.forall_mem_cons, List.forall_mem_append]
      exact ⟨trivial, legible_write hw j h.1, legible_writeElements hw js h.2⟩

theorem legible_writeMembers (hw : ∀ x : Binary64, x.IsFinite → (w x).Legible) :
    ∀ (kvs : List (String × Json)), (∀ x ∈ kvs.flatMap fun kv => kv.2.floats, x.IsFinite) →
      ∀ t ∈ Json.writeMembers w kvs, t.Legible
  | [], _ => by
      rw [Json.writeMembers]
      exact List.forall_mem_singleton.mpr trivial
  | (k, j) :: kvs, h => by
      rw [List.flatMap_cons, List.forall_mem_append] at h
      rw [Json.writeMembers, Json.writeMember, List.forall_mem_cons, List.forall_mem_append,
        List.forall_mem_cons, List.forall_mem_cons]
      exact ⟨trivial, ⟨trivial, trivial, legible_write hw j h.1⟩,
        legible_writeMembers hw kvs h.2⟩
end

mutual
theorem mapFloats_float : ∀ (j : Json), j.mapFloats .float = j
  | .null | .bool _ | .int _ | .float _ | .str _ => by simp only [Json.mapFloats]
  | .arr js => by rw [Json.mapFloats, mapFloatsList_float js]
  | .obj kvs => by rw [Json.mapFloats, mapFloatsEntries_float kvs]

theorem mapFloatsList_float : ∀ (js : List Json), Json.mapFloatsList .float js = js
  | [] => by rw [Json.mapFloatsList]
  | j :: js => by rw [Json.mapFloatsList, mapFloats_float j, mapFloatsList_float js]

theorem mapFloatsEntries_float : ∀ (kvs : List (String × Json)),
    Json.mapFloatsEntries .float kvs = kvs
  | [] => by rw [Json.mapFloatsEntries]
  | (k, j) :: kvs => by
      rw [Json.mapFloatsEntries, Json.mapFloatsEntry, mapFloats_float j,
        mapFloatsEntries_float kvs]
end

/-- A document's text, spelled either way, reads back as the document. -/
theorem readText?_render {F : FloatText} (hF : F.Lawful) (ascii : Bool)
    (hw : ∀ x : Binary64, x.IsFinite → w x = .float x) {j : Json}
    (h : ∀ x ∈ j.floats, x.IsFinite) :
    readText? F (render F ascii (j.write w)) = some j := by
  have hlegible := legible_write (w := w) (fun x hx => by rw [hw x hx]; exact hx) j h
  have hapart : Apart (j.write w) := by
    have hnil := apart_write (w := w) j (List.isChain_nil) nofun
    rwa [List.append_nil] at hnil
  have hfloats : ∀ x ∈ j.floats, (w x).scalar? = some (.float x) := by
    intro x hx
    rw [hw x (h x hx)]
    rfl
  rw [readText?, lex_render hF ascii hlegible hapart _ (Nat.le_refl _), Option.bind_some,
    parse_write j hfloats, mapFloats_float]

end Documents

/-! ### A spelling of floats -/

/-- Spells `1.0` so, and any other float by its bits. -/
def FloatText.byBits : FloatText where
  write x := if x = .one then "1.0".toList else Nat.toDigits 10 x.bits.toNat ++ ['e', '0']
  read w :=
    if w = "1.0".toList then some .one
    else (digits? (w.take (w.length - 2))).map fun n => ⟨BitVec.ofNat 64 n⟩

theorem FloatText.byBits_lawful : FloatText.byBits.Lawful := by
  intro x _
  by_cases hx : x = .one
  · subst hx
    exact ⟨List.all_eq_true.mp (by decide), by decide, rfl⟩
  · have hwrite : FloatText.byBits.write x = Nat.toDigits 10 x.bits.toNat ++ ['e', '0'] :=
      if_neg hx
    have hdigit : ∀ c ∈ Nat.toDigits 10 x.bits.toNat, c.isDigit = true := fun c hc =>
      Nat.isDigit_of_mem_toDigits (by decide) (by decide) hc
    have hne : Nat.toDigits 10 x.bits.toNat ++ ['e', '0'] ≠ "1.0".toList := by
      intro h
      have he : 'e' ∈ "1.0".toList := by
        rw [← h]
        simp
      exact absurd he (by decide)
    rw [hwrite]
    refine ⟨fun c hc => ?_, Or.inr (by simp), ?_⟩
    · rcases List.mem_append.mp hc with hc | hc
      · rw [isNumeric, hdigit c hc, Bool.true_or]
      · have hall : ∀ c ∈ ['e', '0'], isNumeric c = true := List.all_eq_true.mp (by decide)
        exact hall c hc
    · change (if _ = "1.0".toList then _ else _) = _
      rw [if_neg hne, List.length_append, List.length_cons, List.length_singleton,
        Nat.add_sub_cancel, List.take_left', digits?_toDigits]
      · exact congrArg some (congrArg Binary64.mk (BitVec.ofNat_toNat ..))
      · rfl

end OtlpClient.Proto
