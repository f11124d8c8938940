import OtlpClient.Support.Utf8

/-!
# Support — percent-encoding

What `urllib.parse` does to a text: a byte that may not stand for itself is written `%` and its two
hex digits.

* `unquote_encodes`: `unquote` reads every way to percent-encode a text.
* `unquotePlus_quotePlus`: `unquote_plus` undoes `quote_plus`.
-/

namespace OtlpClient

/-! ### Reading -/

/-- `unquote_to_bytes` at a text: what is no escape stands for itself. -/
def unquoteToBytes : List Char → Bytes
  | [] => []
  | '%' :: h :: l :: cs =>
      match hexValue? h, hexValue? l with
      | some high, some low => UInt8.ofNat (16 * high + low) :: unquoteToBytes cs
      | _, _ => String.utf8EncodeChar '%' ++ unquoteToBytes (h :: l :: cs)
  | c :: cs => String.utf8EncodeChar c ++ unquoteToBytes cs

/-- `unquote`.  It decodes the bytes between two characters past ASCII by themselves, which is the
same: the bytes of such a character go on with no other one. -/
def unquoteChars (cs : List Char) : List Char := utf8Replace (unquoteToBytes cs)

def unquote (s : String) : String := String.ofList (unquoteChars s.toList)

/-- `s.replace("+", " ")`. -/
def plusToSpace (cs : List Char) : List Char := cs.map fun c => if c = '+' then ' ' else c

/-- `unquote_plus`. -/
def unquotePlus (cs : List Char) : List Char := unquoteChars (plusToSpace cs)

/-! ### Writing -/

/-- `'%{:02X}'.format(b)`. -/
def escape (b : UInt8) : List Char :=
  ['%', (hexDigit (b.toNat / 16)).toUpper, (hexDigit (b.toNat % 16)).toUpper]

/-- `_ALWAYS_SAFE`: letters and digits of ASCII, and four marks. -/
def alwaysSafe (c : Char) : Bool :=
  let n := c.toNat
  (0x30 ≤ n && n ≤ 0x39) || (0x41 ≤ n && n ≤ 0x5a) || (0x61 ≤ n && n ≤ 0x7a) ||
    ['_', '.', '-', '~'].contains c

/-- A byte of `quote`: it stands for itself where it is safe. -/
def quoteByte (safe : Char → Bool) (b : UInt8) : List Char :=
  if safe (Char.ofNat b.toNat) then [Char.ofNat b.toNat] else escape b

/-- `quote`, with what is safe besides the characters that always are. -/
def quote (safe : List Char) (cs : List Char) : List Char :=
  (utf8Encode cs).flatMap (quoteByte fun c => alwaysSafe c || safe.contains c)

/-- `quote_plus`. -/
def quotePlus (cs : List Char) : List Char :=
  (quote [' '] cs).map fun c => if c = ' ' then '+' else c

/-! ### Every way to write a text -/

/-- Every byte as an escape, its digits of either case. -/
inductive Escapes : Bytes → List Char → Prop where
  | nil : Escapes [] []
  | cons {b : UInt8} {bs : Bytes} {h l : Char} {cs : List Char}
      (hh : hexValue? h = some (b.toNat / 16)) (hl : hexValue? l = some (b.toNat % 16))
      (hcs : Escapes bs cs) : Escapes (b :: bs) ('%' :: h :: l :: cs)

/-- A text percent-encoded: each character stands for itself, which only those may that are raw, or
its bytes are escapes. -/
inductive Encoded (raw : Char → Prop) : List Char → List Char → Prop where
  | nil : Encoded raw [] []
  | raw {c : Char} {cs text : List Char} (hc : raw c) (h : Encoded raw cs text) :
      Encoded raw (c :: cs) (c :: text)
  | escaped {c : Char} {cs escapes text : List Char}
      (hc : Escapes (String.utf8EncodeChar c) escapes) (h : Encoded raw cs text) :
      Encoded raw (c :: cs) (escapes ++ text)

variable {raw : Char → Prop} {cs text : List Char}

theorem unquoteToBytes_escape {b : UInt8} {h l : Char} (hh : hexValue? h = some (b.toNat / 16))
    (hl : hexValue? l = some (b.toNat % 16)) :
    unquoteToBytes ('%' :: h :: l :: text) = b :: unquoteToBytes text := by
  rw [unquoteToBytes, hh, hl]
  dsimp only
  rw [ofNat_eq_of_toNat (Nat.div_add_mod _ 16)]

theorem unquoteToBytes_escapes {bs : Bytes} {escapes : List Char} (h : Escapes bs escapes) :
    unquoteToBytes (escapes ++ text) = bs ++ unquoteToBytes text := by
  induction h with
  | nil => rfl
  | cons hh hl _ ih =>
      rw [List.cons_append, List.cons_append, List.cons_append, unquoteToBytes_escape hh hl, ih,
        List.cons_append]

theorem unquoteToBytes_raw {c : Char} (hc : c ≠ '%') :
    unquoteToBytes (c :: text) = String.utf8EncodeChar c ++ unquoteToBytes text := by
  rw [unquoteToBytes]
  rintro h l cs rfl -
  exact hc rfl

/-- The bytes of a text, from every way to write it. -/
theorem unquoteToBytes_encoded (hraw : ∀ c, raw c → c ≠ '%') (h : Encoded raw cs text) :
    unquoteToBytes text = utf8Encode cs := by
  induction h with
  | nil => rfl
  | raw hc _ ih =>
      rw [unquoteToBytes_raw (hraw _ hc), ih]
      rfl
  | escaped hc _ ih =>
      rw [unquoteToBytes_escapes hc, ih]
      rfl

/-- **Reading what is percent-encoded.** -/
theorem unquote_encoded (hraw : ∀ c, raw c → c ≠ '%') (h : Encoded raw cs text) :
    unquoteChars text = cs := by
  rw [unquoteChars, unquoteToBytes_encoded hraw h, utf8Replace_encode]

/-- What stands for itself may do so where more does. -/
theorem Encoded.mono {raw' : Char → Prop} (hraw : ∀ c, raw c → raw' c) (h : Encoded raw cs text) :
    Encoded raw' cs text := by
  induction h with
  | nil => exact .nil
  | raw hc _ ih => exact .raw (hraw _ hc) ih
  | escaped hc _ ih => exact .escaped hc ih

/-- What an encoded text is made of. -/
theorem Encoded.mem {c : Char} (h : Encoded raw cs text) (hc : c ∈ text) :
    raw c ∨ c = '%' ∨ hexValue? c ≠ none := by
  have hescapes : ∀ {bs escapes}, Escapes bs escapes → c ∈ escapes →
      c = '%' ∨ hexValue? c ≠ none := by
    intro bs escapes hbs hc
    induction hbs with
    | nil => cases hc
    | cons hh hl _ ih =>
        simp only [List.mem_cons] at hc
        rcases hc with rfl | rfl | rfl | hc
        · exact Or.inl rfl
        · exact Or.inr (by simp [hh])
        · exact Or.inr (by simp [hl])
        · exact ih hc
  induction h with
  | nil => cases hc
  | raw hraw _ ih =>
      rcases List.mem_cons.mp hc with rfl | hc
      · exact Or.inl hraw
      · exact ih hc
  | escaped hbs _ ih =>
      rcases List.mem_append.mp hc with hc | hc
      · exact Or.inr (hescapes hbs hc)
      · exact ih hc

/-! ### `quote` -/

theorem hexValue?_upper : ∀ n < 16, hexValue? (hexDigit n).toUpper = some n := by decide

/-- Bytes that `quote` leaves to no character are escapes. -/
theorem escapes_quote {safe : Char → Bool} {bs : Bytes}
    (h : ∀ b ∈ bs, safe (Char.ofNat b.toNat) = false) :
    Escapes bs (bs.flatMap (quoteByte safe)) := by
  induction bs with
  | nil => exact .nil
  | cons b bs ih =>
      obtain ⟨hb, hbs⟩ := List.forall_mem_cons.mp h
      have hlt := b.toNat_lt
      rw [List.flatMap_cons, quoteByte, hb]
      exact .cons (hexValue?_upper _ (by omega)) (hexValue?_upper _ (by omega)) (ih hbs)

/-- The bytes of a character past ASCII are past ASCII. -/
theorem utf8EncodeChar_high {c : Char} (hc : 0x80 ≤ c.toNat) :
    ∀ b ∈ String.utf8EncodeChar c, 0x80 ≤ b.toNat := by
  have hvalid : c.toNat < 0xd800 ∨ 0xdfff < c.toNat ∧ c.toNat < 0x110000 := c.valid
  rw [utf8EncodeChar_eq, if_neg (by omega)]
  split
  · simp only [List.forall_mem_cons]
    rw [toNat_ofNat_of_lt (by omega), toNat_ofNat_of_lt (by omega)]
    exact ⟨by omega, by omega, List.forall_mem_nil _⟩
  split
  · simp only [List.forall_mem_cons]
    rw [toNat_ofNat_of_lt (by omega), toNat_ofNat_of_lt (by omega), toNat_ofNat_of_lt (by omega)]
    exact ⟨by omega, by omega, by omega, List.forall_mem_nil _⟩
  · simp only [List.forall_mem_cons]
    rw [toNat_ofNat_of_lt (by omega), toNat_ofNat_of_lt (by omega), toNat_ofNat_of_lt (by omega),
      toNat_ofNat_of_lt (by omega)]
    exact ⟨by omega, by omega, by omega, by omega, List.forall_mem_nil _⟩

theorem utf8EncodeChar_low {c : Char} (hc : c.toNat < 0x80) :
    String.utf8EncodeChar c = [UInt8.ofNat c.toNat] := by
  rw [utf8EncodeChar_eq, if_pos (by omega)]

/-- What always is safe is of ASCII. -/
theorem alwaysSafe_lt {c : Char} (h : alwaysSafe c = true) : c.toNat < 0x80 := by
  simp [alwaysSafe] at h
  rcases h with h | rfl | rfl | rfl | rfl
  · omega
  · decide
  · decide
  · decide
  · decide

/-- `quote` percent-encodes. -/
theorem encoded_quote {safe : List Char} (hsafe : ∀ c ∈ safe, c.toNat < 0x80) (cs : List Char) :
    Encoded (fun c => alwaysSafe c = true ∨ c ∈ safe) cs (quote safe cs) := by
  induction cs with
  | nil => exact .nil
  | cons c cs ih =>
      have hquote : quote safe (c :: cs) = (String.utf8EncodeChar c).flatMap
          (quoteByte fun c => alwaysSafe c || safe.contains c) ++ quote safe cs := by
        rw [quote, utf8Encode, List.flatMap_cons, List.flatMap_append]
        rfl
      rw [hquote]
      have hsafe' : ∀ c, (alwaysSafe c || safe.contains c) = true →
          alwaysSafe c = true ∨ c ∈ safe := by
        intro c hc
        simpa using hc
      by_cases hc : c.toNat < 0x80
      · have hbyte : Char.ofNat (UInt8.ofNat c.toNat).toNat = c := by
          rw [toNat_ofNat_of_lt (by omega), Char.ofNat_toNat]
        by_cases hs : (alwaysSafe c || safe.contains c) = true
        · rw [utf8EncodeChar_low hc, List.flatMap_singleton, quoteByte, hbyte, if_pos hs]
          exact .raw (hsafe' c hs) ih
        · refine .escaped (escapes_quote ?_) ih
          rw [utf8EncodeChar_low hc, List.forall_mem_singleton, hbyte]
          exact Bool.not_eq_true _ ▸ hs
      · refine .escaped (escapes_quote fun b hb => ?_) ih
        have hhigh := utf8EncodeChar_high (by omega) b hb
        have hlt := b.toNat_lt
        have hnat : (Char.ofNat b.toNat).toNat = b.toNat := by
          rw [Char.ofNat, dif_pos (Or.inl (by omega))]
          rfl
        by_contra hs
        have hascii : (Char.ofNat b.toNat).toNat < 0x80 :=
          (hsafe' _ (Bool.not_eq_false _ ▸ hs)).elim alwaysSafe_lt (hsafe _)
        omega

/-! ### `quote_plus` -/

theorem lt_of_mem_space {c : Char} (h : c ∈ [' ']) : c.toNat < 0x80 := by
  rw [List.mem_singleton.mp h]
  decide

/-- What `quote` writes, where it leaves the blanks. -/
theorem mem_quote {c : Char} (h : c ∈ quote [' '] cs) :
    (alwaysSafe c = true ∨ c = ' ') ∨ c = '%' ∨ hexValue? c ≠ none := by
  have hmem := (encoded_quote (fun _ => lt_of_mem_space) cs).mem h
  simpa using hmem

theorem notMem_quotePlus : ':' ∉ quotePlus cs := by
  intro h
  obtain ⟨c, hc, heq⟩ := List.mem_map.mp h
  by_cases hspace : c = ' '
  · rw [if_pos hspace] at heq
    cases heq
  · rw [if_neg hspace] at heq
    subst heq
    revert hc
    exact fun hc => absurd (mem_quote hc) (by decide)

/-- The blanks come back, as `quote` writes no `+`. -/
theorem plusToSpace_quotePlus : plusToSpace (quotePlus cs) = quote [' '] cs := by
  rw [plusToSpace, quotePlus, List.map_map]
  conv_rhs => rw [← List.map_id (quote [' '] cs)]
  refine List.map_congr_left fun c hc => ?_
  have hplus : c ≠ '+' := by
    rintro rfl
    exact absurd (mem_quote hc) (by decide)
  by_cases hspace : c = ' '
  · subst hspace
    rfl
  · simp [hspace, hplus]

/-- **`unquote_plus` undoes `quote_plus`.** -/
@[simp]
theorem unquotePlus_quotePlus : unquotePlus (quotePlus cs) = cs := by
  rw [unquotePlus, plusToSpace_quotePlus]
  refine unquote_encoded ?_ (encoded_quote (fun _ => lt_of_mem_space) cs)
  rintro c (hc | hc) rfl
  · revert hc
    decide
  · revert hc
    decide

example : quotePlus "sh:ut€ up".toList = "sh%3Aut%E2%82%AC+up".toList := by decide

end OtlpClient
