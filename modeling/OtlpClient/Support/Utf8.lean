import OtlpClient.Support.Text

/-!
# Support — UTF-8

The bytes of a text, and their decoder, which takes one byte at a time: a character that has begun
knows how many bytes are to come and where the next one lies.  What begins no character, and a
character that breaks off, is one error each.

* `utf8Decode_encode`: decoding undoes the encoding.
* `utf8Decode?`: `bytes.decode("utf-8")`; `utf8Replace`: `bytes.decode("utf-8", "replace")`.
-/

namespace OtlpClient

/-- `str.encode()`. -/
def utf8Encode (cs : List Char) : Bytes := cs.flatMap String.utf8EncodeChar

/-- A character that has begun. -/
structure Utf8Begun where
  /-- The bits so far. -/
  value : Nat
  /-- How many bytes follow the next one. -/
  more : Nat
  /-- The next byte lies between these. -/
  low : Nat
  high : Nat

/-- What a byte adds to the text, and where it leaves the decoder.  `none` is an error. -/
abbrev Utf8Step := List (Option Char) × Option Utf8Begun

/-- A byte between two characters. -/
def utf8First (b : UInt8) : Utf8Step :=
  let n := b.toNat
  if n < 0x80 then ([some (Char.ofNat n)], none)
  else if n < 0xc2 then ([none], none)
  else if n < 0xe0 then ([], some ⟨n - 0xc0, 0, 0x80, 0xbf⟩)
  else if n < 0xf0 then
    -- Nothing that is shorter, and no surrogate.
    ([], some ⟨n - 0xe0, 1, if n = 0xe0 then 0xa0 else 0x80, if n = 0xed then 0x9f else 0xbf⟩)
  else if n < 0xf5 then
    -- Nothing that is shorter, and nothing past the last code point.
    ([], some ⟨n - 0xf0, 2, if n = 0xf0 then 0x90 else 0x80, if n = 0xf4 then 0x8f else 0xbf⟩)
  else ([none], none)

/-- A byte where a character has begun. -/
def utf8Next (p : Utf8Begun) (b : UInt8) : Utf8Step :=
  if p.low ≤ b.toNat ∧ b.toNat ≤ p.high then
    let value := 64 * p.value + (b.toNat - 0x80)
    match p.more with
    | 0 => ([some (Char.ofNat value)], none)
    | more + 1 => ([], some ⟨value, more, 0x80, 0xbf⟩)
  else
    -- The character breaks off, and the byte is read again.
    (none :: (utf8First b).1, (utf8First b).2)

/-- The decoder, from where it stands. -/
def utf8From : Option Utf8Begun → Bytes → List (Option Char)
  | none, [] => []
  | some _, [] => [none]
  | none, b :: bs => (utf8First b).1 ++ utf8From (utf8First b).2 bs
  | some p, b :: bs => (utf8Next p b).1 ++ utf8From (utf8Next p b).2 bs

/-- The characters of a byte string, and its errors. -/
def utf8Decode (bs : Bytes) : List (Option Char) := utf8From none bs

/-- `bytes.decode("utf-8")`, where it does not raise. -/
def utf8Decode? (bs : Bytes) : Option (List Char) := (utf8Decode bs).mapM id

/-- `bytes.decode("utf-8", "replace")`. -/
def utf8Replace (bs : Bytes) : List Char := (utf8Decode bs).map (·.getD '\ufffd')

/-! ### Decoding what is encoded -/

theorem toNat_ofNat_of_lt {n : Nat} (h : n < 256) : (UInt8.ofNat n).toNat = n := by
  rw [UInt8.toNat_ofNat']
  exact Nat.mod_eq_of_lt h

theorem utf8From_first (b : UInt8) (bs : Bytes) :
    utf8From none (b :: bs) = (utf8First b).1 ++ utf8From (utf8First b).2 bs := rfl

theorem utf8From_next (p : Utf8Begun) (b : UInt8) (bs : Bytes) :
    utf8From (some p) (b :: bs) = (utf8Next p b).1 ++ utf8From (utf8Next p b).2 bs := rfl

/-- A byte that is not the last one of a character. -/
theorem utf8From_more {value more low high n : Nat} {bs : Bytes} (hlow : low ≤ n) (hhigh : n ≤ high)
    (hn : n < 256) : utf8From (some ⟨value, more + 1, low, high⟩) (UInt8.ofNat n :: bs) =
      utf8From (some ⟨64 * value + (n - 0x80), more, 0x80, 0xbf⟩) bs := by
  rw [utf8From_next, utf8Next, toNat_ofNat_of_lt hn, if_pos ⟨hlow, hhigh⟩]
  rfl

/-- The last byte of a character. -/
theorem utf8From_last {value low high n : Nat} {bs : Bytes} (hlow : low ≤ n) (hhigh : n ≤ high)
    (hn : n < 256) : utf8From (some ⟨value, 0, low, high⟩) (UInt8.ofNat n :: bs) =
      some (Char.ofNat (64 * value + (n - 0x80))) :: utf8From none bs := by
  rw [utf8From_next, utf8Next, toNat_ofNat_of_lt hn, if_pos ⟨hlow, hhigh⟩]
  rfl

theorem utf8From_one {n : Nat} {bs : Bytes} (h : n < 0x80) :
    utf8From none (UInt8.ofNat n :: bs) = some (Char.ofNat n) :: utf8From none bs := by
  rw [utf8From_first, utf8First, toNat_ofNat_of_lt (by omega)]
  rw [if_pos h]
  rfl

theorem utf8From_two {n : Nat} {bs : Bytes} (hlow : 2 ≤ n) (hhigh : n < 0x20) :
    utf8From none (UInt8.ofNat (n + 0xc0) :: bs) = utf8From (some ⟨n, 0, 0x80, 0xbf⟩) bs := by
  rw [utf8From_first, utf8First, toNat_ofNat_of_lt (by omega)]
  rw [if_neg (by omega), if_neg (by omega), if_pos (by omega), Nat.add_sub_cancel]
  rfl

theorem utf8From_three {n : Nat} {bs : Bytes} (h : n < 0x10) :
    utf8From none (UInt8.ofNat (n + 0xe0) :: bs) =
      utf8From (some ⟨n, 1, if n = 0 then 0xa0 else 0x80, if n = 0xd then 0x9f else 0xbf⟩) bs := by
  rw [utf8From_first, utf8First, toNat_ofNat_of_lt (by omega)]
  rw [if_neg (by omega), if_neg (by omega), if_neg (by omega), if_pos (by omega),
    Nat.add_sub_cancel]
  simp only [Nat.add_eq_right, Nat.reduceEqDiff, List.nil_append]

theorem utf8From_four {n : Nat} {bs : Bytes} (h : n < 5) :
    utf8From none (UInt8.ofNat (n + 0xf0) :: bs) =
      utf8From (some ⟨n, 2, if n = 0 then 0x90 else 0x80, if n = 4 then 0x8f else 0xbf⟩) bs := by
  rw [utf8From_first, utf8First, toNat_ofNat_of_lt (by omega)]
  rw [if_neg (by omega), if_neg (by omega), if_neg (by omega), if_neg (by omega), if_pos (by omega),
    Nat.add_sub_cancel]
  simp only [Nat.add_eq_right, Nat.reduceEqDiff, List.nil_append]

/-- The bytes of a character, by its code point. -/
theorem utf8EncodeChar_eq (c : Char) : String.utf8EncodeChar c =
    if c.toNat ≤ 0x7f then [UInt8.ofNat c.toNat]
    else if c.toNat ≤ 0x7ff then
      [UInt8.ofNat (c.toNat / 64 % 32 + 0xc0), UInt8.ofNat (c.toNat % 64 + 0x80)]
    else if c.toNat ≤ 0xffff then
      [UInt8.ofNat (c.toNat / 4096 % 16 + 0xe0), UInt8.ofNat (c.toNat / 64 % 64 + 0x80),
        UInt8.ofNat (c.toNat % 64 + 0x80)]
    else
      [UInt8.ofNat (c.toNat / 262144 % 8 + 0xf0), UInt8.ofNat (c.toNat / 4096 % 64 + 0x80),
        UInt8.ofNat (c.toNat / 64 % 64 + 0x80), UInt8.ofNat (c.toNat % 64 + 0x80)] :=
  rfl

/-- A character is read back, and what follows it is read after it. -/
theorem utf8From_encodeChar (c : Char) (bs : Bytes) :
    utf8From none (String.utf8EncodeChar c ++ bs) = some c :: utf8From none bs := by
  have hvalid : c.toNat < 0xd800 ∨ 0xdfff < c.toNat ∧ c.toNat < 0x110000 := c.valid
  have hc : ∀ {n}, n = c.toNat → some (Char.ofNat n) = some c := by
    rintro n rfl
    rw [Char.ofNat_toNat]
  rw [utf8EncodeChar_eq]
  by_cases h₁ : c.toNat ≤ 0x7f
  · rw [if_pos h₁, List.singleton_append, utf8From_one (by omega), hc rfl]
  rw [if_neg h₁]
  by_cases h₂ : c.toNat ≤ 0x7ff
  · rw [if_pos h₂, List.cons_append, List.singleton_append, utf8From_two (by omega) (by omega),
      utf8From_last (by omega) (by omega) (by omega), hc (by omega)]
  rw [if_neg h₂]
  by_cases h₃ : c.toNat ≤ 0xffff
  · rw [if_pos h₃, List.cons_append, List.cons_append, List.singleton_append,
      utf8From_three (by omega), utf8From_more (by split <;> omega) (by split <;> omega) (by omega),
      utf8From_last (by omega) (by omega) (by omega), hc (by omega)]
  · rw [if_neg h₃, List.cons_append, List.cons_append, List.cons_append, List.singleton_append,
      utf8From_four (by omega), utf8From_more (by split <;> omega) (by split <;> omega) (by omega),
      utf8From_more (by omega) (by omega) (by omega),
      utf8From_last (by omega) (by omega) (by omega), hc (by omega)]

/-- **Decoding undoes the encoding.** -/
theorem utf8Decode_encode (cs : List Char) : utf8Decode (utf8Encode cs) = cs.map some := by
  induction cs with
  | nil => rfl
  | cons c cs ih =>
      unfold utf8Decode utf8Encode at ih ⊢
      rw [List.flatMap_cons, utf8From_encodeChar, ih, List.map_cons]

@[simp]
theorem utf8Decode?_encode (cs : List Char) : utf8Decode? (utf8Encode cs) = some cs := by
  rw [utf8Decode?, utf8Decode_encode]
  induction cs with
  | nil => rfl
  | cons c cs ih =>
      rw [List.map_cons, List.mapM_cons, ih]
      rfl

@[simp]
theorem utf8Replace_encode (cs : List Char) : utf8Replace (utf8Encode cs) = cs := by
  rw [utf8Replace, utf8Decode_encode, List.map_map]
  exact List.map_id cs

end OtlpClient
