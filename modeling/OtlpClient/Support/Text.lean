import Mathlib.Data.List.Basic
import Mathlib.Data.List.GetD
import Mathlib.Data.List.Nodup
import Mathlib.Tactic.Common

/-!
# Support — text

The three ways a number or a byte string is written in a document: a decimal, as Python's
`str(int)` writes it; hex, as `bytes.hex()` does; base64 with padding (RFC 4648 §4), as
`base64.b64encode` does.  Each has a reader, and the reader undoes the writer: `decimal?_repr`,
`unhex?_hex`, `unb64?_b64`.  Each has one form, which is what is written: `IsDecimal`, `IsHex`,
`IsBase64`.
-/

namespace OtlpClient

/-- Python `bytes`. -/
abbrev Bytes := List UInt8

/-- The bytes of an ASCII text. -/
def ascii (text : String) : Bytes := text.toList.map fun c => UInt8.ofNat c.toNat

/-! ### Decimals -/

/-- The value of a nonempty string of decimal digits. -/
def digits? (cs : List Char) : Option Nat :=
  if cs.isEmpty || !cs.all Char.isDigit then none else some (Nat.ofDigitChars 10 cs 0)

/-- The value of a decimal: digits, a minus sign before them when negative. -/
def decimal? (s : String) : Option Int :=
  match s.toList with
  | '-' :: cs => (digits? cs).map fun n => -(n : Int)
  | cs => (digits? cs).map Int.ofNat

theorem digits?_toDigits (n : Nat) : digits? (Nat.toDigits 10 n) = some n := by
  have hd : (Nat.toDigits 10 n).all Char.isDigit = true :=
    List.all_eq_true.mpr fun c hc => Nat.isDigit_of_mem_toDigits (by decide) (by decide) hc
  simp [digits?, hd, Nat.ofDigitChars_ten_toDigits, Nat.toDigits_ne_nil]

theorem toDigits_head_ne_minus (n : Nat) (cs : List Char) : Nat.toDigits 10 n ≠ '-' :: cs := by
  intro h
  have hm : '-' ∈ Nat.toDigits 10 n := h ▸ List.mem_cons_self
  exact absurd (Nat.isDigit_of_mem_toDigits (by decide) (by decide) hm) (by decide)

/-- Reading a decimal undoes `str(int)`. -/
@[simp]
theorem decimal?_repr (n : Int) : decimal? n.repr = some n := by
  cases n with
  | ofNat n =>
      have h : (Int.ofNat n).repr.toList = Nat.toDigits 10 n := by simp [Int.repr]
      unfold decimal?
      rw [h]
      split
      · rename_i cs hcs
        exact absurd hcs (toDigits_head_ne_minus n cs)
      · rw [digits?_toDigits]; rfl
  | negSucc n =>
      have h : (Int.negSucc n).repr.toList = '-' :: Nat.toDigits 10 (n + 1) := by
        simp [Int.repr]
      unfold decimal?
      rw [h]
      simp only [digits?_toDigits]
      rfl

theorem repr_ne_empty (n : Int) : n.repr ≠ "" := by
  intro h
  have hd := decimal?_repr n
  rw [h, show decimal? "" = none by decide] at hd
  cases hd

/-- A canonical decimal: no zero before another digit, no sign but the minus of a negative
number. -/
def IsDecimal (s : String) : Prop :=
  s = "0" ∨ ∃ c cs, (s.toList = c :: cs ∨ s.toList = '-' :: c :: cs) ∧
    c ≠ '0' ∧ ∀ d ∈ c :: cs, d.isDigit = true

theorem digitChar_ne_zero : ∀ n < 10, 0 < n → Nat.digitChar n ≠ '0' := by decide

/-- The first digit of a positive number. -/
theorem toDigits_head {n : Nat} (h : 0 < n) : ∃ c cs, Nat.toDigits 10 n = c :: cs ∧ c ≠ '0' := by
  induction n using Nat.strongRecOn with
  | ind n ih =>
      rw [Nat.toDigits_eq_if (by decide)]
      split
      · rename_i hn
        exact ⟨_, _, rfl, digitChar_ne_zero n hn h⟩
      · rename_i hn
        obtain ⟨c, cs, hcs, hc⟩ := ih (n / 10) (by omega) (by omega)
        rw [hcs]
        exact ⟨c, _, rfl, hc⟩

theorem isDecimal_repr (n : Int) : IsDecimal n.repr := by
  have hd : ∀ {m : Nat}, ∀ c ∈ Nat.toDigits 10 m, c.isDigit = true := fun c hc =>
    Nat.isDigit_of_mem_toDigits (by decide) (by decide) hc
  cases n with
  | ofNat n =>
      rcases Nat.eq_zero_or_pos n with rfl | hn
      · exact .inl rfl
      · obtain ⟨c, cs, hcs, hc⟩ := toDigits_head hn
        refine .inr ⟨c, cs, .inl ?_, hc, hcs ▸ hd⟩
        simp [Int.repr, hcs]
  | negSucc n =>
      obtain ⟨c, cs, hcs, hc⟩ := toDigits_head n.succ_pos
      refine .inr ⟨c, cs, .inr ?_, hc, hcs ▸ hd⟩
      simp [Int.repr, hcs]

/-! ### Hex -/

/-- The digits of `bytes.hex()`. -/
def hexDigits : List Char :=
  ['0', '1', '2', '3', '4', '5', '6', '7', '8', '9', 'a', 'b', 'c', 'd', 'e', 'f']

def hexDigit (n : Nat) : Char := hexDigits.getD n '0'

/-- The value of a hex digit, of either case. -/
def hexValue? (c : Char) : Option Nat := hexDigits.idxOf? c.toLower

/-- The characters of `bytes.hex()`. -/
def hexChars : Bytes → List Char
  | [] => []
  | b :: bs => hexDigit (b.toNat / 16) :: hexDigit (b.toNat % 16) :: hexChars bs

/-- Two digits a byte. -/
def unhexChars : List Char → Option Bytes
  | [] => some []
  | [_] => none
  | h :: l :: cs => do
      let h ← hexValue? h
      let l ← hexValue? l
      return UInt8.ofNat (16 * h + l) :: (← unhexChars cs)

def unhex? (s : String) : Option Bytes := unhexChars s.toList

theorem hexValue?_hexDigit : ∀ n < 16, hexValue? (hexDigit n) = some n := by decide

/-- A byte is what its value, however it is written, makes it. -/
theorem ofNat_eq_of_toNat {n : Nat} {b : UInt8} (h : n = b.toNat) : UInt8.ofNat n = b := by
  subst h
  exact UInt8.ofNat_toNat

theorem unhexChars_hexChars (bs : Bytes) : unhexChars (hexChars bs) = some bs := by
  induction bs with
  | nil => rfl
  | cons b bs ih =>
      have hb := b.toNat_lt
      have h : UInt8.ofNat (16 * (b.toNat / 16) + b.toNat % 16) = b :=
        ofNat_eq_of_toNat (by omega)
      simp only [hexChars, unhexChars, hexValue?_hexDigit (b.toNat / 16) (by omega),
        hexValue?_hexDigit (b.toNat % 16) (by omega), ih, bind, pure, Option.bind_some, h]

/-- Reading hex undoes `bytes.hex()`. -/
@[simp]
theorem unhex?_hex (bs : Bytes) : unhex? (String.ofList (hexChars bs)) = some bs := by
  simp [unhex?, unhexChars_hexChars]

theorem hexChars_eq_nil {bs : Bytes} : hexChars bs = [] ↔ bs = [] := by
  cases bs <;> simp [hexChars]

/-- Hex as `bytes.hex()` writes it: two lower-case digits a byte. -/
def IsHex (s : String) : Prop :=
  ∃ b, unhex? s = some b ∧ s.toList.length = 2 * b.length ∧ ∀ c ∈ s.toList, c ∈ hexDigits

theorem length_hexChars (bs : Bytes) : (hexChars bs).length = 2 * bs.length := by
  induction bs with
  | nil => rfl
  | cons b bs ih =>
      rw [hexChars, List.length_cons, List.length_cons, ih, List.length_cons]
      omega

theorem hexDigit_mem : ∀ n < 16, hexDigit n ∈ hexDigits := by decide

theorem mem_hexChars {bs : Bytes} {c : Char} (h : c ∈ hexChars bs) : c ∈ hexDigits := by
  induction bs with
  | nil => cases h
  | cons b bs ih =>
      have hb := b.toNat_lt
      rcases List.mem_cons.mp h with rfl | h
      · exact hexDigit_mem _ (by omega)
      rcases List.mem_cons.mp h with rfl | h
      · exact hexDigit_mem _ (by omega)
      exact ih h

theorem isHex_hex (bs : Bytes) : IsHex (String.ofList (hexChars bs)) := by
  refine ⟨bs, unhex?_hex bs, ?_, ?_⟩
  · rw [String.toList_ofList, length_hexChars]
  · intro c hc
    rw [String.toList_ofList] at hc
    exact mem_hexChars hc

/-! ### Base64 -/

/-- The alphabet of RFC 4648 §4. -/
def b64Alphabet : List Char :=
  "ABCDEFGHIJKLMNOPQRSTUVWXYZabcdefghijklmnopqrstuvwxyz0123456789+/".toList

/-- The character of a sextet. -/
def b64Char (n : Nat) : Char := b64Alphabet.getD n 'A'

def b64Value? (c : Char) : Option Nat := b64Alphabet.idxOf? c

/-- Three bytes to four characters; a last group of one or two bytes is padded. -/
def b64Chars : Bytes → List Char
  | [] => []
  | [a] => [b64Char (a.toNat / 4), b64Char (a.toNat % 4 * 16), '=', '=']
  | [a, b] =>
      [b64Char (a.toNat / 4), b64Char (a.toNat % 4 * 16 + b.toNat / 16),
        b64Char (b.toNat % 16 * 4), '=']
  | a :: b :: c :: bs =>
      b64Char (a.toNat / 4) :: b64Char (a.toNat % 4 * 16 + b.toNat / 16) ::
        b64Char (b.toNat % 16 * 4 + c.toNat / 64) :: b64Char (c.toNat % 64) :: b64Chars bs

/-- The three bytes of four sextets. -/
def b64Group (w x y z : Nat) : Bytes :=
  [UInt8.ofNat (4 * w + x / 16), UInt8.ofNat (x % 16 * 16 + y / 4), UInt8.ofNat (y % 4 * 64 + z)]

/-- Four characters to three bytes; only the last four may be padded. -/
def unb64Chars : List Char → Option Bytes
  | [] => some []
  | w :: x :: y :: z :: cs => do
      let w ← b64Value? w
      let x ← b64Value? x
      if y = '=' ∧ z = '=' ∧ cs = [] then
        return (b64Group w x 0 0).take 1
      let y ← b64Value? y
      if z = '=' ∧ cs = [] then
        return (b64Group w x y 0).take 2
      let z ← b64Value? z
      return b64Group w x y z ++ (← unb64Chars cs)
  | _ => none

def unb64? (s : String) : Option Bytes := unb64Chars s.toList

theorem length_b64Alphabet : b64Alphabet.length = 64 := by decide +kernel

theorem nodup_b64Alphabet : b64Alphabet.Nodup := by decide +kernel

theorem b64Char_eq {n : Nat} (h : n < b64Alphabet.length) : b64Char n = b64Alphabet[n] :=
  List.getD_eq_getElem _ _ h

/-- The place of a character is its value: none stands in the alphabet twice. -/
theorem b64Value?_b64Char (n : Nat) (h : n < 64) : b64Value? (b64Char n) = some n := by
  have hn : n < b64Alphabet.length := by rwa [length_b64Alphabet]
  rw [b64Value?, b64Char_eq hn, List.idxOf?_eq_some_iff]
  exact ⟨hn, rfl, fun j hj heq => Nat.ne_of_lt hj (nodup_b64Alphabet.getElem_inj_iff.mp heq)⟩

theorem b64Char_ne_pad (n : Nat) (h : n < 64) : b64Char n ≠ '=' := by
  have hpad : '=' ∉ b64Alphabet := by decide +kernel
  rw [b64Char_eq (by rwa [length_b64Alphabet])]
  exact fun heq => hpad (heq ▸ List.getElem_mem _)

/-- The group of the sextets of three bytes is the three bytes. -/
theorem b64Group_sextets (a b c : UInt8) :
    b64Group (a.toNat / 4) (a.toNat % 4 * 16 + b.toNat / 16) (b.toNat % 16 * 4 + c.toNat / 64)
      (c.toNat % 64) = [a, b, c] := by
  have ha := a.toNat_lt
  have hb := b.toNat_lt
  have hc := c.toNat_lt
  simp only [b64Group, List.cons.injEq, and_true]
  exact ⟨ofNat_eq_of_toNat (by omega), ofNat_eq_of_toNat (by omega), ofNat_eq_of_toNat (by omega)⟩

theorem unb64Chars_b64Chars (bs : Bytes) : unb64Chars (b64Chars bs) = some bs := by
  induction bs using b64Chars.induct with
  | case1 => rfl
  | case2 a =>
      have ha := a.toNat_lt
      have h := b64Group_sextets a 0 0
      simp only [UInt8.toNat_zero, Nat.zero_div, Nat.zero_mod, Nat.zero_mul, Nat.add_zero] at h
      simp only [b64Chars, unb64Chars, b64Value?_b64Char (a.toNat / 4) (by omega),
        b64Value?_b64Char (a.toNat % 4 * 16) (by omega), bind, pure, Option.bind_some, and_self,
        if_true, h, List.take_succ_cons, List.take_zero]
  | case3 a b =>
      have ha := a.toNat_lt
      have hb := b.toNat_lt
      have h := b64Group_sextets a b 0
      simp only [UInt8.toNat_zero, Nat.zero_div, Nat.zero_mod, Nat.add_zero] at h
      simp only [b64Chars, unb64Chars, b64Value?_b64Char (a.toNat / 4) (by omega),
        b64Value?_b64Char (a.toNat % 4 * 16 + b.toNat / 16) (by omega),
        b64Value?_b64Char (b.toNat % 16 * 4) (by omega),
        b64Char_ne_pad (b.toNat % 16 * 4) (by omega), bind, pure, Option.bind_some, false_and,
        and_self, if_true, if_false, h, List.take_succ_cons, List.take_zero]
  | case4 a b c bs ih =>
      have ha := a.toNat_lt
      have hb := b.toNat_lt
      have hc := c.toNat_lt
      simp only [b64Chars, unb64Chars, b64Value?_b64Char (a.toNat / 4) (by omega),
        b64Value?_b64Char (a.toNat % 4 * 16 + b.toNat / 16) (by omega),
        b64Value?_b64Char (b.toNat % 16 * 4 + c.toNat / 64) (by omega),
        b64Value?_b64Char (c.toNat % 64) (by omega),
        b64Char_ne_pad (b.toNat % 16 * 4 + c.toNat / 64) (by omega),
        b64Char_ne_pad (c.toNat % 64) (by omega), bind, pure, Option.bind_some, false_and,
        if_false, ih, b64Group_sextets, List.cons_append, List.nil_append]

/-- Reading base64 undoes `base64.b64encode`. -/
@[simp]
theorem unb64?_b64 (bs : Bytes) : unb64? (String.ofList (b64Chars bs)) = some bs := by
  simp [unb64?, unb64Chars_b64Chars]

/-- Base64 with its padding: four characters for every three bytes begun. -/
def IsBase64 (s : String) : Prop :=
  ∃ b, unb64? s = some b ∧ s.toList.length = 4 * ((b.length + 2) / 3)

theorem length_b64Chars (bs : Bytes) : (b64Chars bs).length = 4 * ((bs.length + 2) / 3) := by
  induction bs using b64Chars.induct with
  | case1 => rfl
  | case2 a => simp [b64Chars]
  | case3 a b => simp [b64Chars]
  | case4 a b c bs ih =>
      simp only [b64Chars, List.length_cons, ih]
      omega

theorem isBase64_b64 (bs : Bytes) : IsBase64 (String.ofList (b64Chars bs)) := by
  refine ⟨bs, unb64?_b64 bs, ?_⟩
  rw [String.toList_ofList, length_b64Chars]

end OtlpClient
