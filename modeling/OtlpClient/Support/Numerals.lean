import Mathlib.Algebra.Group.Nat.Defs
import OtlpClient.Support.Python

/-!
# Support — `int(str)`

Python's reading of an integer: white space around it, a sign, decimal digits of any script with
single underscores between them, and no more than 4300 digits.

* `intOfString_repr`: `int(str(n))` is `n`, for every `n` that `str` writes.
-/

namespace OtlpClient

/-- The digits past which `str(int)` and `int(str)` raise
(`sys.int_info.default_max_str_digits`). -/
def maxStrDigits : Nat := 4300

/-- White space to `int` and `float`. -/
def isSpace (c : Char) : Bool :=
  let n := c.toNat
  (9 ≤ n && n ≤ 13) || (0x2000 ≤ n && n ≤ 0x200a) ||
    [0x20, 0x85, 0xa0, 0x1680, 0x2028, 0x2029, 0x202f, 0x205f, 0x3000].contains n

/-- The zero of each run of ten decimal digits (Unicode 15, category Nd). -/
def decimalZeros : List Nat :=
  [0x30, 0x660, 0x6f0, 0x7c0, 0x966, 0x9e6, 0xa66, 0xae6, 0xb66, 0xbe6, 0xc66, 0xce6, 0xd66, 0xde6,
    0xe50, 0xed0, 0xf20, 0x1040, 0x1090, 0x17e0, 0x1810, 0x1946, 0x19d0, 0x1a80, 0x1a90, 0x1b50,
    0x1bb0, 0x1c40, 0x1c50, 0xa620, 0xa8d0, 0xa900, 0xa9d0, 0xa9f0, 0xaa50, 0xabf0, 0xff10,
    0x104a0, 0x10d30, 0x11066, 0x110f0, 0x11136, 0x111d0, 0x112f0, 0x11450, 0x114d0, 0x11650,
    0x116c0, 0x11730, 0x118e0, 0x11950, 0x11c50, 0x11d50, 0x11da0, 0x11f50, 0x16a60, 0x16ac0,
    0x16b50, 0x1d7ce, 0x1d7d8, 0x1d7e2, 0x1d7ec, 0x1d7f6, 0x1e140, 0x1e2f0, 0x1e4f0, 0x1e950,
    0x1fbf0]

/-- `unicodedata.decimal`. -/
def decimalDigit? (c : Char) : Option Nat :=
  (decimalZeros.find? fun z => z ≤ c.toNat && c.toNat < z + 10).map (c.toNat - ·)

/-- Digits, with at most one underscore between two. -/
def digitRun? : List Char → Option (List Nat)
  | [] => none
  | [c] => (decimalDigit? c).map ([·])
  | c :: '_' :: cs => do return (← decimalDigit? c) :: (← digitRun? cs)
  | c :: cs => do return (← decimalDigit? c) :: (← digitRun? cs)

def stripSpace (cs : List Char) : List Char :=
  ((cs.dropWhile isSpace).reverse.dropWhile isSpace).reverse

/-- `s.strip()`, which takes off four separators more. -/
def strip (s : String) : String :=
  let blank (c : Char) : Bool := isSpace c || (0x1c ≤ c.toNat && c.toNat ≤ 0x1f)
  String.ofList ((s.toList.dropWhile blank).reverse.dropWhile blank).reverse

/-- A sign, and what follows it. -/
def splitSign : List Char → Bool × List Char
  | '-' :: cs => (true, cs)
  | '+' :: cs => (false, cs)
  | cs => (false, cs)

/-- `int(s)`. -/
def intOfString (s : String) : Except PyError Int :=
  let (negative, cs) := splitSign (stripSpace s.toList)
  match digitRun? cs with
  | none => .error (.valueError "invalid literal for int() with base 10")
  | some ds =>
      if ds.length ≤ maxStrDigits then
        let n : Nat := ds.foldl (fun n d => 10 * n + d) 0
        .ok (if negative then -(n : Int) else n)
      else .error (.valueError "Exceeds the limit (4300 digits) for integer string conversion")

/-- `int(s)` raises nothing but `ValueError`. -/
theorem intOfString_error {s : String} {e : PyError} (h : intOfString s = .error e) :
    ∃ message, e = .valueError message := by
  unfold intOfString at h
  dsimp only at h
  split at h
  · cases h
    exact ⟨_, rfl⟩
  · split at h
    · cases h
    · cases h
      exact ⟨_, rfl⟩

/-! ### Reading what `str` writes -/

theorem decimalDigit?_of_isDigit {c : Char} (h : c.isDigit = true) :
    decimalDigit? c = some (c.toNat - '0'.toNat) := by
  have hc : 48 ≤ c.toNat ∧ c.toNat ≤ 57 := by
    simpa [Char.isDigit, UInt32.le_iff_toNat_le] using h
  have hz : (decimalZeros.find? fun z => z ≤ c.toNat && c.toNat < z + 10) = some 0x30 := by
    rw [decimalZeros, List.find?_cons_of_pos]
    simp
    omega
  rw [decimalDigit?, hz]
  rfl

/-- Digits of ASCII are a run of digits. -/
theorem digitRun?_of_isDigit : ∀ {cs : List Char}, cs ≠ [] → (∀ c ∈ cs, c.isDigit = true) →
    digitRun? cs = some (cs.map fun c => c.toNat - '0'.toNat)
  | [c], _, h => by
      rw [digitRun?, decimalDigit?_of_isDigit (h c (by simp))]
      rfl
  | c :: c' :: cs, _, h => by
      have hc' : c' ≠ '_' := by
        rintro rfl
        exact absurd (h '_' (by simp)) (by decide)
      have ih := digitRun?_of_isDigit (List.cons_ne_nil c' cs) fun d hd =>
        h d (List.mem_cons_of_mem _ hd)
      rw [digitRun?, decimalDigit?_of_isDigit (h c (by simp)), ih]
      · rfl
      · nofun
      · intro cs' e
        exact hc' (List.cons.inj e).1

theorem dropWhile_space {cs : List Char} (h : ∀ c ∈ cs, isSpace c = false) :
    cs.dropWhile isSpace = cs := by
  cases cs with
  | nil => rfl
  | cons c cs => rw [List.dropWhile_cons_of_neg (by simp [h c])]

theorem stripSpace_eq {cs : List Char} (h : ∀ c ∈ cs, isSpace c = false) : stripSpace cs = cs := by
  rw [stripSpace, dropWhile_space h, dropWhile_space fun c hc => h c (List.mem_reverse.mp hc),
    List.reverse_reverse]

theorem not_isSpace_of_isDigit {c : Char} (h : c.isDigit = true) : isSpace c = false := by
  have hc : 48 ≤ c.toNat ∧ c.toNat ≤ 57 := by
    simpa [Char.isDigit, UInt32.le_iff_toNat_le] using h
  simp [isSpace]
  omega

/-- The digits of a number, after its sign. -/
theorem intOfString_toDigits {s : String} {n : Nat} {negative : Bool}
    (hs : splitSign (stripSpace s.toList) = (negative, Nat.toDigits 10 n))
    (hn : n < 10 ^ maxStrDigits) :
    intOfString s = .ok (if negative then -(n : Int) else n) := by
  have hd : ∀ c ∈ Nat.toDigits 10 n, c.isDigit = true := fun c hc =>
    Nat.isDigit_of_mem_toDigits (by decide) (by decide) hc
  have hrun := digitRun?_of_isDigit Nat.toDigits_ne_nil hd
  have hlen : (Nat.toDigits 10 n).length ≤ maxStrDigits :=
    (Nat.length_toDigits_le_iff (by decide) (by decide)).mpr hn
  have hval : (Nat.toDigits 10 n).foldl (fun m c => 10 * m + (c.toNat - '0'.toNat)) 0 = n :=
    Nat.ofDigitChars_ten_toDigits
  simp only [intOfString, hs, hrun, List.length_map, if_pos hlen, List.foldl_map, hval]

theorem splitSign_of_isDigit {cs : List Char} (h : ∀ c ∈ cs, c.isDigit = true) :
    splitSign cs = (false, cs) := by
  unfold splitSign
  split
  · exact absurd (h '-' (by simp)) (by decide)
  · exact absurd (h '+' (by simp)) (by decide)
  · rfl

/-- `int(str(n))` is `n`. -/
theorem intOfString_repr {n : Int} (hn : n.natAbs < 10 ^ maxStrDigits) :
    intOfString n.repr = .ok n := by
  have hd : ∀ {m : Nat}, ∀ c ∈ Nat.toDigits 10 m, c.isDigit = true := fun c hc =>
    Nat.isDigit_of_mem_toDigits (by decide) (by decide) hc
  cases n with
  | ofNat n =>
      have h : (Int.ofNat n).repr.toList = Nat.toDigits 10 n := by simp [Int.repr]
      have hs : splitSign (stripSpace (Int.ofNat n).repr.toList) = (false, Nat.toDigits 10 n) := by
        rw [h, stripSpace_eq fun c hc => not_isSpace_of_isDigit (hd c hc), splitSign_of_isDigit hd]
      rw [intOfString_toDigits hs hn]
      rfl
  | negSucc n =>
      have h : (Int.negSucc n).repr.toList = '-' :: Nat.toDigits 10 (n + 1) := by simp [Int.repr]
      have hspace : ∀ c ∈ '-' :: Nat.toDigits 10 (n + 1), isSpace c = false := by
        intro c hc
        rcases List.mem_cons.mp hc with rfl | hc
        · decide
        · exact not_isSpace_of_isDigit (hd c hc)
      have hs : splitSign (stripSpace (Int.negSucc n).repr.toList) =
          (true, Nat.toDigits 10 (n + 1)) := by
        rw [h, stripSpace_eq hspace]
        rfl
      rw [intOfString_toDigits hs hn]
      rfl

end OtlpClient
