import Mathlib.Algebra.GroupWithZero.Nat
import Mathlib.Algebra.Ring.Int.Defs
import Mathlib.Tactic.Common

/-!
# Support — binary64

A Python `float` by its bit pattern.  Two patterns are told apart wherever their bits differ,
so `-0.0` is not `+0.0` and a NaN is equal to itself; the comparisons Python makes on floats are
`Binary64.lt`, `Binary64.le` and `Binary64.isZero`, which go by value.

* `ne_posZero_iff`: a float is truthy or negative exactly when it is not the pattern `+0.0`.
* `max_zero`: `max(0.0, x)` is at least zero and is never a NaN, whatever `x` is.
-/

namespace OtlpClient

/-- An IEEE 754 binary64 number, by its bits: sign, eleven of exponent, fifty-two of fraction. -/
structure Binary64 where
  bits : BitVec 64
  deriving DecidableEq, Repr

namespace Binary64

/-- The sign bit, `math.copysign(1.0, x) < 0`. -/
def negative (x : Binary64) : Bool := x.bits.msb

/-- The biased exponent. -/
def exponent (x : Binary64) : Nat := x.bits.toNat / 2 ^ 52 % 2 ^ 11

/-- The fraction. -/
def fraction (x : Binary64) : Nat := x.bits.toNat % 2 ^ 52

/-- Neither infinite nor a NaN. -/
def IsFinite (x : Binary64) : Prop := x.exponent ≠ 2047

instance (x : Binary64) : Decidable x.IsFinite := inferInstanceAs (Decidable (_ ≠ _))

def isNaN (x : Binary64) : Bool := x.exponent == 2047 && x.fraction != 0

/-- `+inf` or `-inf`. -/
def isInf (x : Binary64) : Bool := x.exponent == 2047 && x.fraction == 0

/-- `+0.0` or `-0.0`: what is falsy in Python. -/
def isZero (x : Binary64) : Bool := x.exponent == 0 && x.fraction == 0

/-- `+0.0`, the pattern protobuf leaves out of an implicit-presence field. -/
def posZero : Binary64 := ⟨0⟩

def negZero : Binary64 := ⟨0x8000000000000000⟩

def inf : Binary64 := ⟨0x7ff0000000000000⟩

def negInf : Binary64 := ⟨0xfff0000000000000⟩

/-- The quiet NaN Python's `float("nan")` gives. -/
def nan : Binary64 := ⟨0x7ff8000000000000⟩

/-- `1.0`. -/
def one : Binary64 := ⟨0x3ff0000000000000⟩

instance : Inhabited Binary64 := ⟨posZero⟩

/-- The rank of a number among the numbers of its sign; both zeros have rank `0`. -/
def rank (x : Binary64) : Int :=
  if x.negative then -(x.bits.toNat % 2 ^ 63 : Nat) else (x.bits.toNat % 2 ^ 63 : Nat)

/-- `x < y` on floats: false when either is a NaN. -/
def lt (x y : Binary64) : Bool := !x.isNaN && !y.isNaN && decide (x.rank < y.rank)

/-- `x <= y` on floats: false when either is a NaN. -/
def le (x y : Binary64) : Bool := !x.isNaN && !y.isNaN && decide (x.rank ≤ y.rank)

/-- Python's `max(x, y)` on two floats: the first, unless the second is greater. -/
def max (x y : Binary64) : Binary64 := if x.lt y then y else x

/-- `int(x)` of a finite `x`: rounded toward zero. -/
def truncate (x : Binary64) : Int :=
  let m := 2 ^ 52 + x.fraction
  let a : Nat := if x.exponent = 0 then 0
    else if 1075 ≤ x.exponent then m * 2 ^ (x.exponent - 1075) else m / 2 ^ (1075 - x.exponent)
  if x.negative then -(a : Int) else a

theorem isFinite_iff (x : Binary64) : x.IsFinite ↔ x.isNaN = false ∧ x.isInf = false := by
  unfold IsFinite isNaN isInf
  by_cases h : x.fraction = 0 <;> simp [h]

/-- The test both optional-double encodings make, `x or copysign(1.0, x) < 0`, is the bit
pattern test. -/
theorem ne_posZero_iff (x : Binary64) : (!x.isZero || x.negative) = true ↔ x ≠ posZero := by
  have hlt := x.bits.isLt
  have hneg : x.negative = true ↔ 2 ^ 63 ≤ x.bits.toNat := by
    simp [negative, BitVec.msb_eq_decide]
  have hz : x = posZero ↔ x.bits.toNat = 0 := by
    constructor
    · rintro rfl; rfl
    · intro h
      obtain ⟨b⟩ := x
      exact congrArg Binary64.mk (BitVec.eq_of_toNat_eq (by simpa using h))
  rw [Ne, hz, Bool.or_eq_true, hneg, Bool.not_eq_true', ← Bool.not_eq_true]
  simp only [isZero, exponent, fraction, Bool.and_eq_true, beq_iff_eq]
  omega

@[simp] theorem isNaN_posZero : posZero.isNaN = false := by decide

/-- Of two floats that are not NaNs, the one that is not at most the other is greater. -/
theorem lt_iff_not_le {x y : Binary64} (hx : x.isNaN = false) :
    x.lt y = true ↔ y.le x = false ∧ y.isNaN = false := by
  rw [lt, le, hx]
  cases y.isNaN <;> simp

/-- `max(0.0, x)` is no NaN and not below zero. -/
theorem max_zero (x : Binary64) :
    (max posZero x).isNaN = false ∧ (max posZero x).lt posZero = false := by
  unfold max
  split
  · rename_i h
    simp only [lt, Bool.and_eq_true, Bool.not_eq_true', decide_eq_true_eq] at h
    refine ⟨h.1.2, ?_⟩
    simp only [lt, Bool.and_eq_false_iff, decide_eq_false_iff_not]
    exact Or.inr (by omega)
  · exact ⟨rfl, by decide⟩

end Binary64

end OtlpClient
