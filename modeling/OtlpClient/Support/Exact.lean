import Mathlib.Algebra.Order.Floor.Semifield
import Mathlib.Data.Rat.Floor
import OtlpClient.Support.Binary64

/-!
# Support — the value of a double

A finite double is a whole number of units of `2 ^ -1074`, which gives it its exact value; and the
double nearest to a rational number, ties to even.

* `ofRat`: rounding, which never gives a NaN.
* `div`: division by a whole number, which gives a NaN of a NaN only.
* `toRat_le_largest`: no finite double is greater than `largest`.
* `truncate_ofRat`: a whole number of 64 bits is rounded to a whole number, so `int()` of the double
  nearest to it gives it back only where nothing was rounded.
-/

namespace OtlpClient.Binary64

/-- The magnitude of a finite double, in units of `2 ^ -1074`. -/
def units (x : Binary64) : Nat :=
  if x.exponent = 0 then x.fraction else (2 ^ 52 + x.fraction) * 2 ^ (x.exponent - 1)

/-- The exact value of a finite double. -/
def toRat (x : Binary64) : ℚ :=
  if x.negative then -(x.units / (2 ^ 1074 : Nat)) else x.units / (2 ^ 1074 : Nat)

/-- The value of the largest finite double. -/
def largest : ℚ := (2 ^ 1024 - 2 ^ 971 : Nat)

/-- The nearest whole number, the even one of two. -/
def roundEven (u : ℚ) : Nat :=
  let n := ⌊u⌋₊
  if u - n < 1 / 2 ∨ (u - n = 1 / 2 ∧ n % 2 = 0) then n else n + 1

/-- The nearest double: a significand of fifty-three bits, or of fewer below the normal range. -/
def ofRat (q : ℚ) : Binary64 :=
  let u := |q| * (2 ^ 1074 : Nat)
  let shift := Nat.log2 ⌊u⌋₊ - 52
  -- A significand that rounds up to `2 ^ 53` carries into the exponent, and on to infinity.
  let bits := min (shift * 2 ^ 52 + roundEven (u / (2 ^ shift : Nat))) inf.bits.toNat
  if q < 0 then ⟨BitVec.ofNat 64 (2 ^ 63 + bits)⟩ else ⟨BitVec.ofNat 64 bits⟩

example : ofRat (1 / 10) = ⟨0x3fb999999999999a⟩ := by decide +kernel

/-- `x / n` at a positive whole number: what has no quotient but itself stays. -/
def div (x : Binary64) (n : Nat) : Binary64 :=
  if x.IsFinite ∧ x.isZero = false then ofRat (x.toRat / n) else x

example : (ofRat 2500).div 1000 = ofRat (5 / 2) := by decide +kernel

/-- Nothing above infinity in its sign is rounded to. -/
theorem isNaN_ofBits {n : Nat} (h : n ≤ inf.bits.toNat) (m : Nat) (hm : m = n ∨ m = 2 ^ 63 + n) :
    isNaN ⟨BitVec.ofNat 64 m⟩ = false := by
  change n ≤ 0x7ff0000000000000 at h
  have hbits : (BitVec.ofNat 64 m).toNat = m := by
    rw [BitVec.toNat_ofNat]
    exact Nat.mod_eq_of_lt (by omega)
  rw [isNaN, exponent, fraction, hbits, Bool.and_eq_false_iff, beq_eq_false_iff_ne,
    bne_eq_false_iff_eq]
  omega

theorem isNaN_ofRat (q : ℚ) : (ofRat q).isNaN = false := by
  unfold ofRat
  dsimp only
  split
  · exact isNaN_ofBits (min_le_right _ _) _ (Or.inr rfl)
  · exact isNaN_ofBits (min_le_right _ _) _ (Or.inl rfl)

theorem isNaN_div (x : Binary64) (n : Nat) : (x.div n).isNaN = x.isNaN := by
  unfold div
  split
  · rename_i h
    rw [isNaN_ofRat, ((isFinite_iff x).mp h.1).1]
  · rfl

theorem exponent_le (x : Binary64) : x.exponent ≤ 2047 := by
  unfold exponent
  omega

theorem fraction_lt (x : Binary64) : x.fraction < 2 ^ 52 := by
  unfold fraction
  omega

theorem units_le {x : Binary64} (h : x.IsFinite) : x.units ≤ (2 ^ 53 - 1) * 2 ^ 2045 := by
  have he := x.exponent_le
  have hf := x.fraction_lt
  have hfin : x.exponent ≠ 2047 := h
  have hpow : ∀ k, x.exponent - 1 ≤ k → 2 ^ (x.exponent - 1) ≤ 2 ^ k :=
    fun k => Nat.pow_le_pow_right (by decide)
  have hone : ∀ k m : Nat, m ≤ m * 2 ^ k := fun k m => Nat.le_mul_of_pos_right m (Nat.two_pow_pos k)
  unfold units
  split
  · exact le_trans (by omega) (hone 2045 (2 ^ 53 - 1))
  · exact Nat.mul_le_mul (by omega) (hpow 2045 (by omega))

/-- No finite double is greater. -/
theorem toRat_le_largest {x : Binary64} (h : x.IsFinite) : x.toRat ≤ largest := by
  have hpos : ∀ k : Nat, (0 : ℚ) < (2 ^ k : Nat) := fun k => Nat.cast_pos.mpr (Nat.two_pow_pos k)
  have hle : (x.units : ℚ) / (2 ^ 1074 : Nat) ≤ largest := by
    rw [div_le_iff₀ (hpos 1074), largest, ← Nat.cast_mul]
    refine Nat.cast_le.mpr ((units_le h).trans (Nat.le_of_eq ?_))
    decide +kernel
  unfold toRat
  split
  · have hnonneg : (0 : ℚ) ≤ x.units / (2 ^ 1074 : Nat) :=
      div_nonneg (Nat.cast_nonneg _) (hpos 1074).le
    exact (neg_nonpos.mpr hnonneg).trans (hnonneg.trans hle)
  · exact hle

/-! ### Whole numbers -/

/-- `int(x)` leaves out what is less than one. -/
theorem truncate_eq {x : Binary64} :
    x.truncate = if x.negative then -((x.units / 2 ^ 1074 : Nat) : Int)
      else ((x.units / 2 ^ 1074 : Nat) : Int) := by
  have hwhole : (if x.exponent = 0 then 0
      else if 1075 ≤ x.exponent then (2 ^ 52 + x.fraction) * 2 ^ (x.exponent - 1075)
      else (2 ^ 52 + x.fraction) / 2 ^ (1075 - x.exponent)) = x.units / 2 ^ 1074 := by
    have hf := x.fraction_lt
    unfold units
    split
    · have hle : ∀ k, 52 ≤ k → 2 ^ 52 ≤ 2 ^ k := fun k => Nat.pow_le_pow_right Nat.two_pos
      exact (Nat.div_eq_of_lt (hf.trans_le (hle 1074 (by decide)))).symm
    · split
      · rename_i he
        rw [show x.exponent - 1 = x.exponent - 1075 + 1074 by omega, Nat.pow_add, ← Nat.mul_assoc,
          Nat.mul_div_cancel _ (Nat.two_pow_pos 1074)]
      · rename_i hzero he
        rw [show (1074 : Nat) = 1075 - x.exponent + (x.exponent - 1) by omega, Nat.pow_add,
          Nat.mul_div_mul_right _ _ (Nat.two_pow_pos _)]
  unfold truncate
  dsimp only
  rw [hwhole]

/-- A whole number of ones is its whole part. -/
theorem toRat_of_dvd {x : Binary64} (hdvd : 2 ^ 1074 ∣ x.units) : x.toRat = x.truncate := by
  obtain ⟨k, hk⟩ := hdvd
  have hpos : ∀ k : Nat, 0 < 2 ^ k := Nat.two_pow_pos
  rw [toRat, truncate_eq, hk, Nat.mul_div_cancel_left _ (hpos 1074), Nat.cast_mul,
    mul_div_cancel_left₀ _ (Nat.cast_ne_zero.mpr (hpos 1074).ne')]
  split
  · rw [Int.cast_neg, Int.cast_natCast]
  · rw [Int.cast_natCast]

/-- Rounding moves by less than one. -/
theorem roundEven_bounds (u : ℚ) : ⌊u⌋₊ ≤ roundEven u ∧ roundEven u ≤ ⌊u⌋₊ + 1 := by
  unfold roundEven
  dsimp only
  split <;> omega

theorem roundEven_natCast (n : Nat) : roundEven n = n := by
  unfold roundEven
  simp

/-- The double of a significand of fifty-three bits, or of one that carried. -/
theorem units_of_significand {x : Binary64} {shift m : Nat} (hshift : shift < 2000)
    (hm : 2 ^ 52 ≤ m) (hm' : m ≤ 2 ^ 53)
    (hx : x.bits.toNat % 2 ^ 63 = shift * 2 ^ 52 + m) :
    x.IsFinite ∧ x.units = m * 2 ^ shift := by
  have hlt := x.bits.isLt
  by_cases hcarry : m = 2 ^ 53
  · have he : x.exponent = shift + 2 := by
      unfold exponent
      omega
    have hf : x.fraction = 0 := by
      unfold fraction
      omega
    refine ⟨by unfold IsFinite; omega, ?_⟩
    rw [units, he, hf, if_neg (by omega), hcarry, show shift + 2 - 1 = 1 + shift by omega,
      Nat.pow_add]
    omega
  · have he : x.exponent = shift + 1 := by
      unfold exponent
      omega
    have hf : 2 ^ 52 + x.fraction = m := by
      unfold fraction
      omega
    refine ⟨by unfold IsFinite; omega, ?_⟩
    rw [units, he, hf, if_neg (by omega), Nat.add_sub_cancel]

/-- A number of `k` units, where these take fifty-three bits or more, is rounded to a multiple of
`2 ^ shift` of them. -/
theorem ofRat_units {q : ℚ} {k shift : Nat} (hk : k ≠ 0) (hq : |q| * (2 ^ 1074 : Nat) = (k : ℚ))
    (hlog : Nat.log2 k = 52 + shift) (hshift : shift < 2000) :
    (ofRat q).IsFinite ∧
      (ofRat q).units = roundEven ((k : ℚ) / (2 ^ shift : Nat)) * 2 ^ shift := by
  -- The significand lies in `[2 ^ 52, 2 ^ 53)` before it is rounded.
  have hfloor : ⌊(k : ℚ) / (2 ^ shift : Nat)⌋₊ = k / 2 ^ shift := Nat.floor_div_eq_div _ _
  have hge : 2 ^ 52 ≤ k / 2 ^ shift := by
    rw [Nat.le_div_iff_mul_le (Nat.two_pow_pos _), ← Nat.pow_add, ← hlog]
    exact Nat.log2_self_le hk
  have hlt : k / 2 ^ shift < 2 ^ 53 := by
    rw [Nat.div_lt_iff_lt_mul (Nat.two_pow_pos _), ← Nat.pow_add,
      show 53 + shift = 52 + shift + 1 by omega, ← hlog]
    exact Nat.lt_log2_self
  have hbounds := roundEven_bounds ((k : ℚ) / (2 ^ shift : Nat))
  rw [hfloor] at hbounds
  obtain ⟨hm, hm'⟩ := hbounds
  refine units_of_significand hshift (hge.trans hm) (hm'.trans hlt) ?_
  have hinf : inf.bits.toNat = 2047 * 2 ^ 52 := rfl
  have hcap : shift * 2 ^ 52 + roundEven ((k : ℚ) / (2 ^ shift : Nat)) ≤ inf.bits.toNat := by omega
  unfold ofRat
  dsimp only
  rw [hq, Nat.floor_natCast, hlog, Nat.add_sub_cancel_left, min_eq_left hcap]
  split
  · rw [BitVec.toNat_ofNat]
    omega
  · rw [BitVec.toNat_ofNat]
    omega

theorem log2_mul_two_pow {n : Nat} (hn : n ≠ 0) (k : Nat) :
    Nat.log2 (n * 2 ^ k) = Nat.log2 n + k := by
  have hpos : 0 < 2 ^ k := Nat.two_pow_pos k
  rw [Nat.log2_eq_iff (Nat.mul_ne_zero hn hpos.ne'), Nat.add_right_comm, Nat.pow_add, Nat.pow_add]
  exact ⟨Nat.mul_le_mul_right _ (Nat.log2_self_le hn),
    Nat.mul_lt_mul_of_pos_right Nat.lt_log2_self hpos⟩

/-- A whole number of 64 bits is rounded to a whole number. -/
theorem ofRat_intCast {n : Int} (h : n.natAbs < 2 ^ 64) :
    (ofRat n).IsFinite ∧ 2 ^ 1074 ∣ (ofRat n).units := by
  by_cases hn : n = 0
  · subst hn
    decide +kernel
  have habs : n.natAbs ≠ 0 := Int.natAbs_ne_zero.mpr hn
  have hone : ∀ k : Nat, 2 ^ k ≠ 0 := fun k => (Nat.two_pow_pos k).ne'
  have hunits : |(n : ℚ)| * (2 ^ 1074 : Nat) = (n.natAbs * 2 ^ 1074 : Nat) := by
    rw [Nat.cast_mul, Nat.cast_natAbs, Int.cast_abs]
  have hbits : Nat.log2 n.natAbs < 64 := (Nat.log2_lt habs).mpr h
  obtain ⟨shift, hshift⟩ : ∃ shift, shift = Nat.log2 n.natAbs + 1022 := ⟨_, rfl⟩
  obtain ⟨hfinite, hvalue⟩ := ofRat_units (Nat.mul_ne_zero habs (hone 1074)) hunits
    (show Nat.log2 (n.natAbs * 2 ^ 1074) = 52 + shift by rw [log2_mul_two_pow habs]; omega)
    (by omega)
  refine ⟨hfinite, ?_⟩
  rw [hvalue]
  by_cases hwhole : 1074 ≤ shift
  · have hdvd : ∀ k, k ≤ shift → 2 ^ k ∣ 2 ^ shift := fun k => Nat.pow_dvd_pow 2
    exact Dvd.dvd.mul_left (hdvd 1074 hwhole) _
  · -- Fewer than fifty-three bits: nothing is rounded.
    have hquot : n.natAbs * 2 ^ 1074 = n.natAbs * 2 ^ (1074 - shift) * 2 ^ shift := by
      rw [Nat.mul_assoc, ← Nat.pow_add, Nat.sub_add_cancel (Nat.le_of_not_le hwhole)]
    have hcast : ((n.natAbs * 2 ^ 1074 : Nat) : ℚ) / (2 ^ shift : Nat) =
        (n.natAbs * 2 ^ (1074 - shift) : Nat) := by
      rw [hquot, Nat.cast_mul _ (2 ^ shift)]
      exact mul_div_cancel_right₀ _ (Nat.cast_ne_zero.mpr (hone shift))
    rw [hcast, roundEven_natCast, ← hquot]
    exact Nat.dvd_mul_left _ _

/-- `int()` of the double nearest to a whole number is that number exactly when the double is. -/
theorem truncate_ofRat {n : Int} (h : n.natAbs < 2 ^ 64) :
    (ofRat n).truncate = n ↔ (ofRat n).toRat = n := by
  rw [toRat_of_dvd (ofRat_intCast h).2]
  exact Int.cast_inj.symm

end OtlpClient.Binary64
