/-
Whole numbers as binary64 floats.

Below 2^53 a whole number is its own float: adding, subtracting and comparing the floats is
adding, subtracting and comparing the numbers, as long as the results stay below that bound.
-/

import Mathlib

namespace Dressage.Lib.WholeFloats

open Float.Model Float.Model.UnpackedFloat

def wholeFloat (value : Int) : Float := .ofModel (.ofInt value)

def SmallWhole (value : Int) : Prop := value.natAbs < 2 ^ 53

instance (value : Int) : Decidable (SmallWhole value) := inferInstanceAs (Decidable (_ < _))

/-- How far the leading digit of a number is from the one that a mantissa has. -/
def room (size : Nat) : Nat := 52 - size.log2

section Sizes

variable {size : Nat}

theorem log2_le (small : size < 2 ^ 53) : size.log2 ≤ 52 := by
  by_cases zero : size = 0
  · rw [zero, Nat.log2_zero]
    omega
  · have := (Nat.log2_lt zero).mpr small
    omega

theorem log2_scaled (positive : 0 < size) (digits : Nat) :
    (size * 2 ^ digits).log2 = size.log2 + digits := by
  have low := Nat.log2_self_le (Nat.ne_of_gt positive)
  have high := Nat.lt_log2_self (n := size)
  have power := Nat.two_pow_pos digits
  refine (Nat.log2_eq_iff (Nat.mul_ne_zero (by omega) (by omega))).mpr ⟨?_, ?_⟩
  · rw [Nat.pow_add]
    exact Nat.mul_le_mul_right _ low
  · rw [Nat.add_right_comm, Nat.pow_add]
    exact Nat.mul_lt_mul_of_pos_right high power

theorem mantissa_pos (positive : 0 < size) : 0 < size * 2 ^ room size :=
  Nat.mul_pos positive (Nat.two_pow_pos _)

theorem mantissa_bounds (positive : 0 < size) (small : size < 2 ^ 53) :
    2 ^ 52 ≤ size * 2 ^ room size ∧ size * 2 ^ room size < 2 ^ 53 := by
  have full : size.log2 + room size = 52 := by
    have := log2_le small
    rw [room]
    omega
  rw [← log2_scaled positive] at full
  exact (Nat.log2_eq_iff (Nat.ne_of_gt (mantissa_pos positive))).mp full

end Sizes

def stored (sign : Sign) (size : Nat) (positive : 0 < size) : UnpackedFloat :=
  .finite sign (size * 2 ^ room size) (-(room size : Int)) (mantissa_pos positive)

theorem shiftRight_exact (size digits : Nat) :
    (ExtendedMantissa.mk (size * 2 ^ digits) false false) >>> digits =
      ExtendedMantissa.mk size false false := by
  change Nat.repeat ExtendedMantissa.shiftRightOne digits _ = _
  induction digits generalizing size with
  | zero =>
    rw [Nat.pow_zero, Nat.mul_one]
    rfl
  | succ digits ih =>
    have next := ih (size * 2)
    rw [Nat.mul_assoc, ← Nat.pow_succ'] at next
    rw [Nat.repeat, next]
    simp [ExtendedMantissa.shiftRightOne]

variable {size : Nat}

section

variable (positive : 0 < size)
include positive

section

variable (small : size < 2 ^ 53)
include small

theorem targetExponent_scaled (digits : Nat) :
    Format.binary64.targetExponent (totalExponent (size * 2 ^ digits) (-(digits : Int))) =
      -(room size : Int) := by
  have := log2_le small
  simp only [Format.targetExponent, totalExponent, log2_scaled positive, Format.mantissaBits,
    Format.minExponent, room]
  omega

theorem shiftToTarget_scaled (digits : Nat) :
    shiftToTargetExponent Format.binary64 (size * 2 ^ (room size + digits))
        (-((room size + digits : Nat) : Int)) .exact =
      (ExtendedMantissa.mk (size * 2 ^ room size) false false, -(room size : Int)) := by
  have amount : (-(room size : Int) - -((room size + digits : Nat) : Int)).toNat = digits := by
    omega
  simp only [shiftToTargetExponent, targetExponent_scaled positive small, shiftToExponent, amount,
    ExtendedMantissa.ofMantissaAndAccuracy]
  rw [Nat.pow_add, ← Nat.mul_assoc, shiftRight_exact]
  congr 1
  omega

theorem roundWithAccuracy_scaled (sign : Sign) (digits : Nat) :
    roundWithAccuracy Format.binary64 sign (size * 2 ^ (room size + digits))
      (-((room size + digits : Nat) : Int)) .exact = stored sign size positive := by
  have again := shiftToTarget_scaled positive small 0
  rw [Nat.add_zero] at again
  simp only [roundWithAccuracy, shiftToTarget_scaled positive small, ExtendedMantissa.roundedMantissa,
    ExtendedMantissa.accuracy, Accuracy.roundToNearestEven, again]
  exact dif_neg (Nat.ne_of_gt (mantissa_pos positive))

theorem round_scaled (sign : Sign) (digits : Nat) :
    UnpackedFloat.round Format.binary64 sign (size * 2 ^ digits) (-(digits : Int)) =
      stored sign size positive := by
  simp only [UnpackedFloat.round, targetExponent_scaled positive small, decreaseExponent]
  have amount : (-(digits : Int) - -(room size : Int)).toNat = room size - digits := by omega
  rw [amount, Nat.shiftLeft_eq, Nat.mul_assoc, ← Nat.pow_add]
  have sum : digits + (room size - digits) = room size + (digits - room size) := by omega
  have exponent : -(digits : Int) - ((room size - digits : Nat) : Int) =
    -((room size + (digits - room size) : Nat) : Int) := by omega
  rw [sum, exponent]
  exact roundWithAccuracy_scaled positive small sign _

end

end

def signOf (value : Int) : Sign := if value < 0 then .negative else .positive

theorem signOf_apply (value : Int) : (signOf value).apply value.natAbs = value := by
  rw [signOf]
  split
  · simp only [Sign.apply]
    omega
  · simp only [Sign.apply]
    omega

section Values

variable {value left right : Int}

theorem normalize_scaled (small : SmallWhole value) (nonzero : value ≠ 0) (digits : Nat) :
    UnpackedFloat.normalize Format.binary64 (value * 2 ^ digits) (-(digits : Int)) .positive =
      stored (signOf value) value.natAbs (Int.natAbs_pos.mpr nonzero) := by
  have power : (0 : Int) < 2 ^ digits := Int.pow_pos (by decide)
  have size := round_scaled (Int.natAbs_pos.mpr nonzero) small (signOf value) digits
  rcases Int.lt_or_gt_of_ne nonzero with negative | positive
  · have less : value * 2 ^ digits < 0 := Int.mul_neg_of_neg_of_pos negative power
    have magnitude : (-(value * 2 ^ digits)).toNat = value.natAbs * 2 ^ digits := by
      have : -(value * 2 ^ digits) = ((value.natAbs * 2 ^ digits : Nat) : Int) := by
        push_cast
        rw [Int.abs_eq_natAbs, Int.ofNat_natAbs_of_nonpos (by omega)]
        ring
      rw [this, Int.toNat_natCast]
    rw [UnpackedFloat.normalize, Int.compare_eq_lt.mpr less, ← size, signOf, if_pos negative]
    simp only [magnitude]
  · have more : 0 < value * 2 ^ digits := Int.mul_pos positive power
    have magnitude : (value * 2 ^ digits).toNat = value.natAbs * 2 ^ digits := by
      have : value * 2 ^ digits = ((value.natAbs * 2 ^ digits : Nat) : Int) := by
        push_cast
        rw [Int.abs_eq_natAbs, Int.natAbs_of_nonneg (by omega)]
      rw [this, Int.toNat_natCast]
    rw [UnpackedFloat.normalize, Int.compare_eq_gt.mpr more, ← size, signOf, if_neg (by omega)]
    simp only [magnitude]

theorem ofInt_stored (small : SmallWhole value) (nonzero : value ≠ 0) :
    UnpackedFloat.ofInt Format.binary64 value =
      stored (signOf value) value.natAbs (Int.natAbs_pos.mpr nonzero) := by
  have := normalize_scaled small nonzero 0
  rwa [Int.pow_zero, Int.mul_one] at this

theorem ofInt_zero : UnpackedFloat.ofInt Format.binary64 0 = .zero .positive := rfl

theorem normalize_ofInt (small : SmallWhole value) (digits : Nat) :
    UnpackedFloat.normalize Format.binary64 (value * 2 ^ digits) (-(digits : Int)) .positive =
      UnpackedFloat.ofInt Format.binary64 value := by
  by_cases zero : value = 0
  · rw [zero, Int.zero_mul]
    rfl
  · rw [normalize_scaled small zero, ofInt_stored small zero]

end Values

theorem unpackSign_packComponents {spec : Format} {sign : Sign}
    {exponent : BitVec spec.exponentBits} {mantissa : BitVec spec.mantissaBitsWithoutImplicit} :
    unpackSign (packComponents spec sign exponent mantissa) = sign.toBitVec := by
  ext index bound
  obtain rfl : index = 0 := by omega
  simp [unpackSign, packComponents, BitVec.getLsbD_append, BitVec.getElem_append]

theorem unpack_packComponents (sign : Sign) {exponent : BitVec 11} (mantissa : BitVec 52)
    (notTop : exponent ≠ -1#11) (notBottom : exponent ≠ 0#11)
    (positive : 0 < (1#1 ++ mantissa).toNat) :
    UnpackedFloat.unpack Format.binary64 (packComponents Format.binary64 sign exponent mantissa) =
      .finite sign (1#1 ++ mantissa).toNat ((exponent.toNat : Int) - 1075) positive := by
  have signs : Sign.ofBitVec sign.toBitVec = sign := by cases sign <;> rfl
  unfold UnpackedFloat.unpack
  simp only [unpackExponent_packComponents, unpackMantissa_packComponents,
    unpackSign_packComponents, signs]
  rw [if_neg notTop, if_neg notBottom]
  rfl

theorem toNat_leading {mantissa : Nat} (low : 2 ^ 52 ≤ mantissa) (high : mantissa < 2 ^ 53) :
    (1#1 ++ BitVec.ofNat 52 mantissa).toNat = mantissa := by
  have bound := (BitVec.ofNat 52 mantissa).isLt
  rw [BitVec.toNat_append, ← Nat.shiftLeft_add_eq_or_of_lt bound, BitVec.toNat_ofNat,
    BitVec.toNat_ofNat, Nat.shiftLeft_eq]
  omega

theorem unpack_pack_stored (sign : Sign) (positive : 0 < size) (small : size < 2 ^ 53) :
    (Float.Model.pack (stored sign size positive)).unpack = stored sign size positive := by
  obtain ⟨low, high⟩ := mantissa_bounds positive small
  have spare : room size ≤ 52 := Nat.sub_le _ _
  have leading : (size * 2 ^ room size).log2 = 52 :=
    (Nat.log2_eq_iff (by omega)).mpr ⟨low, high⟩
  have biased : (-(room size : Int) + 1023 + 52).toNat = 1075 - room size := by omega
  have exponent : (BitVec.ofNat 11 (1075 - room size)).toNat = 1075 - room size :=
    Nat.mod_eq_of_lt (by omega)
  have away : ∀ other : BitVec 11, other.toNat ≠ 1075 - room size →
      BitVec.ofNat 11 (1075 - room size) ≠ other := by
    intro other differs same
    rw [← same, exponent] at differs
    exact differs rfl
  have mantissa := toNat_leading low high
  have packed : UnpackedFloat.pack Format.binary64 (stored sign size positive) =
      packComponents Format.binary64 sign (BitVec.ofNat 11 (1075 - room size))
        (BitVec.ofNat 52 (size * 2 ^ room size)) := by
    simp only [stored, UnpackedFloat.pack, leading, Format.exponentBias, Format.mantissaBits]
    norm_num only
    rw [biased, if_neg (by omega), if_pos trivial]
  simp only [Float.Model.unpack, Float.Model.pack]
  rw [packed, unpack_packComponents sign _ (away _ (by rw [BitVec.toNat_neg]; simp; omega))
    (away _ (by simp; omega)) (by omega), exponent, stored]
  congr 1
  omega
section Arithmetic

variable {value left right : Int}

theorem unpack_ofInt (small : SmallWhole value) :
    (Float.Model.ofInt value).unpack = UnpackedFloat.ofInt Format.binary64 value := by
  rw [Float.Model.ofInt]
  by_cases zero : value = 0
  · subst zero
    rfl
  · rw [ofInt_stored small zero]
    exact unpack_pack_stored _ _ small

/-- A mantissa that is shifted to a smaller exponent. -/
theorem apply_decreaseExponent (value : Int) {digits : Nat} (within : room value.natAbs ≤ digits) :
    (signOf value).apply (decreaseExponent (value.natAbs * 2 ^ room value.natAbs)
      (-(room value.natAbs : Int)) (-(digits : Int))).1 = value * 2 ^ digits := by
  have amount : (-(room value.natAbs : Int) - -(digits : Int)).toNat =
    digits - room value.natAbs := by omega
  have whole : room value.natAbs + (digits - room value.natAbs) = digits := by omega
  rw [decreaseExponent, amount, Nat.shiftLeft_eq, Nat.mul_assoc, ← Nat.pow_add, whole]
  rw [signOf]
  push_cast
  split
  · simp only [Sign.apply]
    rw [abs_of_neg ‹_›]
    ring
  · simp only [Sign.apply]
    rw [abs_of_nonneg (not_lt.mp ‹_›)]

theorem min_exponents (first second : Nat) :
    min (-(room first : Int)) (-(room second : Int)) =
      -((max (room first) (room second) : Nat) : Int) := by omega

theorem add_ofInt (leftSmall : SmallWhole left) (rightSmall : SmallWhole right)
    (sumSmall : SmallWhole (left + right)) :
    UnpackedFloat.add Format.binary64 (.ofInt Format.binary64 left) (.ofInt Format.binary64 right) =
      .ofInt Format.binary64 (left + right) := by
  by_cases leftZero : left = 0
  · subst leftZero
    rw [Int.zero_add]
    by_cases rightZero : right = 0
    · subst rightZero
      rfl
    · rw [ofInt_stored rightSmall rightZero]
      rfl
  · by_cases rightZero : right = 0
    · subst rightZero
      rw [Int.add_zero, ofInt_stored leftSmall leftZero]
      rfl
    · rw [ofInt_stored leftSmall leftZero, ofInt_stored rightSmall rightZero]
      simp only [stored, UnpackedFloat.add, min_exponents]
      rw [apply_decreaseExponent left (Nat.le_max_left _ _),
        apply_decreaseExponent right (Nat.le_max_right _ _), ← Int.add_mul,
        normalize_ofInt sumSmall]

theorem sub_ofInt (leftSmall : SmallWhole left) (rightSmall : SmallWhole right)
    (sumSmall : SmallWhole (left - right)) :
    UnpackedFloat.sub Format.binary64 (.ofInt Format.binary64 left) (.ofInt Format.binary64 right) =
      .ofInt Format.binary64 (left - right) := by
  by_cases rightZero : right = 0
  · subst rightZero
    rw [Int.sub_zero]
    by_cases leftZero : left = 0
    · subst leftZero
      rfl
    · rw [ofInt_stored leftSmall leftZero]
      rfl
  · by_cases leftZero : left = 0
    · subst leftZero
      rw [Int.zero_sub] at sumSmall ⊢
      have negated : -right ≠ 0 := by omega
      rw [ofInt_stored rightSmall rightZero, ofInt_stored sumSmall negated, ofInt_zero]
      simp only [stored, UnpackedFloat.sub, Int.natAbs_neg, signOf]
      split
      · rw [if_neg (by omega)]
        rfl
      · rw [if_pos (by omega)]
        rfl
    · rw [ofInt_stored leftSmall leftZero, ofInt_stored rightSmall rightZero]
      simp only [stored, UnpackedFloat.sub, min_exponents]
      rw [apply_decreaseExponent left (Nat.le_max_left _ _),
        apply_decreaseExponent right (Nat.le_max_right _ _), ← Int.sub_mul,
        normalize_ofInt sumSmall]

theorem compare_stored {first second : Nat} (firstPositive : 0 < first) (firstSmall : first < 2 ^ 53)
    (secondPositive : 0 < second) (secondSmall : second < 2 ^ 53) :
    (compare (-(room first : Int)) (-(room second : Int))).then
      (compare (first * 2 ^ room first) (second * 2 ^ room second)) = compare first second := by
  have firstLog := log2_le firstSmall
  have secondLog := log2_le secondSmall
  have further : ∀ {low high : Nat}, 0 < high → low.log2 < high.log2 → low < high := by
    intro low high positive less
    calc low < 2 ^ (low.log2 + 1) := Nat.lt_log2_self
      _ ≤ 2 ^ high.log2 := Nat.pow_le_pow_right (by decide) less
      _ ≤ high := Nat.log2_self_le (Nat.ne_of_gt positive)
  rcases Nat.lt_trichotomy first.log2 second.log2 with less | same | more
  · rw [Int.compare_eq_lt.mpr (by rw [room, room]; omega),
      Nat.compare_eq_lt.mpr (further secondPositive less)]
    rfl
  · have rooms : room first = room second := by rw [room, room, same]
    rw [rooms, Int.compare_eq_eq.mpr rfl]
    have power := Nat.two_pow_pos (room second)
    change compare (first * 2 ^ room second) (second * 2 ^ room second) = _
    rcases Nat.lt_trichotomy first second with less | rfl | more
    · rw [Nat.compare_eq_lt.mpr (Nat.mul_lt_mul_of_pos_right less power),
        Nat.compare_eq_lt.mpr less]
    · rw [Nat.compare_eq_eq.mpr rfl, Nat.compare_eq_eq.mpr rfl]
    · rw [Nat.compare_eq_gt.mpr (Nat.mul_lt_mul_of_pos_right more power),
        Nat.compare_eq_gt.mpr more]
  · rw [Int.compare_eq_gt.mpr (by rw [room, room]; omega),
      Nat.compare_eq_gt.mpr (further firstPositive more)]
    rfl

theorem lt_ofInt (leftSmall : SmallWhole left) (rightSmall : SmallWhole right) :
    (UnpackedFloat.ofInt Format.binary64 left).lt (.ofInt Format.binary64 right) =
      decide (left < right) := by
  by_cases leftZero : left = 0
  · subst leftZero
    by_cases rightZero : right = 0
    · subst rightZero
      rfl
    · rw [ofInt_stored rightSmall rightZero, ofInt_zero, stored, signOf]
      split
      · rw [decide_eq_false (by omega)]
        rfl
      · rw [decide_eq_true (by omega)]
        rfl
  · by_cases rightZero : right = 0
    · subst rightZero
      rw [ofInt_stored leftSmall leftZero, ofInt_zero, stored, signOf]
      split
      · rw [decide_eq_true ‹_›]
        rfl
      · rw [decide_eq_false ‹_›]
        rfl
    · have sizes := compare_stored (Int.natAbs_pos.mpr leftZero) leftSmall
        (Int.natAbs_pos.mpr rightZero) rightSmall
      rw [ofInt_stored leftSmall leftZero, ofInt_stored rightSmall rightZero, stored, stored,
        signOf, signOf]
      split
      next leftNegative =>
        split
        next rightNegative =>
          simp only [UnpackedFloat.lt, UnpackedFloat.compare, sizes]
          rcases Nat.lt_trichotomy left.natAbs right.natAbs with less | same | more
          · rw [Nat.compare_eq_lt.mpr less, decide_eq_false (by omega)]
            rfl
          · rw [Nat.compare_eq_eq.mpr same, decide_eq_false (by omega)]
            rfl
          · rw [Nat.compare_eq_gt.mpr more, decide_eq_true (by omega)]
            rfl
        next rightPositive =>
          rw [decide_eq_true (by omega)]
          rfl
      next leftPositive =>
        split
        next rightNegative =>
          rw [decide_eq_false (by omega)]
          rfl
        next rightPositive =>
          simp only [UnpackedFloat.lt, UnpackedFloat.compare, sizes]
          rcases Nat.lt_trichotomy left.natAbs right.natAbs with less | same | more
          · rw [Nat.compare_eq_lt.mpr less, decide_eq_true (by omega)]
            rfl
          · rw [Nat.compare_eq_eq.mpr same, decide_eq_false (by omega)]
            rfl
          · rw [Nat.compare_eq_gt.mpr more, decide_eq_false (by omega)]
            rfl

section Floats

variable (leftSmall : SmallWhole left) (rightSmall : SmallWhole right)

include leftSmall rightSmall

theorem wholeFloat_add (sumSmall : SmallWhole (left + right)) :
    wholeFloat left + wholeFloat right = wholeFloat (left + right) := by
  change Float.ofModel (Float.Model.pack (UnpackedFloat.add _ (Float.Model.ofInt left).unpack
    (Float.Model.ofInt right).unpack)) = _
  rw [unpack_ofInt leftSmall, unpack_ofInt rightSmall, add_ofInt leftSmall rightSmall sumSmall]
  rfl

theorem wholeFloat_sub (differenceSmall : SmallWhole (left - right)) :
    wholeFloat left - wholeFloat right = wholeFloat (left - right) := by
  change Float.ofModel (Float.Model.pack (UnpackedFloat.sub _ (Float.Model.ofInt left).unpack
    (Float.Model.ofInt right).unpack)) = _
  rw [unpack_ofInt leftSmall, unpack_ofInt rightSmall, sub_ofInt leftSmall rightSmall
    differenceSmall]
  rfl

theorem wholeFloat_lt : wholeFloat left < wholeFloat right ↔ left < right := by
  change decide (Float.Model.ofInt left < Float.Model.ofInt right) = true ↔ _
  rw [decide_eq_true_iff]
  change UnpackedFloat.lt (Float.Model.ofInt left).unpack (Float.Model.ofInt right).unpack = true ↔ _
  rw [unpack_ofInt leftSmall, unpack_ofInt rightSmall, lt_ofInt leftSmall rightSmall,
    decide_eq_true_iff]

example : wholeFloat (2 ^ 53) + wholeFloat 1 = wholeFloat (2 ^ 53) := by decide +kernel

end Floats

end Arithmetic

end Dressage.Lib.WholeFloats
