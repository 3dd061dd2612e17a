import Mathlib
import RailsNavigator.Settings

/-!
# Integers as doubles

A positive integer is rounded to the nearest double: all but its first 53 binary digits are dropped,
and what is left is rounded by the dropped ones, ties to even. The double is positive, and it is
finite exactly if the integer lies below the middle between the greatest finite double,
`2 ^ 1024 - 2 ^ 971`, and the power of two behind it.
-/

namespace RailsNavigator.Double

open Float.Model Float.Model.UnpackedFloat

section Digits

theorem log2_mul_two_pow {value : Nat} (positive : 0 < value) (count : Nat) :
    (value * 2 ^ count).log2 = value.log2 + count := by
  have nonzero : value ≠ 0 := by omega
  rw [Nat.log2_eq_iff (Nat.mul_ne_zero nonzero (Nat.ne_of_gt (Nat.two_pow_pos count)))]
  constructor
  · rw [Nat.pow_add]
    exact Nat.mul_le_mul_right _ (Nat.log2_self_le nonzero)
  · rw [Nat.add_right_comm, Nat.pow_add]
    exact Nat.mul_lt_mul_of_pos_right Nat.lt_log2_self (Nat.two_pow_pos count)

theorem mantissa_shiftRight (extended : ExtendedMantissa) (count : Nat) :
    (extended >>> count).mantissa = extended.mantissa / 2 ^ count := by
  induction count with
  | zero => exact (Nat.div_one _).symm
  | succ count hypothesis =>
      change (extended >>> count).mantissa / 2 = _
      rw [hypothesis, Nat.div_div_eq_div_mul, Nat.pow_succ]

/-- The bit that decides on rounding is the last one dropped. -/
theorem roundBit_shiftRight_succ (extended : ExtendedMantissa) (count : Nat) :
    (extended >>> (count + 1)).roundBit = (extended.mantissa / 2 ^ count % 2 != 0) := by
  change ((extended >>> count).mantissa % 2 != 0) = _
  rw [mantissa_shiftRight]

theorem le_roundedMantissa (extended : ExtendedMantissa) :
    extended.mantissa ≤ extended.roundedMantissa := by
  rcases extended with ⟨mantissa, _ | _, _ | _⟩ <;>
    simp [ExtendedMantissa.roundedMantissa, ExtendedMantissa.accuracy, Accuracy.roundToNearestEven]

theorem roundedMantissa_le (extended : ExtendedMantissa) :
    extended.roundedMantissa ≤ extended.mantissa + 1 := by
  rcases extended with ⟨mantissa, _ | _, _ | _⟩ <;>
    simp [ExtendedMantissa.roundedMantissa, ExtendedMantissa.accuracy, Accuracy.roundToNearestEven]
  omega

theorem roundedMantissa_of_odd (extended : ExtendedMantissa) (odd : extended.mantissa % 2 = 1) :
    extended.roundedMantissa = extended.mantissa + extended.roundBit.toNat := by
  rcases extended with ⟨mantissa, _ | _, _ | _⟩ <;>
    simp_all [ExtendedMantissa.roundedMantissa, ExtendedMantissa.accuracy,
      Accuracy.roundToNearestEven]

end Digits

section Rounding

/-- A mantissa has as many digits as a double has. -/
def IsFull (mantissa : Nat) : Prop :=
  2 ^ 52 ≤ mantissa ∧ mantissa < 2 ^ 53

theorem IsFull.pos {mantissa : Nat} (full : IsFull mantissa) : 0 < mantissa :=
  Nat.lt_of_lt_of_le (Nat.two_pow_pos 52) full.1

theorem IsFull.log2_eq {mantissa : Nat} (full : IsFull mantissa) : mantissa.log2 = 52 := by
  rw [Nat.log2_eq_iff (Nat.ne_of_gt full.pos)]
  exact full

/-- The first 53 digits of a mantissa, with what rounding needs to know of the other ones. -/
def leading (mantissa : Nat) : ExtendedMantissa :=
  ExtendedMantissa.mk mantissa false false >>> (mantissa.log2 - 52)

theorem mantissa_leading (mantissa : Nat) :
    (leading mantissa).mantissa = mantissa / 2 ^ (mantissa.log2 - 52) :=
  mantissa_shiftRight _ _

theorem isFull_leading {mantissa : Nat} (large : 52 ≤ mantissa.log2) :
    IsFull (leading mantissa).mantissa := by
  have nonzero : mantissa ≠ 0 := by
    rintro rfl
    simp at large
  rw [mantissa_leading]
  constructor
  · rw [Nat.le_div_iff_mul_le (Nat.two_pow_pos _), ← Nat.pow_add, Nat.add_sub_cancel' large]
    exact Nat.log2_self_le nonzero
  · rw [Nat.div_lt_iff_lt_mul (Nat.two_pow_pos _), ← Nat.pow_add,
      show 53 + (mantissa.log2 - 52) = mantissa.log2 + 1 by omega]
    exact Nat.lt_log2_self

theorem leading_of_isFull {mantissa : Nat} (full : IsFull mantissa) :
    leading mantissa = .mk mantissa false false := by
  rw [leading, full.log2_eq]
  rfl

theorem isFull_roundedMantissa_or {mantissa : Nat} (large : 52 ≤ mantissa.log2) :
    IsFull (leading mantissa).roundedMantissa ∨ (leading mantissa).roundedMantissa = 2 ^ 53 := by
  have full := isFull_leading large
  have least := le_roundedMantissa (leading mantissa)
  have most := roundedMantissa_le (leading mantissa)
  unfold IsFull at *
  omega

theorem targetExponent_eq {mantissa : Nat} {exponent : Int}
    (notTiny : -1074 ≤ exponent + mantissa.log2 - 52) :
    Format.binary64.targetExponent (totalExponent mantissa exponent)
      = exponent + mantissa.log2 - 52 := by
  simp only [Format.targetExponent, totalExponent, Format.mantissaBits, Format.minExponent]
  omega

theorem shiftToTargetExponent_eq (mantissa : Nat) (exponent : Int)
    (notTiny : -1074 ≤ exponent + mantissa.log2 - 52) :
    shiftToTargetExponent Format.binary64 mantissa exponent .exact
      = (leading mantissa, exponent + (mantissa.log2 - 52 : Nat)) := by
  have amount : (exponent + mantissa.log2 - 52 - exponent).toNat = mantissa.log2 - 52 := by omega
  simp only [shiftToTargetExponent, shiftToExponent, targetExponent_eq notTiny, amount]
  rfl

/-- How far the exponent grows if a number is rounded to 53 digits: by the digits that are dropped,
and by one more if all others carry. -/
def growth (mantissa : Nat) : Nat :=
  mantissa.log2 - 52 + if (leading mantissa).roundedMantissa = 2 ^ 53 then 1 else 0

theorem roundWithAccuracy_eq (mantissa : Nat) (exponent : Int) (large : 52 ≤ mantissa.log2)
    (notTiny : -1074 ≤ exponent + mantissa.log2 - 52) :
    ∃ full positive, IsFull full ∧
      roundWithAccuracy Format.binary64 .positive mantissa exponent .exact
        = .finite .positive full (exponent + growth mantissa) positive := by
  have first := shiftToTargetExponent_eq mantissa exponent notTiny
  unfold roundWithAccuracy
  simp only [first]
  -- If all digits carry, then the second shift drops a zero.
  rcases isFull_roundedMantissa_or large with full | carries
  · have second := shiftToTargetExponent_eq (leading mantissa).roundedMantissa
      (exponent + (mantissa.log2 - 52 : Nat)) (by rw [full.log2_eq]; omega)
    have nonzero : (leading mantissa).roundedMantissa ≠ 0 := Nat.ne_of_gt full.pos
    have noCarry : (leading mantissa).roundedMantissa ≠ 2 ^ 53 := Nat.ne_of_lt full.2
    simp only [second, leading_of_isFull full, full.log2_eq, nonzero, dite_false]
    refine ⟨_, full.pos, full, ?_⟩
    congr 1
    rw [growth, if_neg noCarry]
    omega
  · have second := shiftToTargetExponent_eq (2 ^ 53) (exponent + (mantissa.log2 - 52 : Nat))
      (by rw [Nat.log2_two_pow]; omega)
    have halved : (leading (2 ^ 53)).mantissa = 2 ^ 52 := calc
      (leading (2 ^ 53)).mantissa = 2 ^ 53 / 2 ^ (53 - 52) := by
        rw [mantissa_leading, Nat.log2_two_pow]
      _ = 2 ^ 52 := by decide
    simp only [carries, second, halved, Nat.log2_two_pow]
    refine ⟨2 ^ 52, by decide, ⟨Nat.le_refl _, by decide⟩, ?_⟩
    rw [dif_neg (by decide)]
    congr 1
    rw [growth, if_pos carries]
    omega

end Rounding

section Packing

theorem toNat_one_append {mantissa : Nat} (full : IsFull mantissa) :
    (1#1 ++ BitVec.ofNat 52 mantissa).toNat = mantissa := by
  rcases full with ⟨least, most⟩
  have low : mantissa % 2 ^ 52 = mantissa - 2 ^ 52 := by omega
  have small : mantissa - 2 ^ 52 < 2 ^ 52 := by omega
  rw [BitVec.toNat_append, BitVec.toNat_ofNat, BitVec.toNat_ofNat, low,
    ← Nat.shiftLeft_add_eq_or_of_lt small]
  omega

/-- A double with an exponent that is neither the least nor the greatest is read as it is. -/
theorem unpack_normal {mantissa biased : Nat} (full : IsFull mantissa) (least : 1 ≤ biased)
    (most : biased < 2047) (positive : 0 < mantissa) :
    UnpackedFloat.unpack Format.binary64 (packComponents Format.binary64 .positive
      (BitVec.ofNat 11 biased) (BitVec.ofNat 52 mantissa))
      = .finite .positive mantissa (biased - 1075) positive := by
  have value : (BitVec.ofNat 11 biased).toNat = biased := by
    rw [BitVec.toNat_ofNat]
    omega
  have notGreatest : BitVec.ofNat 11 biased ≠ -1#11 := by
    rw [ne_eq, ← BitVec.toNat_inj, value]
    change biased ≠ 2047
    omega
  have notLeast : BitVec.ofNat 11 biased ≠ 0#11 := by
    rw [ne_eq, ← BitVec.toNat_inj, value]
    change biased ≠ 0
    omega
  simp only [UnpackedFloat.unpack, unpackMantissa_packComponents, unpackExponent_packComponents,
    unpackSign_packComponents, Sign.ofBitVec_toBitVec, notGreatest, notLeast, if_false, value,
    toNat_one_append full]
  rfl

theorem unpack_pack {mantissa : Nat} {exponent : Int} {positive : 0 < mantissa}
    (full : IsFull mantissa) (notTiny : -1074 ≤ exponent) :
    (Float.Model.pack (.finite .positive mantissa exponent positive)).unpack
      = if 972 ≤ exponent then .infinity .positive
        else .finite .positive mantissa exponent positive := by
  have biased : (exponent + Format.binary64.exponentBias
      + Format.binary64.mantissaBitsWithoutImplicit).toNat = (exponent + 1075).toNat := by
    rw [Int.add_assoc]
    rfl
  have digits : mantissa.log2 + 1 = Format.binary64.mantissaBits := by
    rw [full.log2_eq]
    rfl
  change UnpackedFloat.unpack Format.binary64 (UnpackedFloat.pack Format.binary64 _) = _
  simp only [UnpackedFloat.pack, biased, digits, if_true]
  split
  · next overflows =>
      have large : 972 ≤ exponent := by
        change 2048 ≤ _ at overflows
        omega
      rw [if_pos large]
      rfl
  · next fits =>
      have least : 1 ≤ (exponent + 1075).toNat := by omega
      have most : (exponent + 1075).toNat < 2047 := by
        change ¬2048 ≤ _ at fits
        omega
      rw [if_neg (by omega), unpack_normal full least most positive]
      congr 1
      omega

end Packing

section Integers

theorem growth_le (mantissa : Nat) : growth mantissa ≤ mantissa.log2 - 52 + 1 := by
  unfold growth
  split <;> omega

/-- All of 53 digits carry if the number reaches the middle between the greatest one with so many
digits and the power of two behind it. -/
theorem carries_iff (mantissa : Nat) (large : 53 ≤ mantissa.log2) :
    (leading mantissa).roundedMantissa = 2 ^ 53
      ↔ (2 ^ 54 - 1) * 2 ^ (mantissa.log2 - 53) ≤ mantissa := by
  have dropped : mantissa.log2 - 52 = mantissa.log2 - 53 + 1 := by omega
  have full : IsFull (leading mantissa).mantissa := isFull_leading (by omega)
  have halved : (leading mantissa).mantissa = mantissa / 2 ^ (mantissa.log2 - 53) / 2 := by
    rw [mantissa_leading, dropped, Nat.pow_succ, Nat.div_div_eq_div_mul]
  have bit : (leading mantissa).roundBit.toNat = mantissa / 2 ^ (mantissa.log2 - 53) % 2 := by
    rw [leading, dropped, roundBit_shiftRight_succ]
    rcases Nat.mod_two_eq_zero_or_one (mantissa / 2 ^ (mantissa.log2 - 53)) with even | odd
    · simp [even]
    · simp [odd]
  rw [← Nat.le_div_iff_mul_le (Nat.two_pow_pos _)]
  -- Only the greatest mantissa can carry, and it is odd.
  by_cases greatest : (leading mantissa).mantissa = 2 ^ 53 - 1
  · have rounded := roundedMantissa_of_odd (leading mantissa) (by omega)
    omega
  · have most := roundedMantissa_le (leading mantissa)
    unfold IsFull at full
    omega

/-- A power of two is reached exactly from the middle on that lies before it. -/
theorem le_growth_iff {value : Nat} (positive : 0 < value) (power : Nat) :
    power + 55 ≤ growth (value * 2 ^ 53) ↔ (2 ^ 54 - 1) * 2 ^ power ≤ value := by
  have length := log2_mul_two_pow positive 53
  rcases Nat.lt_trichotomy value.log2 (power + 53) with less | same | more
  · have small := (Nat.log2_lt (by omega)).mp less
    rw [Nat.pow_add] at small
    have most := growth_le (value * 2 ^ 53)
    omega
  · have carries := carries_iff (value * 2 ^ 53) (by omega)
    rw [length, Nat.add_sub_cancel, same, Nat.pow_add, ← Nat.mul_assoc,
      Nat.mul_le_mul_right_iff (Nat.two_pow_pos _)] at carries
    rw [growth, length, same, ← carries]
    split <;> omega
  · have large := Nat.log2_self_le (n := value) (by omega)
    have least : 2 ^ (power + 54) ≤ 2 ^ value.log2 := Nat.pow_le_pow_right (by decide) more
    rw [Nat.pow_add] at least
    rw [growth, length]
    omega

/-- The middle between the greatest finite double and the power of two behind it. -/
def limit : Nat :=
  (2 ^ 54 - 1) * 2 ^ 970

theorem two_pow_le_limit : 2 ^ 53 ≤ limit := by
  have general (power : Nat) : 2 ^ 53 ≤ (2 ^ 54 - 1) * 2 ^ power := by
    have positive := Nat.two_pow_pos power
    omega
  exact general 970

theorem toModel_mul {first second : Float} {mantissa factor : Nat} {exponent power : Int}
    {positive : 0 < mantissa} {factorPositive : 0 < factor}
    (isFirst : first.toModel.unpack = .finite .positive mantissa exponent positive)
    (isSecond : second.toModel.unpack = .finite .positive factor power factorPositive) :
    (first * second).toModel = Float.Model.pack (roundWithAccuracy Format.binary64 .positive
      (mantissa * factor) (exponent + power) .exact) := by
  change Float.Model.pack (UnpackedFloat.mul Format.binary64 _ _) = _
  rw [isFirst, isSecond]
  rfl

/-- An integer of 53 digits at most is a finite double, and its exponent is small. -/
theorem unpack_toFloat {value : Nat} (positive : 0 < value) (short : value < 2 ^ 53) :
    ∃ full exponent fullPositive, IsFull full ∧ -52 ≤ exponent ∧ exponent ≤ 1 ∧
      value.toUInt64.toFloat.toModel.unpack = .finite .positive full exponent fullPositive := by
  have digits : value.log2 < 53 := (Nat.log2_lt (by omega)).mpr short
  have same : value.toUInt64.toNat = value := UInt64.toNat_ofNat_of_lt'
    (Nat.lt_trans short (by decide))
  have target : Format.binary64.targetExponent (totalExponent value 0) = 0 + value.log2 - 52 :=
    targetExponent_eq (by omega)
  have amount : (0 - (0 + (value.log2 : Int) - 52)).toNat = 52 - value.log2 := by omega
  have length := log2_mul_two_pow positive (52 - value.log2)
  have isRounded : UnpackedFloat.ofUInt64 Format.binary64 value.toUInt64
      = roundWithAccuracy Format.binary64 .positive (value * 2 ^ (52 - value.log2))
        (0 - (52 - value.log2 : Nat)) .exact := by
    have isPositive : compare (value : Int) 0 = .gt := by
      rw [Int.compare_eq_gt]
      omega
    simp only [UnpackedFloat.ofUInt64, UnpackedFloat.ofNat, UnpackedFloat.ofInt,
      UnpackedFloat.normalize, same, isPositive, Int.toNat_natCast, UnpackedFloat.round, target,
      decreaseExponent, amount, Nat.shiftLeft_eq]
  have most := growth_le (value * 2 ^ (52 - value.log2))
  rcases roundWithAccuracy_eq (value * 2 ^ (52 - value.log2)) (0 - (52 - value.log2 : Nat))
    (by omega) (by omega) with ⟨full, fullPositive, isFull, rounds⟩
  have reads : value.toUInt64.toFloat.toModel.unpack = _ :=
    congrArg (fun unpacked => (Float.Model.pack unpacked).unpack) (isRounded.trans rounds)
  rw [unpack_pack isFull (by omega), if_neg (by omega)] at reads
  exact ⟨full, _, fullPositive, isFull, by omega, by omega, reads⟩

theorem ofNat_of_lt {value : Nat} (short : value < 2 ^ 53) :
    Float.ofNat value = value.toUInt64.toFloat * Float.ofBits 0x3FF0000000000000 := by
  change Float.ofScientific value false 0 = _
  unfold Float.ofScientific
  -- The factor is one, the power of ten with exponent zero.
  rw [dif_pos ⟨short, by decide⟩]
  rfl

theorem toModel_ofNat_of_le {value : Nat} (long : 2 ^ 53 ≤ value) :
    (Float.ofNat value).toModel = Float.Model.pack
      (roundWithAccuracy Format.binary64 .positive (value * 2 ^ 53) (-53) .exact) := by
  change (Float.ofScientific value false 0).toModel = _
  unfold Float.ofScientific
  rw [dif_neg (by omega)]
  change Float.Model.pack (UnpackedFloat.ofScientific Format.binary64 value 0) = _
  have notSmall : ¬(0 : Int) < -((2 ^ 11 : Int) + value.log2) := by omega
  rw [UnpackedFloat.ofScientific, dif_neg (by omega), if_neg (by decide), if_neg notSmall,
    if_pos (Int.le_refl 0), UnpackedFloat.mul]
  simp only [Int.toNat_zero, Nat.pow_zero, Nat.mul_one, Nat.shiftLeft_eq, Int.add_zero]
  congr 1

theorem unpack_ofNat {value : Nat} (positive : 0 < value) :
    (Float.ofNat value).toModel.unpack = .infinity .positive ∧ limit ≤ value ∨
      (∃ full exponent fullPositive,
        (Float.ofNat value).toModel.unpack = .finite .positive full exponent fullPositive) ∧
        value < limit := by
  by_cases short : value < 2 ^ 53
  case pos =>
    have below : value < limit := Nat.lt_of_lt_of_le short two_pow_le_limit
    have one : (Float.ofBits 0x3FF0000000000000).toModel.unpack
        = .finite .positive (2 ^ 52) (-52) (by decide) := rfl
    rcases unpack_toFloat positive short with
      ⟨factor, power, factorPositive, factorFull, least, most, reads⟩
    have length := log2_mul_two_pow factorPositive 52
    rw [factorFull.log2_eq] at length
    have grows := growth_le (factor * 2 ^ 52)
    rcases roundWithAccuracy_eq (factor * 2 ^ 52) (power + -52) (by omega) (by omega) with
      ⟨full, fullPositive, isFull, rounds⟩
    rw [ofNat_of_lt short, toModel_mul reads one, rounds, unpack_pack isFull (by omega),
      if_neg (by omega)]
    exact .inr ⟨⟨full, _, fullPositive, rfl⟩, below⟩
  case neg =>
    have length := log2_mul_two_pow positive 53
    have overflows : 970 + 55 ≤ growth (value * 2 ^ 53) ↔ limit ≤ value := by
      unfold limit
      exact le_growth_iff positive 970
    rcases roundWithAccuracy_eq (value * 2 ^ 53) (-53) (by omega) (by omega) with
      ⟨full, fullPositive, isFull, rounds⟩
    rw [toModel_ofNat_of_le (by omega), rounds, unpack_pack isFull (by omega)]
    split
    · next beyond => exact .inl ⟨rfl, overflows.mp (by omega)⟩
    · next below => exact .inr ⟨⟨full, _, fullPositive, rfl⟩, by omega⟩

theorem zero_lt_of_unpack {value : Float}
    (reads : UnpackedFloat.lt (.zero .positive) value.toModel.unpack = true) : 0 < value := by
  have zero : (0 : Float).toModel.unpack = .zero .positive := rfl
  change Float.lt 0 value = true
  rw [Float.lt, decide_eq_true_eq]
  change UnpackedFloat.lt (0 : Float).toModel.unpack value.toModel.unpack = true
  rwa [zero]

theorem zero_lt_ofInt {value : Int} (positive : 0 < value) : 0 < Float.ofInt value := by
  rcases Int.eq_ofNat_of_zero_le (Int.le_of_lt positive) with ⟨natural, rfl⟩
  apply zero_lt_of_unpack
  change UnpackedFloat.lt _ (Float.ofNat natural).toModel.unpack = true
  rcases unpack_ofNat (Int.natCast_pos.mp positive) with
    ⟨reads, -⟩ | ⟨⟨full, exponent, _, reads⟩, -⟩
  · rw [reads]
    rfl
  · rw [reads]
    rfl

/-- The double nearest to a positive integer is finite exactly below the limit. -/
theorem finiteFloat?_of_pos {value : Int} (positive : 0 < value) :
    finiteFloat? value = if value < limit then some (Float.ofInt value) else none := by
  rcases Int.eq_ofNat_of_zero_le (Int.le_of_lt positive) with ⟨natural, rfl⟩
  have finite : (Float.ofInt natural).isFinite = (Float.ofNat natural).toModel.unpack.isFinite :=
    rfl
  simp only [finiteFloat?, finite, Int.ofNat_lt]
  rcases unpack_ofNat (Int.natCast_pos.mp positive) with
    ⟨reads, beyond⟩ | ⟨⟨full, exponent, _, reads⟩, below⟩
  · rw [reads, if_neg (Nat.not_lt.mpr beyond)]
    rfl
  · rw [reads, if_pos below]
    rfl

end Integers

end RailsNavigator.Double
