import Mathlib

/-! Single precision where it is exact.

A finite number is a mantissa of 24 bits times a power of two. Rounding leaves such a number alone,
so multiplying by one and dividing by one change nothing, and neither does adding a zero, up to the
sign of a zero. The whole part of a number is told by comparing it with whole numbers.
-/

namespace TwoWire.SinglePrecision

open Float.Model
open Float.Model.UnpackedFloat (Sign ExtendedMantissa roundWithAccuracy shiftToTargetExponent
  shiftToExponent decreaseExponent accuracyOfFraction divCore)

/-- The first bit of the mantissa is set, unless the exponent is the least one already. -/
structure Canonical (mantissa : Nat) (exponent : Int) : Prop where
  fits : mantissa < 2 ^ 24
  bounded : -149 ≤ exponent
  normal : 2 ^ 23 ≤ mantissa ∨ exponent = -149

variable {mantissa other : Nat} {exponent power : Int} {sign : Sign} {positive : 0 < mantissa}

/-- What is read from the bits of a finite number is canonical, by cases on the exponent field. -/
theorem canonical_of_unpack {bits : BitVec 32}
    (unpacked : UnpackedFloat.unpack .binary32 bits = .finite sign mantissa exponent positive)
    : Canonical mantissa exponent := by
  unfold UnpackedFloat.unpack at unpacked
  extract_lets fraction field shifted _ _ at unpacked
  have below : fraction.toNat < 2 ^ 23 := fraction.isLt
  split at unpacked
  · split at unpacked <;> cases unpacked
  · split at unpacked
    · split at unpacked
      · cases unpacked
      · rename_i least _
        obtain ⟨-, rfl, rfl⟩ := UnpackedFloat.finite.inj unpacked
        refine ⟨by omega, ?_, .inr ?_⟩ <;> simp [shifted, least, Format.exponentBias]
    · rename_i above
      have joined : (1#1 ++ fraction).toNat = 2 ^ 23 + fraction.toNat := by
        rw [BitVec.toNat_append, ← Nat.shiftLeft_add_eq_or_of_lt below]
        rfl
      have stored : field.toNat ≠ 0 := fun least => above (BitVec.eq_of_toNat_eq least)
      obtain ⟨-, rfl, rfl⟩ := UnpackedFloat.finite.inj unpacked
      refine ⟨by omega, ?_, .inl (by omega)⟩
      simp only [shifted, Format.exponentBias]
      omega

-----------------------------------------------------------------------------------------
-- Rounding
-----------------------------------------------------------------------------------------

/-- Shifting drops bits, whatever was dropped before, by induction over the shift. -/
theorem mantissa_shiftRight (extended : ExtendedMantissa) (shift : Nat)
    : (extended >>> shift).mantissa = extended.mantissa / 2 ^ shift := by
  induction shift with
  | zero => exact (Nat.div_one _).symm
  | succ shift ih =>
      have once : (extended >>> (shift + 1)).mantissa = (extended >>> shift).mantissa / 2 := rfl
      rw [once, ih, Nat.div_div_eq_div_mul, ← Nat.pow_succ]

/-- Bits that were shifted in are shifted out again without a trace, by induction over the shift. -/
theorem exact_shiftRight (mantissa shift : Nat)
    : ExtendedMantissa.ofMantissaAndAccuracy (mantissa <<< shift) .exact >>> shift
      = .ofMantissaAndAccuracy mantissa .exact := by
  induction shift generalizing mantissa with
  | zero => rfl
  | succ shift ih =>
      have once
          : ExtendedMantissa.ofMantissaAndAccuracy (mantissa <<< (shift + 1)) .exact
              >>> (shift + 1)
            = (ExtendedMantissa.ofMantissaAndAccuracy ((mantissa * 2) <<< shift) .exact
                >>> shift).shiftRightOne := by
        rw [Nat.shiftLeft_succ_inside, Nat.mul_comm]
        rfl
      rw [once, ih]
      simp [ExtendedMantissa.ofMantissaAndAccuracy, ExtendedMantissa.shiftRightOne]

theorem log2_shiftLeft (positive : 0 < mantissa) (shift : Nat)
    : (mantissa <<< shift).log2 = mantissa.log2 + shift := by
  induction shift with
  | zero => rfl
  | succ shift ih =>
      have nonzero : mantissa <<< shift ≠ 0 := by simp [Nat.shiftLeft_eq, positive.ne']
      rw [Nat.shiftLeft_succ, Nat.log2_two_mul nonzero, ih]
      rfl

/-- The exponent that rounding aims at is the canonical one, however the number is written. -/
theorem Canonical.targetExponent (canonical : Canonical mantissa exponent)
    (positive : 0 < mantissa) (shift : Nat)
    : Format.binary32.targetExponent (totalExponent (mantissa <<< shift) (exponent - shift))
      = exponent := by
  obtain ⟨fits, bounded, normal⟩ := canonical
  have upper : mantissa.log2 < 24 := (Nat.log2_lt positive.ne').mpr fits
  have lower : 2 ^ 23 ≤ mantissa → 23 ≤ mantissa.log2 := (Nat.le_log2 positive.ne').mpr
  simp only [Format.targetExponent, totalExponent, log2_shiftLeft positive, Format.mantissaBits,
    Format.minExponent]
  push_cast
  omega

/-- Rounding finds a canonical number again, however it is written. -/
theorem Canonical.round (canonical : Canonical mantissa exponent) (sign : Sign)
    (positive : 0 < mantissa) (shift : Nat)
    : roundWithAccuracy .binary32 sign (mantissa <<< shift) (exponent - shift) .exact
      = .finite sign mantissa exponent positive := by
  have first
      : shiftToTargetExponent .binary32 (mantissa <<< shift) (exponent - shift) .exact
        = (.ofMantissaAndAccuracy mantissa .exact, exponent) := by
    have amount : (exponent - (exponent - shift)).toNat = shift := by omega
    rw [shiftToTargetExponent, canonical.targetExponent positive shift]
    simp only [shiftToExponent, amount, exact_shiftRight]
    congr 1
    omega
  have second
      : shiftToTargetExponent .binary32 mantissa exponent .exact
        = (.ofMantissaAndAccuracy mantissa .exact, exponent) := by
    have target := canonical.targetExponent positive 0
    simp only [Nat.shiftLeft_zero, Int.natCast_zero, Int.sub_zero] at target
    have amount : (exponent - exponent).toNat = 0 := by omega
    simp only [shiftToTargetExponent, target, shiftToExponent, amount]
    exact congrArg _ (Int.add_zero _)
  have rounded
      : (ExtendedMantissa.ofMantissaAndAccuracy mantissa .exact).roundedMantissa = mantissa :=
    rfl
  have kept : (ExtendedMantissa.ofMantissaAndAccuracy mantissa .exact).mantissa = mantissa := rfl
  simp only [roundWithAccuracy, first, rounded, second, kept]
  simp [positive.ne']

-----------------------------------------------------------------------------------------
-- Zero and one
-----------------------------------------------------------------------------------------

/-- A number is found again in its own parts, since no bits are lost when it is taken apart. -/
theorem pack_unpack (x : Float32)
    : Float32.ofModel (.pack x.toModel.unpack) = x :=
  x.ofBits_toBits

theorem unpack_one
    : (1 : Float32).toModel.unpack = .finite .positive (2 ^ 23) (-23) (by decide) := rfl

theorem sign_mul_positive (sign : Sign)
    : sign * .positive = sign := by
  cases sign <;> rfl

theorem sign_div_positive (sign : Sign)
    : sign / .positive = sign := by
  cases sign <;> rfl

/-- Multiplying by one changes nothing, not even a NaN, by cases on what the number is. -/
theorem mul_one_eq (x : Float32)
    : x * 1 = x := by
  suffices same : UnpackedFloat.mul .binary32 x.toModel.unpack (1 : Float32).toModel.unpack
      = x.toModel.unpack by
    exact (congrArg (fun result => Float32.ofModel (.pack result)) same).trans (pack_unpack x)
  rw [unpack_one]
  cases unpacked : x.toModel.unpack with
  | notANumber => rfl
  | infinity sign => exact congrArg _ (sign_mul_positive sign)
  | zero sign => exact congrArg _ (sign_mul_positive sign)
  | finite sign mantissa exponent positive =>
      have found := (canonical_of_unpack unpacked).round sign positive 23
      rw [Nat.shiftLeft_eq] at found
      simp only [UnpackedFloat.mul, sign_mul_positive]
      exact found

/-- A division by one has no remainder, whatever it shifts in before. -/
theorem divCore_one (canonical : Canonical mantissa exponent) (positive : 0 < mantissa)
    : ∃ shift : Nat,
        divCore .binary32 mantissa exponent (2 ^ 23) (-23)
        = (mantissa <<< shift, exponent - shift, .exact) := by
  obtain ⟨fits, bounded, -⟩ := canonical
  have upper : mantissa.log2 < 24 := (Nat.log2_lt positive.ne').mpr fits
  have unit : totalExponent (2 ^ 23) (-23) = 1 := by decide +kernel
  have target
      : Format.binary32.targetExponent (totalExponent mantissa exponent - 1) ≤ exponent := by
    simp only [Format.targetExponent, totalExponent, Format.mantissaBits, Format.minExponent]
    push_cast
    omega
  obtain ⟨shift, reached⟩ := Int.le.dest target
  have lowest
      : min (exponent - -23) (Format.binary32.targetExponent (totalExponent mantissa exponent - 1))
        = exponent - shift := by
    omega
  have amount : (exponent - -23 - (exponent - shift)).toNat = shift + 23 := by omega
  have whole : mantissa <<< (shift + 23) = mantissa <<< shift * 2 ^ 23 := by
    rw [Nat.shiftLeft_add, Nat.shiftLeft_eq _ 23]
  refine ⟨shift, ?_⟩
  simp only [divCore, unit, lowest, amount, whole]
  rw [Nat.mul_div_cancel _ (by decide), Nat.mul_mod_left]
  rfl

theorem div_one_eq (x : Float32)
    : x / 1 = x := by
  suffices same : UnpackedFloat.div .binary32 x.toModel.unpack (1 : Float32).toModel.unpack
      = x.toModel.unpack by
    exact (congrArg (fun result => Float32.ofModel (.pack result)) same).trans (pack_unpack x)
  rw [unpack_one]
  cases unpacked : x.toModel.unpack with
  | notANumber => rfl
  | infinity sign => exact congrArg _ (sign_div_positive sign)
  | zero sign => exact congrArg _ (sign_div_positive sign)
  | finite sign mantissa exponent positive =>
      have canonical := canonical_of_unpack unpacked
      obtain ⟨shift, divided⟩ := divCore_one canonical positive
      simp only [UnpackedFloat.div, sign_div_positive, divided]
      exact canonical.round sign positive shift

-----------------------------------------------------------------------------------------
-- Equality up to the sign of a zero
-----------------------------------------------------------------------------------------

variable {x y z : Float32}

/-- A number equals zero exactly when it is one of the two zeros. -/
theorem beq_zero_iff
    : x == 0 ↔ ∃ sign, x.toModel.unpack = .zero sign := by
  constructor
  · intro zero
    rcases (Float32.beq_iff_ne_nan_and_eq.mp zero).2.2 with rfl | ⟨rfl, -⟩ | ⟨rfl, -⟩
    · exact ⟨.positive, rfl⟩
    · exact ⟨.positive, rfl⟩
    · exact ⟨.negative, rfl⟩
  · rintro ⟨sign, unpacked⟩
    change UnpackedFloat.beq x.toModel.unpack _ = true
    rw [unpacked]
    rfl

theorem pack_zero_beq (sign : Sign)
    : Float32.ofModel (.pack (.zero sign)) == 0 :=
  beq_zero_iff.mpr ⟨sign, UnpackedFloat.unpack_packedZero⟩

/-- A number that equals a finite one is finite. -/
theorem isFinite_of_beq (same : x == y) (finite : y.isFinite)
    : x.isFinite := by
  rcases (Float32.beq_iff_ne_nan_and_eq.mp same).2.2 with rfl | ⟨rfl, -⟩ | ⟨rfl, -⟩
  · exact finite
  · rfl
  · rfl

theorem beq_self_of_isFinite (finite : x.isFinite)
    : x == x := by
  apply Float32.beq_self_iff.mpr
  rintro rfl
  cases finite

/-- Whatever equals something is no NaN. -/
theorem beq_self_of_beq (same : x == y)
    : x == x :=
  BEq.trans same (BEq.symm same)

/-- A result equals a number if it is that number, or if both of them are zeros. -/
theorem pack_beq (result : UnpackedFloat) (number : x == x)
    (same : result = x.toModel.unpack ∨ x == 0 ∧ ∃ sign, result = .zero sign)
    : Float32.ofModel (.pack result) == x := by
  rcases same with rfl | ⟨zero, sign, rfl⟩
  · rw [pack_unpack]
    exact number
  · exact BEq.trans (pack_zero_beq sign) (BEq.symm zero)

/-- Adding a zero of either sign changes nothing but the sign of a zero. -/
theorem add_zero_beq (number : x == x) (zero : z == 0)
    : x + z == x := by
  obtain ⟨sign, nothing⟩ := beq_zero_iff.mp zero
  apply pack_beq (UnpackedFloat.add .binary32 x.toModel.unpack z.toModel.unpack) number
  rw [nothing]
  cases unpacked : x.toModel.unpack with
  | notANumber | infinity | finite => exact .inl rfl
  | zero other =>
      refine .inr ⟨beq_zero_iff.mpr ⟨other, unpacked⟩, ?_⟩
      cases other <;> cases sign <;> exact ⟨_, rfl⟩

theorem zero_add_beq (number : x == x) (zero : z == 0)
    : z + x == x := by
  obtain ⟨sign, nothing⟩ := beq_zero_iff.mp zero
  apply pack_beq (UnpackedFloat.add .binary32 z.toModel.unpack x.toModel.unpack) number
  rw [nothing]
  cases unpacked : x.toModel.unpack with
  | notANumber | infinity | finite => exact .inl rfl
  | zero other =>
      refine .inr ⟨beq_zero_iff.mpr ⟨other, unpacked⟩, ?_⟩
      cases other <;> cases sign <;> exact ⟨_, rfl⟩

theorem sub_zero_beq (number : x == x) (zero : z == 0)
    : x - z == x := by
  obtain ⟨sign, nothing⟩ := beq_zero_iff.mp zero
  apply pack_beq (UnpackedFloat.sub .binary32 x.toModel.unpack z.toModel.unpack) number
  rw [nothing]
  cases unpacked : x.toModel.unpack with
  | notANumber | infinity | finite => exact .inl rfl
  | zero other =>
      refine .inr ⟨beq_zero_iff.mpr ⟨other, unpacked⟩, ?_⟩
      cases other <;> cases sign <;> exact ⟨_, rfl⟩

/-- A finite number times a zero is a zero; an infinite one is excluded, since it gives a NaN. -/
theorem mul_zero_beq (finite : x.isFinite) (zero : z == 0)
    : x * z == 0 := by
  obtain ⟨sign, nothing⟩ := beq_zero_iff.mp zero
  change UnpackedFloat.isFinite x.toModel.unpack = true at finite
  change Float32.ofModel
    (.pack (UnpackedFloat.mul .binary32 x.toModel.unpack z.toModel.unpack)) == 0
  rw [nothing]
  cases unpacked : x.toModel.unpack with
  | notANumber | infinity => simp [unpacked, UnpackedFloat.isFinite] at finite
  | zero | finite => exact pack_zero_beq _

-----------------------------------------------------------------------------------------
-- Whole parts
-----------------------------------------------------------------------------------------

/-- The number is finite, greater than zero, and made of this mantissa and this exponent. -/
def IsPositive (x : Float32) (mantissa : Nat) (exponent : Int) : Prop :=
  ∃ positive, x.toModel.unpack = .finite .positive mantissa exponent positive

/-- The number is this positive whole one. -/
def IsWhole (x : Float32) (count : Nat) : Prop :=
  ∃ shift : Nat, IsPositive x (count * 2 ^ shift) (-shift)

/-- The whole part of a mantissa times a power of two. -/
def whole (mantissa : Nat) (exponent : Int) : Nat :=
  (mantissa <<< exponent.toNat) / 2 ^ (-exponent).toNat

theorem isWhole_one : IsWhole 1 1 := ⟨23, by decide, rfl⟩

theorem isWhole_two : IsWhole 2 2 := ⟨22, by decide, rfl⟩

theorem isWhole_three : IsWhole 3 3 := ⟨22, by decide, rfl⟩

theorem isWhole_maximum : IsWhole 255 255 := ⟨16, by decide, rfl⟩

theorem le_iff_unpack
    : x ≤ y ↔ x.toModel.unpack.le y.toModel.unpack = true :=
  decide_eq_true_iff

theorem lt_iff_unpack
    : x < y ↔ x.toModel.unpack.lt y.toModel.unpack = true :=
  decide_eq_true_iff

theorem le_of_lt (less : x < y)
    : x ≤ y := by
  rw [lt_iff_unpack, UnpackedFloat.lt, beq_iff_eq] at less
  rw [le_iff_unpack, UnpackedFloat.le, less]
  rfl

namespace IsPositive

theorem canonical (number : IsPositive x mantissa exponent)
    : Canonical mantissa exponent := by
  obtain ⟨_, unpacked⟩ := number
  exact canonical_of_unpack unpacked

theorem le_iff (left : IsPositive x mantissa exponent) (right : IsPositive y other power)
    : x ≤ y ↔ exponent < power ∨ exponent = power ∧ mantissa ≤ other := by
  obtain ⟨_, left⟩ := left
  obtain ⟨_, right⟩ := right
  rw [le_iff_unpack, left, right]
  simp [UnpackedFloat.le, UnpackedFloat.compare, Ordering.isLE_then_iff_or, Int.compare_eq_lt,
    Nat.isLE_compare]

theorem lt_iff (left : IsPositive x mantissa exponent) (right : IsPositive y other power)
    : x < y ↔ ¬ y ≤ x := by
  rw [right.le_iff left]
  obtain ⟨_, left⟩ := left
  obtain ⟨_, right⟩ := right
  rw [lt_iff_unpack, left, right]
  simp only [UnpackedFloat.lt, UnpackedFloat.compare, beq_iff_eq, Option.some.injEq,
    Ordering.then_eq_lt, Int.compare_eq_lt, Int.compare_eq_eq, Nat.compare_eq_lt]
  omega

theorem toUInt8_eq (number : IsPositive x mantissa exponent)
    : x.toUInt8 = .ofNatClamp (whole mantissa exponent) := by
  obtain ⟨_, unpacked⟩ := number
  have shift : (0 - (exponent - exponent.toNat)).toNat = (-exponent).toNat := by omega
  change UnpackedFloat.toUInt8 x.toModel.unpack = _
  rw [unpacked]
  simp only [UnpackedFloat.toUInt8, UnpackedFloat.toInt, UnpackedFloat.roundToInt,
    decreaseExponent, shiftToExponent, mantissa_shiftRight, whole, Int.sub_zero, shift]
  rfl

end IsPositive

namespace IsWhole

variable {count : Nat}

/-- A whole number is at most a number exactly if it is at most the whole part of it. Exponents are
compared first: with more of an exponent a mantissa that is normal is worth more than any other.
-/
theorem le_iff (left : IsWhole x count) (right : IsPositive y mantissa exponent)
    : x ≤ y ↔ count ≤ whole mantissa exponent := by
  obtain ⟨shift, left⟩ := left
  obtain ⟨fits, bounded, first⟩ := left.canonical
  obtain ⟨below, least, normal⟩ := right.canonical
  have doubled {less more : Nat} (further : less < more)
      : count * 2 ^ less * 2 ≤ count * 2 ^ more := by
    rw [Nat.mul_assoc, ← Nat.pow_succ]
    exact Nat.mul_le_mul_left _ (Nat.pow_le_pow_right (by decide) further)
  rw [left.le_iff right]
  rcases lt_or_ge 0 exponent with large | small
  · have shifted : whole mantissa exponent = mantissa * 2 ^ exponent.toNat := by
      have none : (-exponent).toNat = 0 := by omega
      rw [whole, none, Nat.shiftLeft_eq, Nat.pow_zero, Nat.div_one]
    have grown : mantissa * 2 ^ 1 ≤ mantissa * 2 ^ exponent.toNat :=
      Nat.mul_le_mul_left _ (Nat.pow_le_pow_right (by decide) (by omega))
    have bound : count * 2 ^ 0 ≤ count * 2 ^ shift :=
      Nat.mul_le_mul_left _ (Nat.pow_le_pow_right (by decide) (by omega))
    omega
  · obtain ⟨drop, rfl⟩ := Int.exists_eq_neg_ofNat small
    have part : whole mantissa (-drop) = mantissa / 2 ^ drop := by simp [whole]
    rw [part, Nat.le_div_iff_mul_le (Nat.two_pow_pos drop)]
    rcases lt_trichotomy drop shift with fewer | rfl | more
    · have := doubled fewer
      omega
    · omega
    · have := doubled more
      omega

theorem lt_iff (left : IsWhole x count) (right : IsPositive y mantissa exponent)
    : y < x ↔ whole mantissa exponent < count := by
  obtain ⟨_, number⟩ := left
  rw [right.lt_iff number, IsWhole.le_iff ⟨_, number⟩ right, Nat.not_le]

end IsWhole

theorem toNat_ofNatClamp (count : Nat)
    : (UInt8.ofNatClamp count).toNat = min count 255 := by
  rcases lt_or_ge count UInt8.size with inside | beyond
  · rw [UInt8.toNat_ofNatClamp_of_lt inside]
    exact (Nat.min_eq_left (Nat.le_of_lt_succ inside)).symm
  · rw [UInt8.toNat_ofNatClamp_of_le beyond]
    exact (Nat.min_eq_right (Nat.le_of_succ_le beyond)).symm

/-- A number that fits in a byte is cut down to a whole one exactly if it is at least that one and
less than the next. This holds of every number: a NaN compares with nothing, and what does not fit
in a byte is not below the next whole number or not above this one.
-/
theorem truncates_iff {low high : Float32} {count : Nat} (nonzero : 0 < count) (small : count < 255)
    (least : IsWhole low count) (next : IsWhole high (count + 1))
    : (0 ≤ x ∧ x ≤ 255) ∧ x.toUInt8.toNat = count ↔ low ≤ x ∧ x < high := by
  have null : (0 : Float32).toModel.unpack = .zero .positive := rfl
  by_cases number : ∃ mantissa exponent, IsPositive x mantissa exponent
  · obtain ⟨mantissa, exponent, number⟩ := number
    have above : 0 ≤ x := by
      obtain ⟨_, unpacked⟩ := number
      rw [le_iff_unpack, unpacked]
      rfl
    have within (fits : whole mantissa exponent < 255) : x ≤ 255 :=
      le_of_lt ((isWhole_maximum.lt_iff number).mpr fits)
    rw [least.le_iff number, next.lt_iff number, number.toUInt8_eq, toNat_ofNatClamp]
    constructor
    · rintro ⟨-, cut⟩
      omega
    · rintro ⟨reached, below⟩
      exact ⟨⟨above, within (by omega)⟩, by omega⟩
  · obtain ⟨_, _, low⟩ := least
    obtain ⟨_, _, high⟩ := next
    obtain ⟨_, _, top⟩ := isWhole_maximum
    simp only [le_iff_unpack, lt_iff_unpack, UnpackedFloat.le, UnpackedFloat.lt, low, high, top,
      null]
    cases unpacked : x.toModel.unpack with
    | notANumber => simp [UnpackedFloat.compare]
    | infinity sign => cases sign <;> simp [UnpackedFloat.compare]
    | zero sign =>
        have cut : x.toUInt8 = 0 := congrArg UnpackedFloat.toUInt8 unpacked
        simp [UnpackedFloat.compare, cut, nonzero.ne]
    | finite sign mantissa exponent positive =>
        cases sign with
        | positive => exact absurd ⟨_, _, _, unpacked⟩ number
        | negative => simp [UnpackedFloat.compare]

end TwoWire.SinglePrecision
