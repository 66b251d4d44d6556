import DailySignals.Proofs.NumberOrder
import DailySignals.Trading.Exit

/-!
# Half of a double

A score has decayed when it lies below half of its threshold.  Halving lowers the
exponent of a double by one and is exact, except at the least exponent, where the
mantissa itself is halved and a tie goes to the even neighbour.  Either way half
of a double keeps its side of zero and lies closer to it (`Shrunk`).  So whatever
reaches a threshold that is not negative reaches its half, and a negative
threshold lies below its own half.
-/

set_option autoImplicit false

namespace DailySignals

namespace Double

open Float.Model Float.Model.UnpackedFloat

/-- The mantissas and exponents of finite doubles: all 53 digits are in use, or
the exponent is the least. -/
structure Fits (mantissa : Nat) (exponent : Int) : Prop where
  digits : mantissa < 2 ^ 53
  full : 2 ^ 52 ≤ mantissa ∨ exponent = -1074
  least : -1074 ≤ exponent
  greatest : exponent ≤ 971

/-! ## Doubles and their bits -/

theorem toNat_leading (stored : BitVec 52) : (1#1 ++ stored).toNat = 2 ^ 52 + stored.toNat := by
  rw [BitVec.toNat_append, ← Nat.shiftLeft_add_eq_or_of_lt stored.isLt, Nat.shiftLeft_eq]
  rfl

theorem fits_of_unpack {x : Float.Model} {sign : Sign} {mantissa : Nat} {exponent : Int}
    {positive : 0 < mantissa} (unpacked : x.unpack = .finite sign mantissa exponent positive) :
    Fits mantissa exponent := by
  change UnpackedFloat.unpack Format.binary64 x.toBits.toBitVec = _ at unpacked
  unfold UnpackedFloat.unpack at unpacked
  extract_lets stored place lifted signBit side at unpacked
  have inside : stored.toNat < 2 ^ 52 := stored.isLt
  have below : place.toNat < 2 ^ 11 := place.isLt
  have lifted_eq : lifted = (place.toNat : Int) - 1075 := rfl
  by_cases top : place = -1#11
  · rw [if_pos top] at unpacked
    by_cases bare : stored = 0#52
    · rw [if_pos bare] at unpacked
      cases unpacked
    · rw [if_neg bare] at unpacked
      cases unpacked
  · rw [if_neg top] at unpacked
    have bounded : place.toNat ≠ 2047 := fun greatest => top (BitVec.eq_of_toNat_eq greatest)
    by_cases bottom : place = 0#11
    · rw [if_pos bottom] at unpacked
      have lowest : place.toNat = 0 := congrArg BitVec.toNat bottom
      by_cases bare : stored = 0#52
      · rw [dif_pos bare] at unpacked
        cases unpacked
      · rw [dif_neg bare] at unpacked
        injection unpacked with _ sameMantissa sameExponent
        constructor <;> omega
    · rw [if_neg bottom] at unpacked
      have raised : place.toNat ≠ 0 := fun lowest => bottom (BitVec.eq_of_toNat_eq lowest)
      injection unpacked with _ sameMantissa sameExponent
      have whole : mantissa = 2 ^ 52 + stored.toNat :=
        sameMantissa.symm.trans (toNat_leading stored)
      constructor <;> omega

theorem unpackSign_packComponents (sign : Sign) (place : BitVec 11) (stored : BitVec 52) :
    unpackSign (packComponents Format.binary64 sign place stored) = sign.toBitVec := by
  apply BitVec.eq_of_getLsbD_eq
  intro index one
  obtain rfl : index = 0 := by omega
  change (BitVec.extractLsb 63 63 (sign.toBitVec ++ place ++ stored : BitVec 64)).getLsbD 0 = _
  rw [BitVec.getLsbD_extractLsb, BitVec.getLsbD_append, BitVec.getLsbD_append]
  rfl

theorem finite_congr {sign other : Sign} {mantissa digits : Nat} {exponent place : Int}
    {positive : 0 < mantissa} {nonzero : 0 < digits} (sameSign : sign = other)
    (sameMantissa : mantissa = digits) (sameExponent : exponent = place) :
    UnpackedFloat.finite sign mantissa exponent positive =
      .finite other digits place nonzero := by
  subst sameSign sameMantissa sameExponent
  rfl

theorem unpack_packComponents (sign : Sign) {place : BitVec 11} {stored : BitVec 52}
    (notTop : place ≠ -1#11) {mantissa : Nat} {exponent : Int} (positive : 0 < mantissa)
    (value : place = 0#11 ∧ stored.toNat = mantissa ∧ exponent = -1074 ∨
      place ≠ 0#11 ∧ 2 ^ 52 + stored.toNat = mantissa ∧
        exponent = (place.toNat : Int) - 1075) :
    UnpackedFloat.unpack Format.binary64 (packComponents Format.binary64 sign place stored) =
      .finite sign mantissa exponent positive := by
  unfold UnpackedFloat.unpack
  extract_lets digits found lifted signBit side
  have sameDigits : digits = stored := unpackMantissa_packComponents
  have sameFound : found = place := unpackExponent_packComponents
  have sameSide : side = sign := by
    change Sign.ofBitVec (unpackSign (packComponents Format.binary64 sign place stored)) = sign
    rw [unpackSign_packComponents]
    cases sign with
    | negative => rfl
    | positive => rfl
  have lifted_eq : lifted = (found.toNat : Int) - 1075 := rfl
  have notSpecial : ¬ found = -1#11 := sameFound ▸ notTop
  rw [if_neg notSpecial]
  rcases value with ⟨lowest, stored_eq, exponent_eq⟩ | ⟨raised, stored_eq, exponent_eq⟩
  · have bottom : found = 0#11 := sameFound.trans lowest
    have nonzero : ¬ digits = 0#52 := by
      intro none
      rw [← sameDigits, none] at stored_eq
      change 0 = mantissa at stored_eq
      omega
    have found_eq : found.toNat = 0 := congrArg BitVec.toNat bottom
    rw [if_pos bottom, dif_neg nonzero]
    refine finite_congr sameSide ((congrArg BitVec.toNat sameDigits).trans stored_eq) ?_
    omega
  · have notBottom : ¬ found = 0#11 := sameFound ▸ raised
    rw [if_neg notBottom]
    refine finite_congr sameSide ?_ ?_
    · rw [sameDigits, toNat_leading, stored_eq]
    · rw [lifted_eq, sameFound, exponent_eq]

theorem pack_finite (sign : Sign) {mantissa : Nat} (exponent : Int) (positive : 0 < mantissa) :
    UnpackedFloat.pack Format.binary64 (.finite sign mantissa exponent positive) =
      if 2 ^ 11 ≤ (exponent + 1023 + 52).toNat + 1 then packedInfinity Format.binary64 sign
      else if mantissa.log2 + 1 = 53 then
        packComponents Format.binary64 sign (BitVec.ofNat 11 (exponent + 1023 + 52).toNat)
          (BitVec.ofNat 52 mantissa)
      else packComponents Format.binary64 sign 0#11 (BitVec.ofNat 52 mantissa) :=
  rfl

/-- No digit of a finite double is lost in its bits. -/
theorem unpack_pack {sign : Sign} {mantissa : Nat} {exponent : Int} (positive : 0 < mantissa)
    (fits : Fits mantissa exponent) :
    (Float.Model.pack (.finite sign mantissa exponent positive)).unpack =
      .finite sign mantissa exponent positive := by
  obtain ⟨digits, full, least, greatest⟩ := fits
  change UnpackedFloat.unpack Format.binary64
    (UnpackedFloat.pack Format.binary64 (.finite sign mantissa exponent positive)) = _
  obtain ⟨place, place_eq⟩ : ∃ place, place = (exponent + 1023 + 52).toNat := ⟨_, rfl⟩
  have small : ¬ 2 ^ 11 ≤ place + 1 := by omega
  have placed : (BitVec.ofNat 11 place).toNat = place := by
    rw [BitVec.toNat_ofNat]
    omega
  rw [pack_finite, ← place_eq, if_neg small]
  by_cases normal : 2 ^ 52 ≤ mantissa
  · have bits_eq : mantissa.log2 = 52 :=
      (Nat.log2_eq_iff (Nat.ne_of_gt positive)).mpr ⟨normal, digits⟩
    have allBits : mantissa.log2 + 1 = 53 := by omega
    rw [if_pos allBits]
    apply unpack_packComponents
    · intro top
      have top_eq := congrArg BitVec.toNat top
      rw [placed] at top_eq
      change place = 2047 at top_eq
      omega
    · refine .inr ⟨?_, ?_, ?_⟩
      · intro bottom
        have bottom_eq := congrArg BitVec.toNat bottom
        rw [placed] at bottom_eq
        change place = 0 at bottom_eq
        omega
      · rw [BitVec.toNat_ofNat]
        omega
      · rw [placed]
        omega
  · have bits_lt : mantissa.log2 < 52 :=
      (Nat.log2_lt (Nat.ne_of_gt positive)).mpr (Nat.lt_of_not_le normal)
    have fewBits : ¬ mantissa.log2 + 1 = 53 := by omega
    rw [if_neg fewBits]
    apply unpack_packComponents
    · decide
    · refine .inl ⟨rfl, ?_, full.resolve_left normal⟩
      rw [BitVec.toNat_ofNat]
      omega

theorem unpack_pack_zero (sign : Sign) : (Float.Model.pack (.zero sign)).unpack = .zero sign := by
  cases sign with
  | negative => rfl
  | positive => rfl

/-! ## Rounding half a mantissa -/

theorem shiftRight_succ (digits : ExtendedMantissa) (count : Nat) :
    digits >>> (count + 1) = (digits >>> count).shiftRightOne :=
  rfl

theorem shiftRight_exact (mantissa count : Nat) :
    (⟨mantissa * 2 ^ count, false, false⟩ : ExtendedMantissa) >>> count =
      ⟨mantissa, false, false⟩ := by
  induction count generalizing mantissa with
  | zero =>
      rw [Nat.pow_zero, Nat.mul_one]
      rfl
  | succ count ih =>
      have doubled : mantissa * 2 ^ (count + 1) = mantissa * 2 * 2 ^ count := by
        rw [Nat.pow_succ, Nat.mul_assoc, Nat.mul_comm 2]
      have whole : mantissa * 2 / 2 = mantissa := Nat.mul_div_cancel mantissa (by decide)
      have even : (mantissa * 2 % 2 != 0) = false := by
        rw [Nat.mul_mod_left]
        rfl
      rw [doubled, shiftRight_succ, ih]
      change (⟨mantissa * 2 / 2, mantissa * 2 % 2 != 0, false⟩ : ExtendedMantissa) = _
      rw [whole, even]

/-- Half of a mantissa; of two neighbours at the same distance the even one. -/
def halfEven (mantissa : Nat) : Nat :=
  mantissa / 2 + mantissa % 2 * (mantissa / 2 % 2)

theorem halfEven_lt {mantissa : Nat} (positive : 0 < mantissa) :
    halfEven mantissa < mantissa := by
  rw [halfEven]
  rcases Nat.mod_two_eq_zero_or_one mantissa with even | odd
  · rw [even, Nat.zero_mul]
    omega
  · rw [odd, Nat.one_mul]
    omega

theorem roundedMantissa_half (mantissa : Nat) :
    (⟨mantissa / 2, mantissa % 2 != 0, false⟩ : ExtendedMantissa).roundedMantissa =
      halfEven mantissa := by
  rw [halfEven]
  rcases Nat.mod_two_eq_zero_or_one mantissa with even | odd
  · rw [even, Nat.zero_mul]
    rfl
  · rw [odd, Nat.one_mul]
    rfl

theorem targetExponent_eq (total : Int) :
    Format.binary64.targetExponent total = max (total - 53) (-1074) :=
  rfl

theorem log2_shifted {mantissa : Nat} (positive : 0 < mantissa) :
    (mantissa * 2 ^ 52).log2 = mantissa.log2 + 52 := by
  have below := Nat.log2_self_le (Nat.ne_of_gt positive)
  have above := Nat.lt_log2_self (n := mantissa)
  rw [Nat.log2_eq_iff (by omega), Nat.add_right_comm, Nat.pow_add _ mantissa.log2,
    Nat.pow_add _ (mantissa.log2 + 1)]
  exact ⟨Nat.mul_le_mul_right _ below, Nat.mul_lt_mul_of_pos_right above (by decide)⟩

/-- The exponent that half of a double is rounded to. -/
theorem targetExponent_half {mantissa : Nat} {exponent : Int} (positive : 0 < mantissa)
    (fits : Fits mantissa exponent) :
    Format.binary64.targetExponent (totalExponent (mantissa * 2 ^ 52) (exponent + -53)) =
      max (exponent - 1) (-1074) := by
  rw [targetExponent_eq, totalExponent, log2_shifted positive]
  have upper : mantissa.log2 < 53 := (Nat.log2_lt (Nat.ne_of_gt positive)).mpr fits.digits
  rcases fits.full with normal | least
  · have lower := (Nat.le_log2 (Nat.ne_of_gt positive)).mpr normal
    omega
  · omega

/-- Digits that fit are not shifted any more. -/
theorem shiftToTargetExponent_of_fits {mantissa : Nat} {exponent : Int}
    (digits : mantissa < 2 ^ 53) (least : -1074 ≤ exponent) :
    shiftToTargetExponent Format.binary64 mantissa exponent .exact =
      (⟨mantissa, false, false⟩, exponent) := by
  have log : mantissa.log2 ≤ 52 := by
    by_cases zero : mantissa = 0
    · rw [zero]
      decide
    · exact Nat.le_of_lt_succ ((Nat.log2_lt zero).mpr digits)
  have stays : (Format.binary64.targetExponent (totalExponent mantissa exponent) -
      exponent).toNat = 0 := by
    rw [targetExponent_eq, totalExponent]
    omega
  unfold shiftToTargetExponent shiftToExponent
  simp only [stays]
  change ((⟨mantissa, false, false⟩ : ExtendedMantissa), exponent + 0) = _
  rw [Int.add_zero]

theorem roundWithAccuracy_of_shifted {sign : Sign} {mantissa rounded : Nat}
    {exponent place : Int} {digits : ExtendedMantissa}
    (shifted : shiftToTargetExponent Format.binary64 mantissa exponent .exact = (digits, place))
    (roundedTo : digits.roundedMantissa = rounded) (fits : rounded < 2 ^ 53)
    (least : -1074 ≤ place) :
    roundWithAccuracy Format.binary64 sign mantissa exponent .exact =
      if nothing : rounded = 0 then .zero sign
      else .finite sign rounded place (Nat.pos_of_ne_zero nothing) := by
  unfold roundWithAccuracy
  rw [shifted]
  change (match shiftToTargetExponent Format.binary64 digits.roundedMantissa place .exact with
    | (final, exponent) =>
      if nothing : final.mantissa = 0 then UnpackedFloat.zero sign
      else .finite sign final.mantissa exponent (Nat.pos_of_ne_zero nothing)) = _
  rw [roundedTo, shiftToTargetExponent_of_fits fits least]

/-- What half of a number can be: zero, or a number of its sign that is closer to
zero. -/
inductive Shrunk (sign : Sign) (mantissa : Nat) (exponent : Int) : UnpackedFloat → Prop where
  | zero : Shrunk sign mantissa exponent (.zero sign)
  | finite {digits : Nat} {place : Int} (positive : 0 < digits) (fits : Fits digits place)
      (closer : place < exponent ∨ place = exponent ∧ digits < mantissa) :
      Shrunk sign mantissa exponent (.finite sign digits place positive)

theorem roundWithAccuracy_half (sign : Sign) {mantissa : Nat} {exponent : Int}
    (positive : 0 < mantissa) (fits : Fits mantissa exponent) :
    Shrunk sign mantissa exponent
      (roundWithAccuracy Format.binary64 sign (mantissa * 2 ^ 52) (exponent + -53) .exact) := by
  have target := targetExponent_half positive fits
  obtain ⟨digits, full, least, greatest⟩ := fits
  by_cases lowest : exponent = -1074
  · -- one digit more is shifted out than the factor had brought in
    have count : (max (exponent - 1) (-1074) - (exponent + -53)).toNat = 52 + 1 := by omega
    have shifted : shiftToTargetExponent Format.binary64 (mantissa * 2 ^ 52) (exponent + -53)
        .exact = (⟨mantissa / 2, mantissa % 2 != 0, false⟩, -1074) := by
      unfold shiftToTargetExponent shiftToExponent
      simp only [target, count]
      change ((⟨mantissa * 2 ^ 52, false, false⟩ : ExtendedMantissa) >>> (52 + 1), _) = _
      rw [shiftRight_succ, shiftRight_exact, lowest]
      rfl
    have closer := halfEven_lt positive
    rw [roundWithAccuracy_of_shifted shifted (roundedMantissa_half mantissa) (by omega)
      (by omega)]
    by_cases nothing : halfEven mantissa = 0
    · rw [dif_pos nothing]
      exact .zero
    · rw [dif_neg nothing]
      exact .finite _ ⟨by omega, .inr rfl, by omega, by omega⟩ (.inr ⟨lowest.symm, closer⟩)
  · have count : (max (exponent - 1) (-1074) - (exponent + -53)).toNat = 52 := by omega
    have place : exponent + -53 + (52 : Nat) = exponent - 1 := by omega
    have shifted : shiftToTargetExponent Format.binary64 (mantissa * 2 ^ 52) (exponent + -53)
        .exact = (⟨mantissa, false, false⟩, exponent - 1) := by
      unfold shiftToTargetExponent shiftToExponent
      simp only [target, count]
      change ((⟨mantissa * 2 ^ 52, false, false⟩ : ExtendedMantissa) >>> 52, _) = _
      rw [shiftRight_exact, place]
    rw [roundWithAccuracy_of_shifted shifted rfl digits (by omega)]
    change Shrunk sign mantissa exponent (if nothing : mantissa = 0 then _ else _)
    rw [dif_neg (Nat.ne_of_gt positive)]
    exact .finite _ ⟨digits, .inl (full.resolve_right lowest), by omega, by omega⟩
      (.inl (by omega))

theorem unpack_decayFraction : (Exit.decayFraction : Float).toModel.unpack =
    .finite .positive (2 ^ 52) (-53) (by decide) :=
  rfl

theorem shrunk_half {x : Float} {sign : Sign} {mantissa : Nat} {exponent : Int}
    {positive : 0 < mantissa}
    (unpacked : x.toModel.unpack = .finite sign mantissa exponent positive) :
    Shrunk sign mantissa exponent (x * Exit.decayFraction).toModel.unpack := by
  have shrunk := roundWithAccuracy_half sign positive (fits_of_unpack unpacked)
  have sameSign : sign * Sign.positive = sign := by
    cases sign with
    | negative => rfl
    | positive => rfl
  change Shrunk sign mantissa exponent (Float.Model.pack (UnpackedFloat.mul Format.binary64
    x.toModel.unpack (Exit.decayFraction : Float).toModel.unpack)).unpack
  rw [unpacked, unpack_decayFraction]
  change Shrunk sign mantissa exponent (Float.Model.pack (roundWithAccuracy Format.binary64
    (sign * Sign.positive) (mantissa * 2 ^ 52) (exponent + -53) .exact)).unpack
  rw [sameSign]
  generalize roundWithAccuracy Format.binary64 sign (mantissa * 2 ^ 52) (exponent + -53)
    .exact = half at shrunk ⊢
  cases shrunk with
  | zero =>
      rw [unpack_pack_zero]
      exact .zero
  | finite positive fits closer =>
      rw [unpack_pack positive fits]
      exact .finite positive fits closer

theorem unpack_half_zero {x : Float} {sign : Sign} (unpacked : x.toModel.unpack = .zero sign) :
    (x * Exit.decayFraction).toModel.unpack = .zero sign := by
  change (Float.Model.pack (UnpackedFloat.mul Format.binary64
    x.toModel.unpack (Exit.decayFraction : Float).toModel.unpack)).unpack = _
  rw [unpacked, unpack_decayFraction]
  cases sign with
  | negative => rfl
  | positive => rfl

/-! ## A number and its half -/

section Places

variable {exponent place : Int} {mantissa digits : Nat}

theorem places_isLE : ((compare exponent place).then (compare mantissa digits)).isLE = true ↔
    exponent < place ∨ exponent = place ∧ mantissa ≤ digits := by
  rcases lt_trichotomy exponent place with below | rfl | above
  · rw [compare_lt_iff_lt.mpr below]
    exact iff_of_true rfl (.inl below)
  · rw [compare_eq_iff_eq.mpr rfl]
    change (compare mantissa digits).isLE = true ↔ _
    rw [Std.isLE_compare]
    omega
  · rw [compare_gt_iff_gt.mpr above]
    exact iff_of_false Bool.false_ne_true (by omega)

theorem places_eq_lt : (compare exponent place).then (compare mantissa digits) = .lt ↔
    exponent < place ∨ exponent = place ∧ mantissa < digits := by
  rw [Ordering.then_eq_lt, compare_lt_iff_lt, compare_eq_iff_eq, compare_lt_iff_lt]

theorem places_eq_gt : (compare exponent place).then (compare mantissa digits) = .gt ↔
    place < exponent ∨ place = exponent ∧ digits < mantissa := by
  rw [Ordering.then_eq_gt, compare_gt_iff_gt, compare_eq_iff_eq, compare_gt_iff_gt]
  exact or_congr Iff.rfl (and_congr eq_comm Iff.rfl)

end Places

section Half

variable {mantissa : Nat} {exponent : Int} {positive : 0 < mantissa} {half : UnpackedFloat}

theorem Shrunk.not_above {reaching : UnpackedFloat} (shrunk : Shrunk .positive mantissa exponent half)
    (reached : ((UnpackedFloat.finite .positive mantissa exponent positive).compare
      reaching).any (·.isLE) = true) : reaching.compare half ≠ some .lt := by
  intro below
  cases reaching with
  | notANumber => cases reached
  | infinity side =>
      cases side with
      | negative => cases reached
      | positive =>
          cases shrunk with
          | zero => cases below
          | finite => cases below
  | zero => cases reached
  | finite side digits place nonzero =>
      cases side with
      | negative => cases reached
      | positive =>
          have least := places_isLE.mp reached
          cases shrunk with
          | zero => cases below
          | finite _ _ closer =>
              have less := places_eq_lt.mp (Option.some.inj below)
              omega

theorem Shrunk.above (shrunk : Shrunk .negative mantissa exponent half) :
    (UnpackedFloat.finite .negative mantissa exponent positive).compare half = some .lt := by
  cases shrunk with
  | zero => rfl
  | finite _ _ closer =>
      change some ((compare exponent _).then (compare mantissa _)).swap = _
      rw [places_eq_gt.mpr closer]
      rfl

end Half

variable {x y : Float}

theorem unpack_of_isFinite (finite : x.isFinite = true) :
    (∃ sign, x.toModel.unpack = .zero sign) ∨
      ∃ sign mantissa exponent positive,
        x.toModel.unpack = .finite sign mantissa exponent positive := by
  change x.toModel.unpack.isFinite = true at finite
  cases unpacked : x.toModel.unpack with
  | notANumber =>
      rw [unpacked] at finite
      cases finite
  | infinity =>
      rw [unpacked] at finite
      cases finite
  | zero sign => exact .inl ⟨sign, rfl⟩
  | finite sign mantissa exponent positive =>
      exact .inr ⟨sign, mantissa, exponent, positive, rfl⟩

/-- Whatever reaches a finite number that is not negative reaches its half. -/
theorem not_lt_half (finite : x.isFinite = true) (nonneg : ¬ x < 0) (reached : x ≤ y) :
    ¬ y < x * Exit.decayFraction := by
  rw [LawfulOrder.float_le_iff] at reached
  rw [LawfulOrder.float_lt_iff] at nonneg ⊢
  change ¬ x.toModel.unpack.compare (.zero .positive) = _ at nonneg
  rcases unpack_of_isFinite finite with
    ⟨sign, unpacked⟩ | ⟨sign, mantissa, exponent, positive, unpacked⟩
  · rw [unpacked] at reached
    rw [unpack_half_zero unpacked]
    intro below
    rw [LawfulOrder.compare_swap, below] at reached
    cases reached
  · rw [unpacked] at reached nonneg
    cases sign with
    | negative => exact absurd rfl nonneg
    | positive => exact (shrunk_half unpacked).not_above reached

theorem lt_half_of_neg (finite : x.isFinite = true) (negative : x < 0) :
    x < x * Exit.decayFraction := by
  rw [LawfulOrder.float_lt_iff] at negative ⊢
  change x.toModel.unpack.compare (.zero .positive) = _ at negative
  rcases unpack_of_isFinite finite with
    ⟨sign, unpacked⟩ | ⟨sign, mantissa, exponent, positive, unpacked⟩
  · rw [unpacked] at negative
    cases negative
  · rw [unpacked] at negative
    cases sign with
    | negative =>
        have shrunk := shrunk_half unpacked
        rw [unpacked]
        exact shrunk.above
    | positive => cases negative

theorem le_self (finite : x.isFinite = true) : x ≤ x := by
  rw [LawfulOrder.float_le_iff]
  rcases unpack_of_isFinite finite with
    ⟨sign, unpacked⟩ | ⟨sign, mantissa, exponent, positive, unpacked⟩
  · rw [unpacked]
    rfl
  · have same : (compare exponent exponent).then (compare mantissa mantissa) = .eq := by
      rw [compare_eq_iff_eq.mpr rfl, compare_eq_iff_eq.mpr rfl]
      rfl
    rw [unpacked]
    cases sign with
    | positive =>
        change ((compare exponent exponent).then (compare mantissa mantissa)).isLE = true
        rw [same]
        rfl
    | negative =>
        change ((compare exponent exponent).then (compare mantissa mantissa)).swap.isLE = true
        rw [same]
        rfl

end Double

end DailySignals
