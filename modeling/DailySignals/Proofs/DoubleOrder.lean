import DailySignals.Proofs.Halving

/-!
# The total order of doubles

The total order reads the bits of a double as a signed number, and the bits
count how many doubles lie between it and zero (`distance`).  So it agrees with
`≤` on all numbers.  It says more than that in one place only: the two zeros,
which are equal as numbers, are apart in it by their signs.
-/

set_option autoImplicit false

namespace DailySignals

namespace Double

open Float.Model Float.Model.UnpackedFloat

/-- How far a double lies from zero, counted in doubles. -/
def distance : UnpackedFloat → Int
  | .notANumber => 0
  | .zero _ => 0
  | .finite _ mantissa exponent _ => (exponent + 1074) * 2 ^ 52 + mantissa
  | .infinity _ => 2047 * 2 ^ 52

/-- The sign of a double, which zeros and infinities have too. -/
def side : UnpackedFloat → Sign
  | .notANumber => .positive
  | .zero sign | .finite sign _ _ _ | .infinity sign => sign

/-- The distance from zero, downwards if the sign is negative. -/
def position (x : UnpackedFloat) : Int :=
  match side x with
  | .negative => -distance x
  | .positive => distance x

/-! ## The bits of a double -/

/-- The value of the bit that a sign is stored as. -/
def bitOf : Sign → Nat
  | .negative => 1
  | .positive => 0

theorem bitOf_ofBitVec (bit : BitVec 1) : bitOf (Sign.ofBitVec bit) = bit.toNat := by
  have single : bit.toNat < 2 := bit.isLt
  unfold Sign.ofBitVec
  by_cases clear : bit = 0#1
  · rw [if_pos clear, clear]
    rfl
  · have set : bit.toNat ≠ 0 := fun zero => clear (BitVec.eq_of_toNat_eq zero)
    rw [if_neg clear]
    change 1 = bit.toNat
    omega

theorem distance_within (x : Float.Model) :
    0 ≤ distance x.unpack ∧ distance x.unpack ≤ 2047 * 2 ^ 52 := by
  cases unpacked : x.unpack with
  | notANumber =>
      change (0 : Int) ≤ 0 ∧ (0 : Int) ≤ 2047 * 2 ^ 52
      omega
  | zero =>
      change (0 : Int) ≤ 0 ∧ (0 : Int) ≤ 2047 * 2 ^ 52
      omega
  | infinity =>
      change (0 : Int) ≤ 2047 * 2 ^ 52 ∧ (2047 * 2 ^ 52 : Int) ≤ 2047 * 2 ^ 52
      omega
  | finite sign mantissa exponent positive =>
      obtain ⟨digits, _, least, greatest⟩ := fits_of_unpack unpacked
      change 0 ≤ (exponent + 1074) * 2 ^ 52 + (mantissa : Int) ∧
        (exponent + 1074) * 2 ^ 52 + (mantissa : Int) ≤ 2047 * 2 ^ 52
      omega

theorem toNat_bits {x : Float.Model} (number : x.unpack.isNaN = false) :
    (x.toBits.toNat : Int) = bitOf (side x.unpack) * 2 ^ 63 + distance x.unpack := by
  change (x.toBits.toBitVec.toNat : Int) = _
  have whole : x.toBits.toBitVec.toNat < 2 ^ 64 := x.toBits.toBitVec.isLt
  change (UnpackedFloat.unpack Format.binary64 x.toBits.toBitVec).isNaN = false at number
  change _ = (bitOf (side (UnpackedFloat.unpack Format.binary64 x.toBits.toBitVec)) : Int) * _ +
    distance (UnpackedFloat.unpack Format.binary64 x.toBits.toBitVec)
  generalize x.toBits.toBitVec = bits at whole number ⊢
  unfold UnpackedFloat.unpack at number ⊢
  extract_lets stored place lifted signBit sign
  extract_lets at number
  have stored_eq : stored.toNat = bits.toNat % 2 ^ 52 := by
    change (BitVec.extractLsb 51 0 bits).toNat = _
    rw [BitVec.extractLsb_toNat]
    simp
  have place_eq : place.toNat = bits.toNat / 2 ^ 52 % 2 ^ 11 := by
    change (BitVec.extractLsb 62 52 bits).toNat = _
    rw [BitVec.extractLsb_toNat, Nat.shiftRight_eq_div_pow]
  have sign_eq : bitOf sign = bits.toNat / 2 ^ 63 % 2 := by
    change bitOf (Sign.ofBitVec (BitVec.extractLsb 63 63 bits)) = _
    rw [bitOf_ofBitVec, BitVec.extractLsb_toNat, Nat.shiftRight_eq_div_pow]
  have lifted_eq : lifted = (place.toNat : Int) - 1075 := rfl
  by_cases top : place = -1#11
  · rw [if_pos top] at number ⊢
    have top_eq : place.toNat = 2047 := congrArg BitVec.toNat top
    by_cases bare : stored = 0#52
    · rw [if_pos bare]
      have bare_eq : stored.toNat = 0 := congrArg BitVec.toNat bare
      change _ = (bitOf sign : Int) * _ + 2047 * 2 ^ 52
      omega
    · rw [if_neg bare] at number
      cases number
  · rw [if_neg top]
    by_cases bottom : place = 0#11
    · rw [if_pos bottom]
      have bottom_eq : place.toNat = 0 := congrArg BitVec.toNat bottom
      by_cases bare : stored = 0#52
      · rw [dif_pos bare]
        have bare_eq : stored.toNat = 0 := congrArg BitVec.toNat bare
        change _ = (bitOf sign : Int) * _ + 0
        omega
      · rw [dif_neg bare]
        change _ = (bitOf sign : Int) * _ + ((lifted + 1 + 1074) * 2 ^ 52 + stored.toNat)
        omega
    · rw [if_neg bottom]
      have mantissa_eq := toNat_leading stored
      change _ = (bitOf sign : Int) * _ +
        ((lifted + 1074) * 2 ^ 52 + ((1#1 ++ stored).toNat : Nat))
      omega

/-- The key of the total order is the position, one further down if the sign is
negative. -/
theorem orderKey_cases {x : Float} (number : x.isNaN = false) :
    side x.toModel.unpack = .negative ∧ position x.toModel.unpack = -distance x.toModel.unpack ∧
        Binary.orderKey x = -distance x.toModel.unpack - 1 ∨
      side x.toModel.unpack = .positive ∧ position x.toModel.unpack = distance x.toModel.unpack ∧
        Binary.orderKey x = distance x.toModel.unpack := by
  have bits := toNat_bits (x := x.toModel) number
  obtain ⟨notBelow, notAbove⟩ := distance_within x.toModel
  have signBit_eq : Binary.signBit = 2 ^ 63 := rfl
  have key_eq : Binary.orderKey x = if Binary.signBit ≤ x.toModel.toBits.toNat then
      -((x.toModel.toBits.toNat - Binary.signBit : Nat) : Int) - 1
      else (x.toModel.toBits.toNat : Int) := rfl
  unfold position
  cases signed : side x.toModel.unpack with
  | negative =>
      rw [signed] at bits
      change _ = ((1 : Nat) : Int) * 2 ^ 63 + _ at bits
      refine .inl ⟨rfl, rfl, ?_⟩
      rw [key_eq, if_pos (by omega)]
      omega
  | positive =>
      rw [signed] at bits
      change _ = ((0 : Nat) : Int) * 2 ^ 63 + _ at bits
      refine .inr ⟨rfl, rfl, ?_⟩
      rw [key_eq, if_neg (by omega)]
      omega

/-! ## Comparisons -/

section Finite

variable {mantissa digits : Nat} {exponent place : Int} (sign other : Sign)
  (positive : 0 < mantissa) (nonzero : 0 < digits)

theorem distance_finite (fits : Fits mantissa exponent) :
    0 < distance (.finite sign mantissa exponent positive) ∧
      distance (.finite sign mantissa exponent positive) < 2047 * 2 ^ 52 := by
  obtain ⟨digits, _, least, greatest⟩ := fits
  change 0 < (exponent + 1074) * 2 ^ 52 + (mantissa : Int) ∧
    (exponent + 1074) * 2 ^ 52 + (mantissa : Int) < 2047 * 2 ^ 52
  omega

/-- The distance counts exponents first, since a mantissa that is not full has
the least exponent. -/
theorem places_eq_compare (fits : Fits mantissa exponent) (otherFits : Fits digits place) :
    (compare exponent place).then (compare mantissa digits) =
      compare (distance (.finite sign mantissa exponent positive))
        (distance (.finite other digits place nonzero)) := by
  obtain ⟨bounded, full, least, greatest⟩ := fits
  obtain ⟨otherBounded, otherFull, otherLeast, otherGreatest⟩ := otherFits
  change _ = compare ((exponent + 1074) * 2 ^ 52 + (mantissa : Int))
    ((place + 1074) * 2 ^ 52 + (digits : Int))
  rcases lt_trichotomy exponent place with below | rfl | above
  · rw [compare_lt_iff_lt.mpr below, eq_comm]
    exact compare_lt_iff_lt.mpr (by omega)
  · rw [compare_eq_iff_eq.mpr rfl]
    change compare mantissa digits = _
    rcases lt_trichotomy mantissa digits with below | rfl | above
    · rw [compare_lt_iff_lt.mpr below, eq_comm]
      exact compare_lt_iff_lt.mpr (by omega)
    · rw [compare_eq_iff_eq.mpr rfl, compare_eq_iff_eq.mpr rfl]
    · rw [compare_gt_iff_gt.mpr above, eq_comm]
      exact compare_gt_iff_gt.mpr (by omega)
  · rw [compare_gt_iff_gt.mpr above, eq_comm]
    exact compare_gt_iff_gt.mpr (by omega)

end Finite

theorem compare_neg (m n : Int) : compare (-m) (-n) = (compare m n).swap := by
  rcases lt_trichotomy m n with below | rfl | above
  · rw [compare_lt_iff_lt.mpr below]
    exact compare_gt_iff_gt.mpr (by omega)
  · rw [compare_eq_iff_eq.mpr rfl, compare_eq_iff_eq.mpr rfl]
    rfl
  · rw [compare_gt_iff_gt.mpr above]
    exact compare_lt_iff_lt.mpr (by omega)

theorem position_within {x : Float.Model} (bounded : ∀ sign, x.unpack ≠ .infinity sign) :
    -(2047 * 2 ^ 52) < position x.unpack ∧ position x.unpack < 2047 * 2 ^ 52 := by
  cases unpacked : x.unpack with
  | notANumber => decide
  | infinity sign => exact absurd unpacked (bounded sign)
  | zero sign => cases sign <;> decide
  | finite sign mantissa exponent positive =>
      obtain ⟨away, within⟩ := distance_finite sign positive (fits_of_unpack unpacked)
      cases sign with
      | negative => exact ⟨Int.neg_lt_neg within, (Int.neg_neg_of_pos away).trans (by decide)⟩
      | positive => exact ⟨Int.lt_trans (by decide) away, within⟩

/-- Numbers are compared by their positions. -/
theorem compare_eq_compare_position {x y : Float.Model} (xNumber : x.unpack.isNaN = false)
    (yNumber : y.unpack.isNaN = false) :
    x.unpack.compare y.unpack = some (compare (position x.unpack) (position y.unpack)) := by
  have below : ∀ {m n : Int}, m < n → some Ordering.lt = some (compare m n) :=
    fun less => congrArg some (compare_lt_iff_lt.mpr less).symm
  have above : ∀ {m n : Int}, n < m → some Ordering.gt = some (compare m n) :=
    fun greater => congrArg some (compare_gt_iff_gt.mpr greater).symm
  cases unpacked : x.unpack with
  | notANumber =>
      rw [unpacked] at xNumber
      cases xNumber
  | infinity sign =>
      cases otherUnpacked : y.unpack with
      | notANumber =>
          rw [otherUnpacked] at yNumber
          cases yNumber
      | infinity other => cases sign <;> cases other <;> rfl
      | zero other => cases sign <;> cases other <;> rfl
      | finite other digits place nonzero =>
          have within := position_within (x := y) (by rw [otherUnpacked]; nofun)
          rw [otherUnpacked] at within
          cases sign with
          | negative => exact below within.1
          | positive => exact above within.2
  | zero sign =>
      cases otherUnpacked : y.unpack with
      | notANumber =>
          rw [otherUnpacked] at yNumber
          cases yNumber
      | infinity other => cases sign <;> cases other <;> rfl
      | zero other => cases sign <;> cases other <;> rfl
      | finite other digits place nonzero =>
          have away := (distance_finite other nonzero (fits_of_unpack otherUnpacked)).1
          have zero_eq : position (.zero sign) = 0 := by cases sign <;> rfl
          rw [zero_eq]
          cases other with
          | negative => exact above (Int.neg_neg_of_pos away)
          | positive => exact below away
  | finite sign mantissa exponent positive =>
      have fits := fits_of_unpack unpacked
      have away := (distance_finite sign positive fits).1
      cases otherUnpacked : y.unpack with
      | notANumber =>
          rw [otherUnpacked] at yNumber
          cases yNumber
      | infinity other =>
          have within := position_within (x := x) (by rw [unpacked]; nofun)
          rw [unpacked] at within
          cases sign <;> cases other
          · exact above within.1
          · exact below within.2
          · exact above within.1
          · exact below within.2
      | zero other =>
          have zero_eq : position (.zero other) = 0 := by cases other <;> rfl
          rw [zero_eq]
          cases sign with
          | negative => exact below (Int.neg_neg_of_pos away)
          | positive => exact above away
      | finite other digits place nonzero =>
          have otherFits := fits_of_unpack otherUnpacked
          have otherAway := (distance_finite other nonzero otherFits).1
          have places := places_eq_compare sign other positive nonzero fits otherFits
          cases sign <;> cases other
          · change some (Ordering.swap _) = some (compare (-distance _) (-distance _))
            rw [places, compare_neg]
          · exact below ((Int.neg_neg_of_pos away).trans otherAway)
          · exact above ((Int.neg_neg_of_pos otherAway).trans away)
          · exact congrArg some places

section Numbers

variable {x y : Float}

theorem le_iff_position (xNumber : x.isNaN = false) (yNumber : y.isNaN = false) :
    x ≤ y ↔ position x.toModel.unpack ≤ position y.toModel.unpack := by
  rw [LawfulOrder.float_le_iff, compare_eq_compare_position xNumber yNumber]
  exact Std.isLE_compare

theorem beq_iff_position (xNumber : x.isNaN = false) (yNumber : y.isNaN = false) :
    (x == y) = true ↔ position x.toModel.unpack = position y.toModel.unpack := by
  change (x.toModel.unpack.compare y.toModel.unpack == some .eq) = true ↔ _
  rw [compare_eq_compare_position xNumber yNumber, beq_iff_eq, Option.some.injEq,
    compare_eq_iff_eq]

/-- What the total order does not put above a number is not above it. -/
theorem le_of_order (xNumber : x.isNaN = false) (yNumber : y.isNaN = false)
    (notAbove : (Arithmetic.order x y).isLE = true) : x ≤ y := by
  have keys : Binary.orderKey x ≤ Binary.orderKey y := Std.isLE_compare.mp notAbove
  have away := (distance_within x.toModel).1
  have otherAway := (distance_within y.toModel).1
  rw [le_iff_position xNumber yNumber]
  rcases orderKey_cases xNumber with ⟨_, place, key⟩ | ⟨_, place, key⟩
  · rcases orderKey_cases yNumber with ⟨_, otherPlace, otherKey⟩ | ⟨_, otherPlace, otherKey⟩
    · omega
    · omega
  · rcases orderKey_cases yNumber with ⟨_, otherPlace, otherKey⟩ | ⟨_, otherPlace, otherKey⟩
    · omega
    · omega

theorem eq_of_toBits {x y : Float} (same : x.toBits.toNat = y.toBits.toNat) : x = y := by
  obtain ⟨⟨bits, valid⟩⟩ := x
  obtain ⟨⟨others, otherValid⟩⟩ := y
  obtain rfl : bits = others := UInt64.toNat_inj.mp same
  rfl

/-- A number is known by its sign and its distance from zero. -/
theorem eq_of_distance (xNumber : x.isNaN = false) (yNumber : y.isNaN = false)
    (sameSide : side x.toModel.unpack = side y.toModel.unpack)
    (sameDistance : distance x.toModel.unpack = distance y.toModel.unpack) : x = y := by
  have bits := toNat_bits (x := x.toModel) xNumber
  have otherBits := toNat_bits (x := y.toModel) yNumber
  rw [sameSide, sameDistance, ← otherBits] at bits
  exact eq_of_toBits (Int.ofNat_inj.mp bits)

/-- Equal numbers are equal in the total order, unless they are the two zeros. -/
theorem order_of_beq (xNumber : x.isNaN = false) (yNumber : y.isNaN = false)
    (equal : (x == y) = true) :
    Arithmetic.order x y = .eq ∨ x = -0.0 ∧ y = 0.0 ∨ x = 0.0 ∧ y = -0.0 := by
  have same := (beq_iff_position xNumber yNumber).mp equal
  have away := (distance_within x.toModel).1
  have otherAway := (distance_within y.toModel).1
  have keys : Binary.orderKey x = Binary.orderKey y → Arithmetic.order x y = .eq :=
    compare_eq_iff_eq.mpr
  have negativeZero : ∀ {z : Float}, z.isNaN = false → side z.toModel.unpack = .negative →
      distance z.toModel.unpack = 0 → z = -0.0 :=
    fun number signed none => eq_of_distance number (by decide +kernel) signed none
  have positiveZero : ∀ {z : Float}, z.isNaN = false → side z.toModel.unpack = .positive →
      distance z.toModel.unpack = 0 → z = 0.0 :=
    fun number signed none => eq_of_distance number (by decide +kernel) signed none
  rcases orderKey_cases xNumber with ⟨signed, place, key⟩ | ⟨signed, place, key⟩
  · rcases orderKey_cases yNumber with ⟨otherSigned, otherPlace, otherKey⟩ |
      ⟨otherSigned, otherPlace, otherKey⟩
    · exact .inl (keys (by omega))
    · -- equal in spite of their signs: neither is away from zero
      exact .inr (.inl ⟨negativeZero xNumber signed (by omega),
        positiveZero yNumber otherSigned (by omega)⟩)
  · rcases orderKey_cases yNumber with ⟨otherSigned, otherPlace, otherKey⟩ |
      ⟨otherSigned, otherPlace, otherKey⟩
    · exact .inr (.inr ⟨positiveZero xNumber signed (by omega),
        negativeZero yNumber otherSigned (by omega)⟩)
    · exact .inl (keys (by omega))

end Numbers

end Double

end DailySignals
