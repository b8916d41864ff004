import Mathlib
import VpnDirectory.Number.Binary64

/-!
# Doubles far from zero

Rounding does not take a number below a power of two that it has reached, because powers of two are
doubles. This is all that has to be known of arithmetic on doubles where a number is only compared
with the bounds of a range of whole numbers.

* `Binary64.Beyond` : a double is infinite, or at least so large a power of two, on the side of its
  sign. Products and opposites of such doubles are beyond as well (`Beyond.mul`, `Beyond.neg`).
* `Binary64.beyond_ofScientific` : so is the double that is nearest to a decimal.
* `Binary64.parts_eq_ofUnpacked` : sign, significand and exponent are those that arithmetic works
  on.
* `Binary64.truncate_of_beyond` : without its fraction such a double is a bound of the range.
-/

namespace VpnDirectory.Binary64

open Float.Model (Format UnpackedFloat totalExponent)
open Float.Model.UnpackedFloat

/-! ### Binary digits -/

theorem le_log2_iff {n k : Nat} (hn : n ≠ 0) : k ≤ n.log2 ↔ pow2 k ≤ n := Nat.le_log2 hn

theorem log2_div_two (n : Nat) : (n / 2).log2 = n.log2 - 1 := by
  rw [Nat.log2_def n]
  split
  · rw [Nat.add_sub_cancel]
  · have hzero : n / 2 = 0 := by omega
    rw [hzero, Nat.log2_zero]

theorem log2_div_pow2 (n k : Nat) : (n / pow2 k).log2 = n.log2 - k := by
  induction k with
  | zero => exact congrArg Nat.log2 (Nat.div_one n)
  | succ k ih =>
    rw [pow2_succ, Nat.mul_comm, ← Nat.div_div_eq_div_mul, log2_div_two, ih, Nat.sub_sub]

theorem le_log2_mul {m n j k : Nat} (hm : m ≠ 0) (hn : n ≠ 0) (hj : j ≤ m.log2)
    (hk : k ≤ n.log2) : j + k ≤ (m * n).log2 := by
  rw [le_log2_iff hm] at hj
  rw [le_log2_iff hn] at hk
  rw [le_log2_iff (Nat.mul_ne_zero hm hn)]
  calc pow2 (j + k) = pow2 j * pow2 k := Nat.pow_add 2 j k
    _ ≤ m * n := Nat.mul_le_mul hj hk

theorem add_le_log2_shiftLeft {n : Nat} (hn : n ≠ 0) (k : Nat) :
    n.log2 + k ≤ (n <<< k).log2 := by
  rw [Nat.shiftLeft_eq]
  exact le_log2_mul hn (Nat.ne_of_gt (Nat.two_pow_pos k)) (Nat.le_refl _)
    (Nat.le_of_eq Nat.log2_two_pow.symm)

theorem shiftLeft_ne_zero {n : Nat} (hn : n ≠ 0) (k : Nat) : n <<< k ≠ 0 := by
  rw [Nat.shiftLeft_eq]
  exact Nat.mul_ne_zero hn (Nat.ne_of_gt (Nat.two_pow_pos k))

/-! ### Rounding -/

/-- The number is infinite, or a normal one of at least `2 ^ k`, and has the sign. -/
inductive Far (k : Nat) (s : Sign) : UnpackedFloat → Prop
  | infinity : Far k s (.infinity s)
  | finite {m : Nat} {e : Int} (hpos : 0 < m) (hm : m.log2 = 52) (he : (k : Int) ≤ 52 + e) :
    Far k s (.finite s m e hpos)

theorem Far.mono {j k : Nat} {s : Sign} {u : UnpackedFloat} (h : Far k s u) (hjk : j ≤ k) :
    Far j s u := by
  cases h with
  | infinity => exact .infinity
  | finite hpos hm he => exact .finite hpos hm (by omega)

instance decidableFar (k : Nat) (s : Sign) (u : UnpackedFloat) : Decidable (Far k s u) :=
  match s, u with
  | .negative, .infinity .negative => isTrue .infinity
  | .positive, .infinity .positive => isTrue .infinity
  | .negative, .infinity .positive => isFalse nofun
  | .positive, .infinity .negative => isFalse nofun
  | _, .notANumber => isFalse nofun
  | _, .zero _ => isFalse nofun
  | .negative, .finite .positive .. => isFalse nofun
  | .positive, .finite .negative .. => isFalse nofun
  | .negative, .finite .negative m e hpos =>
    if h : m.log2 = 52 ∧ (k : Int) ≤ 52 + e then isTrue (.finite hpos h.1 h.2)
    else isFalse fun | .finite _ hm he => h ⟨hm, he⟩
  | .positive, .finite .positive m e hpos =>
    if h : m.log2 = 52 ∧ (k : Int) ≤ 52 + e then isTrue (.finite hpos h.1 h.2)
    else isFalse fun | .finite _ hm he => h ⟨hm, he⟩

theorem mantissa_shiftRight (em : ExtendedMantissa) (n : Nat) :
    (em >>> n).mantissa = em.mantissa / pow2 n := by
  induction n with
  | zero => exact (Nat.div_one _).symm
  | succ n ih =>
    change (em >>> n).mantissa / 2 = _
    rw [ih, Nat.div_div_eq_div_mul, pow2_succ, Nat.mul_comm]

theorem mantissa_le_roundedMantissa (em : ExtendedMantissa) :
    em.mantissa ≤ em.roundedMantissa := by
  obtain ⟨m, roundBit, stickyBit⟩ := em
  cases roundBit <;> cases stickyBit <;>
    simp [ExtendedMantissa.roundedMantissa, ExtendedMantissa.accuracy, Accuracy.roundToNearestEven]

/-- A significand of 53 digits or more is cut to 53, and the exponent makes up for the rest. -/
theorem shiftToTargetExponent_eq {m : Nat} {e : Int} (a : Accuracy) (hm : 52 ≤ m.log2)
    (he : -1022 ≤ m.log2 + e) :
    (shiftToTargetExponent .binary64 m e a).1.mantissa = m / pow2 (m.log2 - 52) ∧
      (shiftToTargetExponent .binary64 m e a).2 = e + (m.log2 - 52 : Nat) := by
  have hshift : (Format.binary64.targetExponent (totalExponent m e) - e).toNat =
      m.log2 - 52 := by
    simp only [Format.targetExponent, totalExponent, Format.mantissaBits, Format.minExponent]
    omega
  have hmantissa : (ExtendedMantissa.ofMantissaAndAccuracy m a).mantissa = m := by
    obtain _ | _ | _ | _ := a <;> rfl
  unfold shiftToTargetExponent shiftToExponent
  dsimp only
  rw [hshift, mantissa_shiftRight, hmantissa]
  exact ⟨rfl, rfl⟩

/-- Rounding does not fall below a power of two. -/
theorem far_roundWithAccuracy {k m : Nat} {e : Int} (s : Sign) (a : Accuracy)
    (hm : 52 ≤ m.log2) (hk : (k : Int) ≤ m.log2 + e) :
    Far k s (roundWithAccuracy .binary64 s m e a) := by
  obtain ⟨hmantissa, hexponent⟩ :=
    shiftToTargetExponent_eq a hm (by omega : -1022 ≤ m.log2 + e)
  have hle := mantissa_le_roundedMantissa (shiftToTargetExponent .binary64 m e a).1
  rw [hmantissa] at hle
  unfold roundWithAccuracy
  dsimp only
  rw [hexponent]
  generalize (shiftToTargetExponent .binary64 m e a).1.roundedMantissa = r at hle ⊢
  have hcut := log2_div_pow2 m (m.log2 - 52)
  have hcutne : m / pow2 (m.log2 - 52) ≠ 0 := fun hzero => by
    rw [hzero, Nat.log2_zero] at hcut
    omega
  have hr : 52 ≤ r.log2 := by
    rw [le_log2_iff (by omega)]
    exact Nat.le_trans ((le_log2_iff hcutne).1 (by omega)) hle
  -- the second cut drops the digit that a carry may have added
  obtain ⟨hmantissa', hexponent'⟩ :=
    shiftToTargetExponent_eq (e := e + (m.log2 - 52 : Nat)) .exact hr (by omega)
  have hdigits : (r / pow2 (r.log2 - 52)).log2 = 52 := by
    rw [log2_div_pow2]
    omega
  rw [← hmantissa'] at hdigits
  rw [dif_neg fun hzero => by rw [hzero, Nat.log2_zero] at hdigits; omega]
  refine .finite _ hdigits ?_
  rw [hexponent']
  omega

theorem far_mul {j k : Nat} {s t : Sign} {u v : UnpackedFloat} (hu : Far j s u)
    (hv : Far k t v) : Far (j + k) (s * t) (mul .binary64 u v) := by
  cases hu with
  | infinity => cases hv <;> exact .infinity
  | @finite m e hmpos hm he =>
    cases hv with
    | infinity => exact .infinity
    | @finite n f hnpos hn hf =>
      have hlog : 52 + 52 ≤ (m * n).log2 := le_log2_mul (Nat.ne_of_gt hmpos) (Nat.ne_of_gt hnpos)
        (Nat.le_of_eq hm.symm) (Nat.le_of_eq hn.symm)
      exact far_roundWithAccuracy _ _ (by omega) (by omega)

theorem far_neg {k : Nat} {s : Sign} {u : UnpackedFloat} (hu : Far k s u) :
    Far k (-s) u.neg := by
  cases hu with
  | infinity => exact .infinity
  | finite hpos hm he => exact .finite hpos hm he

theorem far_round {k m : Nat} (s : Sign) (hk : k ≤ m.log2) (hm : m ≠ 0) :
    Far k s (UnpackedFloat.round .binary64 s m 0) := by
  have hshift : (0 - Format.binary64.targetExponent (totalExponent m 0)).toNat =
      52 - m.log2 := by
    simp only [Format.targetExponent, totalExponent, Format.mantissaBits, Format.minExponent]
    omega
  have hlog := add_le_log2_shiftLeft hm (52 - m.log2)
  unfold UnpackedFloat.round
  dsimp only [decreaseExponent]
  rw [hshift]
  exact far_roundWithAccuracy _ _ (by omega) (by omega)

/-! ### Packing -/

/-- The leading digit of a normal number is not written down. -/
theorem toNat_implicit (v : BitVec 52) : (1#1 ++ v).toNat = pow2 52 + v.toNat := by
  rw [BitVec.toNat_append, ← Nat.shiftLeft_add_eq_or_of_lt v.isLt]
  rfl

theorem log2_implicit (v : BitVec 52) : (1#1 ++ v).toNat.log2 = 52 := by
  have hv := v.isLt
  have hpower : pow2 52 = 2 ^ 52 := rfl
  rw [toNat_implicit, Nat.log2_eq_iff (by omega)]
  omega

/-- What is far from zero stays there when it is packed into 64 bits. -/
theorem far_unpack_pack {k : Nat} {s : Sign} {u : UnpackedFloat} (hu : Far k s u) :
    Far k s (Float.Model.pack u).unpack := by
  have hinfinity : UnpackedFloat.unpack .binary64 (packedInfinity .binary64 s) = .infinity s := by
    cases s <;> rfl
  change Far k s (UnpackedFloat.unpack .binary64 (UnpackedFloat.pack .binary64 u))
  cases hu with
  | infinity =>
    rw [UnpackedFloat.pack, hinfinity]
    exact .infinity
  | @finite m e hpos hm he =>
    have hbias : Format.binary64.exponentBias = 1023 := rfl
    have hbits : Format.binary64.mantissaBits = 53 := rfl
    unfold UnpackedFloat.pack
    dsimp only
    rw [hbias, hbits, if_pos (by omega : m.log2 + 1 = 53)]
    generalize hb : (e + (1023 : Nat) + (52 : Nat)).toNat = b
    by_cases hlarge : 2 ^ 11 ≤ b + 1
    · rw [if_pos hlarge, hinfinity]
      exact .infinity
    · rw [if_neg hlarge]
      have hexponent : (BitVec.ofNat 11 b).toNat = b := by
        rw [BitVec.toNat_ofNat, Nat.mod_eq_of_lt (by omega)]
      have hones : BitVec.ofNat 11 b ≠ -1#11 := by
        intro heq
        rw [heq] at hexponent
        have hmax : (-1#11).toNat = 2047 := rfl
        omega
      have hzero : BitVec.ofNat 11 b ≠ 0#11 := by
        intro heq
        rw [heq] at hexponent
        have hmin : (0#11).toNat = 0 := rfl
        omega
      unfold UnpackedFloat.unpack
      simp only [unpackMantissa_packComponents, unpackExponent_packComponents,
        unpackSign_packComponents, Sign.ofBitVec_toBitVec]
      rw [if_neg hones, if_neg hzero, hexponent, hbias]
      refine .finite _ (log2_implicit _) ?_
      have hfraction : ((Format.binary64.mantissaBitsWithoutImplicit : Nat) : Int) = 52 := rfl
      omega

/-! ### Doubles -/

/-- The double is infinite, or at least `2 ^ k`, and has the sign. -/
def Beyond (k : Nat) (s : Sign) (x : Float) : Prop := Far k s x.toModel.unpack

theorem Beyond.mul {j k : Nat} {s t : Sign} {x y : Float} (hx : Beyond j s x)
    (hy : Beyond k t y) : Beyond (j + k) (s * t) (x * y) := far_unpack_pack (far_mul hx hy)

theorem Beyond.neg {k : Nat} {s : Sign} {x : Float} (hx : Beyond k s x) :
    Beyond k (-s) (-x) := far_unpack_pack (far_neg hx)

theorem beyond_infinity (k : Nat) : Beyond k .positive (1 / 0) := by
  have hunpack : (1 / 0 : Float).toModel.unpack = .infinity .positive := rfl
  unfold Beyond
  rw [hunpack]
  exact .infinity

theorem beyond_toFloat {k : Nat} {n : UInt64} (hk : pow2 k ≤ n.toNat) :
    Beyond k .positive n.toFloat := by
  have hne : n.toNat ≠ 0 := Nat.ne_of_gt (Nat.lt_of_lt_of_le (pow2_pos k) hk)
  have hcompare : compare (n.toNat : Int) 0 = .gt := by
    rw [Std.compare_eq_gt]
    omega
  refine far_unpack_pack ?_
  change Far k .positive (UnpackedFloat.normalize .binary64 (n.toNat : Int) 0 .positive)
  unfold UnpackedFloat.normalize
  rw [hcompare]
  exact far_round .positive ((le_log2_iff hne).2 hk) hne

/-- The powers of ten that are looked up. -/
theorem far_exactPower : ∀ e : Fin 23, Far (pow10 e).log2 .positive
    (Float.exactlyRepresentablePowersOfTen[e]).toModel.unpack := by
  decide

/-- The double of a decimal is beyond the powers of two that its two factors have reached. -/
theorem beyond_ofScientific {j k m e : Nat} (hj : pow2 j ≤ m) (hk : pow2 k ≤ pow10 e) :
    Beyond (j + k) .positive (Float.ofScientific m false e) := by
  have hne : m ≠ 0 := Nat.ne_of_gt (Nat.lt_of_lt_of_le (pow2_pos j) hj)
  have hm : j ≤ m.log2 := (le_log2_iff hne).2 hj
  have he : k ≤ (pow10 e).log2 := (le_log2_iff (Nat.ne_of_gt (pow10_pos e))).2 hk
  unfold Float.ofScientific
  rw [if_neg Bool.false_ne_true]
  split
  · -- both factors are doubles
    next h =>
    have htoNat : m.toUInt64.toNat = m := by
      rw [Nat.toUInt64_eq, UInt64.toNat_ofNat', Nat.mod_eq_of_lt (by omega)]
    have hpower := (far_exactPower ⟨e, by omega⟩).mono he
    exact (beyond_toFloat (htoNat.symm ▸ hj)).mul hpower
  · refine far_unpack_pack ?_
    unfold UnpackedFloat.ofScientific
    rw [dif_neg hne]
    by_cases hlarge : Int.ofNat e > 2 ^ Format.binary64.exponentBits
    · rw [if_pos hlarge]
      exact .infinity
    · have hnonneg : 0 ≤ Int.ofNat e := Int.natCast_nonneg e
      have hsmall : ¬ Int.ofNat e < -((2 ^ Format.binary64.exponentBits : Int) + m.log2) := by
        have hbits : (2 ^ Format.binary64.exponentBits : Int) = 2048 := rfl
        omega
      rw [if_neg hlarge, if_neg hsmall, if_pos hnonneg]
      have hbits : Format.binary64.mantissaBits = 53 := rfl
      have hshift := add_le_log2_shiftLeft hne Format.binary64.mantissaBits
      have hproduct : _ ≤ ((m <<< Format.binary64.mantissaBits) * 10 ^ (Int.ofNat e).toNat).log2 :=
        le_log2_mul (shiftLeft_ne_zero hne _) (Nat.ne_of_gt (pow10_pos e)) hshift he
      exact far_roundWithAccuracy _ _ (by omega) (by omega)

/-! ### Parts -/

/-- Is the sign minus? -/
def isMinus : Sign → Bool
  | .negative => true
  | .positive => false

/-- The parts of an unpacked number; zero has the smallest exponent. -/
def Parts.ofUnpacked : UnpackedFloat → Parts
  | .notANumber => .nan
  | .infinity s => .infinite (isMinus s)
  | .zero s => .finite (isMinus s) 0 minExponent
  | .finite s m e _ => .finite (isMinus s) m e

theorem toNat_unpackExponent (b : BitVec 64) :
    (@unpackExponent .binary64 b).toNat = b.toNat / pow2 52 % pow2 11 := by
  unfold unpackExponent
  rw [BitVec.toNat_cast, BitVec.extractLsb_toNat, Nat.shiftRight_eq_div_pow]
  rfl

theorem toNat_unpackMantissa (b : BitVec 64) :
    (@unpackMantissa .binary64 b).toNat = b.toNat % pow2 52 := by
  unfold unpackMantissa
  rw [BitVec.toNat_cast, BitVec.extractLsb_toNat, Nat.shiftRight_zero]
  rfl

theorem isMinus_unpackSign (b : BitVec 64) :
    isMinus (Sign.ofBitVec (@unpackSign .binary64 b)) = decide (pow2 63 ≤ b.toNat) := by
  have hb := b.isLt
  have hpower : pow2 63 = 2 ^ 63 := rfl
  have hsign : (@unpackSign .binary64 b).toNat = b.toNat / pow2 63 := by
    unfold unpackSign
    rw [BitVec.toNat_cast, BitVec.extractLsb_toNat, Nat.shiftRight_eq_div_pow]
    change b.toNat / 2 ^ 63 % 2 = b.toNat / 2 ^ 63
    omega
  have hplus : @unpackSign .binary64 b = 0#1 ↔ ¬ pow2 63 ≤ b.toNat := by
    rw [← BitVec.toNat_inj, hsign, hpower]
    change _ = 0 ↔ _
    omega
  unfold Sign.ofBitVec
  by_cases hle : pow2 63 ≤ b.toNat
  · rw [if_neg fun h => hplus.1 h hle, decide_eq_true hle]
    rfl
  · rw [if_pos (hplus.2 hle), decide_eq_false hle]
    rfl

/-- The parts of a double are those that arithmetic on doubles works on. -/
theorem parts_eq_ofUnpacked (x : Float) : parts x = .ofUnpacked x.toModel.unpack := by
  have hexponent : _ = x.toBits.toNat / pow2 52 % pow2 11 := toNat_unpackExponent x.toBits.toBitVec
  have hmantissa : _ = x.toBits.toNat % pow2 52 := toNat_unpackMantissa x.toBits.toBitVec
  have hsign : _ = decide (pow2 63 ≤ x.toBits.toNat) := isMinus_unpackSign x.toBits.toBitVec
  have hones : @unpackExponent .binary64 x.toBits.toBitVec = -1#11 ↔
      x.toBits.toNat / pow2 52 % pow2 11 = pow2 11 - 1 := by
    rw [← hexponent]
    exact BitVec.toNat_inj.symm
  have hzero : @unpackExponent .binary64 x.toBits.toBitVec = 0#11 ↔
      x.toBits.toNat / pow2 52 % pow2 11 = 0 := by
    rw [← hexponent]
    exact BitVec.toNat_inj.symm
  have hnone : @unpackMantissa .binary64 x.toBits.toBitVec = 0#52 ↔
      x.toBits.toNat % pow2 52 = 0 := by
    rw [← hmantissa]
    exact BitVec.toNat_inj.symm
  change parts x = .ofUnpacked (UnpackedFloat.unpack .binary64 x.toBits.toBitVec)
  unfold parts partsOf UnpackedFloat.unpack
  dsimp only
  by_cases hall : x.toBits.toNat / pow2 52 % pow2 11 = pow2 11 - 1
  · rw [if_pos hall, if_pos (hones.2 hall)]
    by_cases hfraction : x.toBits.toNat % pow2 52 = 0
    · rw [if_pos hfraction, if_pos (hnone.2 hfraction), Parts.ofUnpacked, hsign]
    · rw [if_neg hfraction, if_neg (mt hnone.1 hfraction), Parts.ofUnpacked]
  · rw [if_neg hall, if_neg (mt hones.1 hall)]
    by_cases hbiased : x.toBits.toNat / pow2 52 % pow2 11 = 0
    · rw [if_pos hbiased, if_pos (hzero.2 hbiased)]
      by_cases hfraction : x.toBits.toNat % pow2 52 = 0
      · rw [dif_pos (hnone.2 hfraction), Parts.ofUnpacked, hsign, hfraction]
      · rw [dif_neg (mt hnone.1 hfraction), Parts.ofUnpacked, hsign, hexponent, hmantissa, hbiased]
        rfl
    · rw [if_neg hbiased, if_neg (mt hzero.1 hbiased), Parts.ofUnpacked, hsign, hexponent,
        toNat_implicit, hmantissa]
      congr 1
      change minExponent + _ = _ - ((1023 : Nat) + (52 : Nat) : Int)
      rw [minExponent]
      omega

/-! ### Whole numbers -/

/-- Dropping the fraction does not fall below a power of two either. -/
theorem pow2_le_wholePart {k m : Nat} {e : Int} (hm : m.log2 = 52) (he : (k : Int) ≤ 52 + e) :
    pow2 k ≤ wholePart m e := by
  have hne : m ≠ 0 := fun hzero => by simp [hzero] at hm
  unfold wholePart
  split
  · have hpos := Nat.ne_of_gt (pow2_pos e.toNat)
    have hlog := le_log2_mul hne hpos (Nat.le_of_eq hm.symm) (Nat.le_of_eq Nat.log2_two_pow.symm)
    rw [← le_log2_iff (Nat.mul_ne_zero hne hpos)]
    omega
  · have hlog := log2_div_pow2 m (-e).toNat
    have hle : pow2 (-e).toNat ≤ m := (le_log2_iff hne).1 (by omega)
    rw [← le_log2_iff (Nat.ne_of_gt (Nat.div_pos hle (pow2_pos _)))]
    omega

/-- A double beyond the bounds of a range becomes one of them. -/
theorem truncate_of_beyond {k : Nat} {s : Sign} {x : Float} {lo hi : Int} (h : Beyond k s x)
    (hlo : -(pow2 k : Int) ≤ lo) (hle : lo ≤ hi) (hhi : hi ≤ pow2 k) :
    truncate lo hi x = if isMinus s then lo else hi := by
  unfold Beyond at h
  unfold truncate
  rw [parts_eq_ofUnpacked]
  generalize x.toModel.unpack = u at h ⊢
  cases h with
  | infinity => rfl
  | @finite m e hpos hm he =>
    have hwhole := pow2_le_wholePart hm he
    simp only [Parts.ofUnpacked]
    cases isMinus s <;> simp only [if_true, if_false, Bool.false_eq_true] <;> omega

end VpnDirectory.Binary64
