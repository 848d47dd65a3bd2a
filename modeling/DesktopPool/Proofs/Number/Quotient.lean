import Mathlib
import DesktopPool.Value.Number

/-! Quotients of whole numbers rounded to doubles. `nearest` scales `n / s` by a power of two
so that the whole part has 53 bits (fewer only at the least exponent), rounds it half to even,
folds a carry out of 53 bits back, and writes the bits of the double. Reading those bits back
(`decode_encode`) gives the significand and exponent it wrote, and the ceiling of the value is
the ceiling of the exact quotient as long as `n` has at most 53 bits and `n / s` is not below
half of the least subnormal double (`ceil_nearest`): rounding loses the ceiling only when it
rounds down onto a whole number, which a quotient of at most 52 bits above the point cannot
do. -/
namespace DesktopPool.Binary

open Float.Model

theorem packComponents_toNat (s : UnpackedFloat.Sign) (e : BitVec 11) (m : BitVec 52) :
    (UnpackedFloat.packComponents Format.binary64 s e m).toNat =
      s.toBitVec.toNat * 2 ^ 63 + e.toNat * 2 ^ 52 + m.toNat := by
  have low : m.toNat < 2 ^ 52 := m.isLt
  have mid : e.toNat < 2 ^ 11 := e.isLt
  unfold UnpackedFloat.packComponents
  rw [BitVec.toNat_append, BitVec.toNat_append, ← Nat.shiftLeft_add_eq_or_of_lt mid,
    ← Nat.shiftLeft_add_eq_or_of_lt low, Nat.shiftLeft_eq, Nat.shiftLeft_eq]
  ring

theorem sign_toBitVec_ofBitVec (b : BitVec 1) : (UnpackedFloat.Sign.ofBitVec b).toBitVec = b := by
  unfold UnpackedFloat.Sign.ofBitVec
  split
  · next zero => rw [zero]; rfl
  · next one =>
    have set : b.toNat ≠ 0 := fun z => one (BitVec.eq_of_toNat_eq (by simpa using z))
    have bit : b = 1#1 := BitVec.eq_of_toNat_eq (by have := b.isLt; simp; omega)
    rw [bit]; rfl

/-! The three fields of a double's bits, read as numbers. -/

section Fields

variable (u : BitVec 64)

theorem unpackSign_toNat : (@UnpackedFloat.unpackSign Format.binary64 u).toNat = u.toNat / 2 ^ 63 % 2 := by
  simp [UnpackedFloat.unpackSign, BitVec.extractLsb_toNat, Nat.shiftRight_eq_div_pow]

theorem unpackExponent_toNat :
    (@UnpackedFloat.unpackExponent Format.binary64 u).toNat = u.toNat / 2 ^ 52 % 2048 := by
  simp [UnpackedFloat.unpackExponent, BitVec.extractLsb_toNat, Nat.shiftRight_eq_div_pow]

theorem unpackMantissa_toNat :
    (@UnpackedFloat.unpackMantissa Format.binary64 u).toNat = u.toNat % 2 ^ 52 := by
  simp [UnpackedFloat.unpackMantissa, BitVec.extractLsb_toNat]

end Fields

/-- Reading a double's bits back gives them, unless they spell a not-a-number, which reading
makes canonical. -/
theorem toBits_ofBits (u : UInt64) (finite : u.toNat / 2 ^ 52 % 2048 ≠ 2047) :
    (Float.ofBits u).toBits = u := by
  show UInt64.ofBitVec (UnpackedFloat.pack Format.binary64
    (UnpackedFloat.unpack Format.binary64 u.toBitVec)) = u
  have bits : u.toNat < 2 ^ 64 := u.toBitVec.isLt
  have sign := unpackSign_toNat u.toBitVec
  have expo := unpackExponent_toNat u.toBitVec
  have mant := unpackMantissa_toNat u.toBitVec
  simp only [UInt64.toNat_toBitVec] at sign expo mant
  have notAll : @UnpackedFloat.unpackExponent Format.binary64 u.toBitVec ≠ -1#11 := by
    intro all
    have same := congrArg BitVec.toNat all
    rw [expo] at same
    simp at same
    omega
  have mantissaBits : Format.binary64.mantissaBits = 53 := rfl
  have bias : Format.binary64.exponentBias = 1023 := rfl
  apply UInt64.toBitVec_inj.mp
  apply BitVec.eq_of_toNat_eq
  unfold UnpackedFloat.unpack
  rw [if_neg notAll]
  split
  · next zeroExp =>
    have e0 := congrArg BitVec.toNat zeroExp
    rw [expo] at e0
    simp at e0
    split
    · -- a zero of either sign
      next zeroMant =>
      have m0 := congrArg BitVec.toNat zeroMant
      rw [mant] at m0
      simp at m0
      simp only [UnpackedFloat.pack, UnpackedFloat.packedZero, packComponents_toNat, sign_toBitVec_ofBitVec, sign]
      simp
      omega
    · -- a subnormal number
      next nonzero =>
      have m0 : u.toNat % 2 ^ 52 ≠ 0 :=
        fun z => nonzero (BitVec.eq_of_toNat_eq (by rw [mant]; simpa using z))
      have small : (u.toNat % 2 ^ 52).log2 < 52 := by
        rw [Nat.log2_lt m0]
        omega
      unfold UnpackedFloat.pack
      simp only [mant, expo, mantissaBits, bias]
      rw [if_neg (by omega), if_neg (by omega), packComponents_toNat, sign_toBitVec_ofBitVec, sign]
      simp
      omega
  · -- a normal number
    next nonzeroExp =>
    have e0 : u.toNat / 2 ^ 52 % 2048 ≠ 0 :=
      fun z => nonzeroExp (BitVec.eq_of_toNat_eq (by rw [expo]; simpa using z))
    have whole : (1#1 ++ @UnpackedFloat.unpackMantissa Format.binary64 u.toBitVec).toNat =
        2 ^ 52 + u.toNat % 2 ^ 52 := by
      rw [BitVec.toNat_append, ← Nat.shiftLeft_add_eq_or_of_lt (BitVec.isLt _), mant, Nat.shiftLeft_eq]
      simp
    have lead : (2 ^ 52 + u.toNat % 2 ^ 52).log2 = 52 := by
      rw [Nat.log2_eq_iff (by omega)]
      omega
    unfold UnpackedFloat.pack
    simp only [whole, expo, lead, mantissaBits, bias]
    rw [if_neg (by omega), if_pos trivial, packComponents_toNat, sign_toBitVec_ofBitVec, sign]
    simp
    omega

/-- The bits of the positive double `t * 2^q`, as rounding writes them: a significand of 53
bits with the exponent biased by 1075, or a smaller significand with the least exponent. -/
def encode (t : Nat) (q : Int) : Nat :=
  if t ≥ Nat.pow 2 52 then (q + 1075).toNat * Nat.pow 2 52 + (t - Nat.pow 2 52) else t

/-- A double is taken apart into the significand and exponent it was written with. -/
theorem decode_encode {t : Nat} {q : Int} (pos : 0 < t) (wide : t < 2 ^ 53) (low : -1074 ≤ q)
    (high : q ≤ 971) (sub : t < 2 ^ 52 → q = -1074) :
    decode (Float.ofBits (encode t q).toUInt64) = .finite false t q := by
  have fits : encode t q < 2 ^ 63 := by
    unfold encode
    simp only [Nat.pow_eq]
    split <;> omega
  have exact : (encode t q).toUInt64.toNat = encode t q := UInt64.toNat_ofNat_of_lt' (by
    show encode t q < 2 ^ 64
    omega)
  have finite : (encode t q).toUInt64.toNat / 2 ^ 52 % 2048 ≠ 2047 := by
    rw [exact]
    unfold encode
    simp only [Nat.pow_eq]
    split <;> omega
  unfold decode
  simp only [toBits_ofBits _ finite, exact, Nat.pow_eq]
  unfold encode
  simp only [Nat.pow_eq]
  split
  · next normal =>
    -- the biased exponent lies strictly between the codes of subnormals and of infinities
    have biased : ((q + 1075).toNat * 2 ^ 52 + (t - 2 ^ 52)) / 2 ^ 52 % 2048 = (q + 1075).toNat := by
      omega
    have frac : ((q + 1075).toNat * 2 ^ 52 + (t - 2 ^ 52)) % 2 ^ 52 = t - 2 ^ 52 := by omega
    have sign : ((q + 1075).toNat * 2 ^ 52 + (t - 2 ^ 52)) / 2 ^ 63 % 2 = 0 := by omega
    have notInf : (q + 1075).toNat ≠ 2047 := by omega
    have notSub : (q + 1075).toNat ≠ 0 := by omega
    have whole : t - 2 ^ 52 + 2 ^ 52 = t := by omega
    have power : ((q + 1075).toNat : Int) - 1075 = q := by omega
    simp only [biased, frac, sign, notInf, notSub, beq_iff_eq, if_false, whole, power]
    rfl
  · next small =>
    have zero : t / 2 ^ 52 % 2048 = 0 := by omega
    have frac : t % 2 ^ 52 = t := by omega
    have sign : t / 2 ^ 63 % 2 = 0 := by omega
    have nonzero : t ≠ 0 := by omega
    simp only [zero, frac, sign, nonzero, beq_iff_eq, if_true, if_false,
      show (0 : Nat) ≠ 2047 by decide]
    rw [sub (by omega)]
    rfl

section Scaling

variable {num den : Nat}

theorem scaled_of_nonpos (q : Int) (nonpos : q ≤ 0) :
    num * 2 ^ q.natAbs = (scaled num den q).1 * den + (scaled num den q).2.1 ∧
      (scaled num den q).2.2 = den := by
  unfold scaled
  by_cases neg : q < 0
  · simp only [neg, if_true, Nat.pow_eq]
    exact ⟨(Nat.div_add_mod' _ _).symm, trivial⟩
  · have zero : q.natAbs = 0 := by omega
    simp only [neg, if_false, zero, Nat.pow_eq, pow_zero, mul_one]
    exact ⟨(Nat.div_add_mod' _ _).symm, trivial⟩

theorem scaled_remainder_lt (q : Int) (pos : 0 < den) :
    (scaled num den q).2.1 < (scaled num den q).2.2 := by
  unfold scaled
  apply Nat.mod_lt
  split <;> simp [Nat.pow_eq, pos]

/-- The quotient `scaled` gives is the floor of `num / (den * 2^q)`. -/
theorem scaled_floor (q : Int) :
    ((scaled num den q).1 : Int) = ⌊(num : ℚ) / (den * 2 ^ q)⌋ := by
  unfold scaled
  by_cases neg : q < 0
  · obtain ⟨k, rfl⟩ : ∃ k : Nat, q = -(k : Int) := ⟨q.natAbs, by omega⟩
    have exact : (num : ℚ) / (den * 2 ^ (-(k : Int))) = ((num * 2 ^ k : Nat) : ℚ) / (den : Nat) := by
      rw [zpow_neg, zpow_natCast, div_mul_eq_div_div, div_inv_eq_mul]
      push_cast
      ring
    simp only [neg, if_true, Nat.pow_eq, Int.natAbs_neg, Int.natAbs_natCast]
    rw [exact, Rat.floor_natCast_div_natCast]
    rfl
  · obtain ⟨k, rfl⟩ : ∃ k : Nat, q = (k : Int) := ⟨q.natAbs, by omega⟩
    have exact : (num : ℚ) / (den * 2 ^ (k : Int)) = (num : ℚ) / (den * 2 ^ k : Nat) := by
      rw [zpow_natCast]
      push_cast
      rfl
    simp only [neg, if_false, Nat.pow_eq, Int.natAbs_natCast]
    rw [exact, Rat.floor_natCast_div_natCast]
    rfl

end Scaling

section Normal

variable {num den : Nat}

theorem quotient_lt_iff (q : Int) (k : Nat) :
    (scaled num den q).1 < k ↔ (num : ℚ) / (den * 2 ^ q) < k := by
  rw [← Nat.cast_lt (α := Int), scaled_floor, Int.floor_lt]
  simp

theorem le_quotient_iff (q : Int) (k : Nat) :
    k ≤ (scaled num den q).1 ↔ (k : ℚ) ≤ (num : ℚ) / (den * 2 ^ q) := by
  rw [← Nat.cast_le (α := Int), scaled_floor, Int.le_floor]
  simp

theorem quotient_antitone {q q' : Int} (pos : 0 < den) (le : q ≤ q') :
    (scaled num den q').1 ≤ (scaled num den q).1 := by
  rw [← Nat.cast_le (α := Int), scaled_floor, scaled_floor]
  apply Int.floor_mono
  apply div_le_div_of_nonneg_left (by positivity) (mul_pos (by exact_mod_cast pos) (zpow_pos two_pos q))
  gcongr
  norm_num

theorem ratio_pred (q : Int) :
    (num : ℚ) / (den * 2 ^ (q - 1)) = 2 * ((num : ℚ) / (den * 2 ^ q)) := by
  rw [zpow_sub₀ two_ne_zero, zpow_one]
  by_cases zero : (den : ℚ) = 0
  · simp [zero]
  · field_simp

/-- The scale `nearest` tries first: the difference of the bit lengths, less the 52 bits of a
fraction. -/
def leadScale (num den : Nat) : Int := (Nat.log2 num : Int) - Nat.log2 den - 52

theorem lead_bounds (pn : num ≠ 0) (pd : den ≠ 0) :
    2 ^ 51 < (num : ℚ) / (den * 2 ^ leadScale num den) ∧
      (num : ℚ) / (den * 2 ^ leadScale num den) < 2 ^ 53 := by
  have n_lo : (2 : ℚ) ^ num.log2 ≤ num := by exact_mod_cast Nat.log2_self_le pn
  have n_hi : (num : ℚ) < 2 ^ (num.log2 + 1) := by exact_mod_cast Nat.lt_log2_self
  have d_lo : (2 : ℚ) ^ den.log2 ≤ den := by exact_mod_cast Nat.log2_self_le pd
  have d_hi : (den : ℚ) < 2 ^ (den.log2 + 1) := by exact_mod_cast Nat.lt_log2_self
  have d_pos : (0 : ℚ) < den := by positivity
  have exact : (num : ℚ) / (den * 2 ^ leadScale num den) =
      num * 2 ^ den.log2 * 2 ^ 52 / (den * 2 ^ num.log2) := by
    unfold leadScale
    rw [zpow_sub₀ two_ne_zero, zpow_sub₀ two_ne_zero, zpow_natCast, zpow_natCast]
    field_simp
  rw [exact]
  constructor
  · rw [lt_div_iff₀ (by positivity)]
    calc (2 : ℚ) ^ 51 * (den * 2 ^ num.log2) < 2 ^ 51 * (2 ^ (den.log2 + 1) * 2 ^ num.log2) := by
          gcongr
      _ = 2 ^ 52 * 2 ^ den.log2 * 2 ^ num.log2 := by ring
      _ ≤ 2 ^ 52 * 2 ^ den.log2 * num := by gcongr
      _ = num * 2 ^ den.log2 * 2 ^ 52 := by ring
  · rw [div_lt_iff₀ (by positivity)]
    calc (num : ℚ) * 2 ^ den.log2 * 2 ^ 52 < 2 ^ (num.log2 + 1) * 2 ^ den.log2 * 2 ^ 52 := by
          gcongr
      _ = 2 ^ 53 * (2 ^ den.log2 * 2 ^ num.log2) := by ring
      _ ≤ 2 ^ 53 * (den * 2 ^ num.log2) := by gcongr

/-- The scale that leaves exactly 53 bits of quotient: the first scale, or one less. -/
def normalScale (num den : Nat) : Int :=
  if (scaled num den (leadScale num den)).1 < Nat.pow 2 52 then leadScale num den - 1
  else leadScale num den

theorem normal_bounds (pn : num ≠ 0) (pd : den ≠ 0) :
    2 ^ 52 ≤ (scaled num den (normalScale num den)).1 ∧
      (scaled num den (normalScale num den)).1 < 2 ^ 53 := by
  obtain ⟨lo, hi⟩ := lead_bounds pn pd
  rw [le_quotient_iff, quotient_lt_iff]
  unfold normalScale
  split
  · next short =>
    -- 52 bits at the first scale: one scale down doubles the quotient
    rw [Nat.pow_eq, quotient_lt_iff] at short
    rw [ratio_pred]
    push_cast at short ⊢
    constructor <;> linarith
  · next long =>
    rw [Nat.pow_eq, quotient_lt_iff] at long
    push_cast at long ⊢
    constructor <;> linarith

/-- The scale `nearest` divides by: the normal one, unless that lies below the least exponent
of a subnormal double. -/
def scale (num den : Nat) : Int := max (normalScale num den) (-1074)

theorem quotient_lt_of_scale (pn : num ≠ 0) (pd : den ≠ 0) :
    (scaled num den (scale num den)).1 < 2 ^ 53 :=
  lt_of_le_of_lt (quotient_antitone (Nat.pos_of_ne_zero pd) (le_max_left _ _))
    (normal_bounds pn pd).2

theorem scale_of_quotient_lt (pn : num ≠ 0) (pd : den ≠ 0)
    (short : (scaled num den (scale num den)).1 < 2 ^ 52) : scale num den = -1074 := by
  unfold scale at short ⊢
  rcases max_cases (normalScale num den) (-1074) with ⟨normal, -⟩ | ⟨least, -⟩
  · rw [normal] at short
    exact absurd short (not_lt.mpr (normal_bounds pn pd).1)
  · exact least

theorem scale_le_one (pn : num ≠ 0) (fits : num ≤ 2 ^ 53) : scale num den ≤ 1 := by
  have bits : num.log2 < 54 := (Nat.log2_lt pn).mpr (by omega)
  unfold scale normalScale leadScale
  split <;> omega

end Normal

/-- Rounding `n * P / s` to a whole `t'` keeps the ceiling of `n / s` after dividing back by `P`,
unless it rounded down from a multiple of `P`: `t'` is `⌊n * P / s⌋` or, past a nonzero
remainder, one more. -/
theorem ceil_div_rounded {n s P t r t' : Nat} (hs : 0 < s) (hP : 0 < P)
    (split : n * P = t * s + r) (hr : r < s) (near : t' = t ∨ (t' = t + 1 ∧ 0 < r))
    (safe : t' = t → 0 < r → ¬P ∣ t) :
    ⌈(t' : ℚ) / P⌉ = ⌈(n : ℚ) / s⌉ := by
  set c := ⌈(n : ℚ) / s⌉ with hc
  obtain ⟨below, above⟩ := Int.ceil_eq_iff.mp hc.symm
  have sQ : (0 : ℚ) < s := by exact_mod_cast hs
  -- the ceiling `c` of `n / s` in whole numbers: `(c - 1) * s < n ≤ c * s`
  have lo : (c - 1) * s < n := by
    rw [lt_div_iff₀ sQ] at below
    exact_mod_cast below
  have hi : (n : Int) ≤ c * s := by
    rw [div_le_iff₀ sQ] at above
    exact_mod_cast above
  have splitZ : (n : Int) * P = t * s + r := by exact_mod_cast split
  have sZ : (0 : Int) < s := by exact_mod_cast hs
  have PZ : (0 : Int) < P := by exact_mod_cast hP
  -- so `(c - 1) * P ≤ t ≤ c * P`, the first strictly unless the split is exact
  have t_hi : (t : Int) * s + r ≤ c * P * s := by
    calc (t : Int) * s + r = n * P := splitZ.symm
      _ ≤ c * s * P := by gcongr
      _ = c * P * s := by ring
  have t_lo : (c - 1) * P < t + 1 := by
    apply lt_of_mul_lt_mul_right _ sZ.le
    calc (c - 1) * P * s = (c - 1) * s * P := by ring
      _ < n * P := by gcongr
      _ = t * s + r := splitZ
      _ < (t + 1) * s := by linarith [(by exact_mod_cast hr : (r : Int) < s)]
  rw [Int.ceil_eq_iff, lt_div_iff₀ (by exact_mod_cast hP), div_le_iff₀ (by exact_mod_cast hP)]
  norm_cast
  rcases near with same | ⟨up, rem⟩
  · subst same
    refine ⟨lt_of_le_of_ne (by omega) fun tight => ?_, ?_⟩
    · -- rounding down onto a multiple of `P` is what `safe` excludes; with no remainder the
      -- split would give `n = (c - 1) * s`
      rcases Nat.eq_zero_or_pos r with exact | rem
      · subst exact
        have : (n : Int) * P = (c - 1) * s * P := by rw [splitZ, ← tight]; ring
        have := mul_right_cancel₀ PZ.ne' this
        omega
      · exact safe rfl rem (Int.natCast_dvd_natCast.mp ⟨c - 1, by rw [← tight]; ring⟩)
    · exact le_of_mul_le_mul_right (by linarith) sZ
  · subst up
    have : (t : Int) < c * P := lt_of_mul_lt_mul_right (by linarith) sZ.le
    push_cast
    omega

def rounded (num den : Nat) (q : Int) : Nat :=
  roundHalfEven (scaled num den q).1 (scaled num den q).2.1 (scaled num den q).2.2

/-- A significand that rounding carried to 54 bits, folded back into 53 with the exponent one
up. -/
def carry (t : Nat) (q : Int) : Nat × Int :=
  if t = Nat.pow 2 53 then (Nat.pow 2 52, q + 1) else (t, q)

/-- `nearest` with its steps named: the scale, the rounded significand, the carry, and the
check against the largest exponent. -/
theorem nearest_eq {num den : Nat} (pn : num ≠ 0) (pd : den ≠ 0) :
    nearest num den =
      if (carry (rounded num den (scale num den)) (scale num den)).2 > 971 then none
      else some (Float.ofBits (encode (carry (rounded num den (scale num den)) (scale num den)).1
        (carry (rounded num den (scale num den)) (scale num den)).2).toUInt64) := by
  unfold nearest
  simp only [pn, pd, or_self, if_false]
  rfl

/-- The ceiling the code takes of a finite positive double is the ceiling of its value. -/
theorem ceil_ratio (m : Nat) (e : Int) :
    -((-(ratio false m e).1) / ((ratio false m e).2 : Int)) = ⌈(m : ℚ) * 2 ^ e⌉ := by
  unfold ratio
  by_cases neg : e < 0
  · obtain ⟨k, rfl⟩ : ∃ k : Nat, e = -(k : Int) := ⟨e.natAbs, by omega⟩
    have exact : (m : ℚ) * 2 ^ (-(k : Int)) = ((m : Int) : ℚ) / ((2 ^ k : Nat) : ℚ) := by
      rw [zpow_neg, zpow_natCast]
      push_cast
      ring
    simp only [neg, if_true, if_false, Bool.false_eq_true, Nat.pow_eq, Int.natAbs_neg,
      Int.natAbs_natCast]
    rw [exact, Rat.ceil_intCast_div_natCast]
  · obtain ⟨k, rfl⟩ : ∃ k : Nat, e = (k : Int) := ⟨e.natAbs, by omega⟩
    have exact : (m : ℚ) * 2 ^ (k : Int) = ((m * 2 ^ k : Nat) : Int) := by
      rw [zpow_natCast]
      push_cast
      rfl
    simp only [neg, if_false, Bool.false_eq_true, Nat.pow_eq, Int.natAbs_natCast]
    rw [exact, Int.ceil_intCast]
    simp

theorem roundHalfEven_cases (t r b : Nat) :
    (roundHalfEven t r b = t ∧ 2 * r ≤ b) ∨ (roundHalfEven t r b = t + 1 ∧ b ≤ 2 * r) := by
  unfold roundHalfEven
  split <;> omega

section Whole

variable {n s : Nat}

/-- For a numerator of at most 53 bits and a denominator below `n * 2^1075`, the significand
rounding keeps the ceiling of the quotient, and is positive with fewer than 54 bits. -/
theorem rounded_ceil (pos : 0 < n) (hs : 0 < s) (fits : n ≤ 2 ^ 53) (above : s < n * 2 ^ 1075) :
    0 < rounded n s (scale n s) ∧ rounded n s (scale n s) ≤ 2 ^ 53 ∧
      (rounded n s (scale n s) < 2 ^ 52 → scale n s = -1074) ∧
      ⌈(rounded n s (scale n s) : ℚ) * 2 ^ scale n s⌉ = ⌈(n : ℚ) / s⌉ := by
  have pn : n ≠ 0 := by omega
  have pd : s ≠ 0 := by omega
  have t_hi : (scaled n s (scale n s)).1 < 2 ^ 53 := quotient_lt_of_scale pn pd
  have sub := @scale_of_quotient_lt n s pn pd
  have round := roundHalfEven_cases (scaled n s (scale n s)).1 (scaled n s (scale n s)).2.1
    (scaled n s (scale n s)).2.2
  rw [← rounded] at round
  rcases (@scale_le_one n s pn fits).lt_or_eq with nonpos | one
  · -- a scale not above one: `n * 2^p = t * s + r` with `p = -q`
    obtain ⟨split, den_eq⟩ := @scaled_of_nonpos n s (scale n s) (by omega)
    have rem := @scaled_remainder_lt n s (scale n s) hs
    rw [den_eq] at rem round
    generalize scale n s = q at *
    generalize (scaled n s q).1 = t at *
    generalize (scaled n s q).2.1 = r at *
    generalize rounded n s q = t' at *
    -- a zero quotient only comes with the least scale, where the remainder is past half
    have t'_pos : 0 < t' := by
      rcases round with ⟨down, half⟩ | ⟨up, -⟩
      · rcases Nat.eq_zero_or_pos t with zero | t_pos
        · have least : q.natAbs = 1074 := by have := sub (by omega); omega
          have twice : n * 2 ^ 1075 = 2 * (n * 2 ^ q.natAbs) := by
            rw [show 1075 = q.natAbs + 1 by omega, pow_succ]
            ring
          subst zero
          omega
        · omega
      · omega
    refine ⟨t'_pos, by omega, fun short => sub (by omega), ?_⟩
    obtain ⟨p, rfl⟩ : ∃ p : Nat, q = -(p : Int) := ⟨q.natAbs, by omega⟩
    have exact : (t' : ℚ) * 2 ^ (-(p : Int)) = (t' : ℚ) / ((2 ^ p : Nat) : ℚ) := by
      rw [zpow_neg, zpow_natCast]
      push_cast
      ring
    simp only [Int.natAbs_neg, Int.natAbs_natCast] at split
    rw [exact]
    refine ceil_div_rounded hs (by positivity) split rem ?_ ?_
    · rcases round with ⟨down, -⟩ | ⟨up, half⟩
      · exact .inl down
      · exact .inr ⟨up, by omega⟩
    · -- rounding down onto a multiple of `2^p`: past 52 bits the quotient is below half of
      -- `n`, and below them the scale is the least and only a zero quotient is a multiple
      intro same rem_pos dvd
      have half : 2 * r ≤ s := by
        rcases round with ⟨-, half⟩ | ⟨up, -⟩
        · exact half
        · omega
      have r_dvd : 2 ^ p ∣ r := (Nat.dvd_add_right (dvd.mul_right s)).mp (split ▸ Dvd.intro_left n rfl)
      have r_ge : 2 ^ p ≤ r := Nat.le_of_dvd rem_pos r_dvd
      by_cases long : 2 ^ 52 ≤ t
      · have small : t * 2 * 2 ^ p < n * 2 ^ p :=
          calc t * 2 * 2 ^ p = t * (2 * 2 ^ p) := by ring
            _ ≤ t * s := Nat.mul_le_mul_left t (by omega)
            _ < n * 2 ^ p := by omega
        have := Nat.lt_of_mul_lt_mul_right small
        omega
      · have least : p = 1074 := by have := sub (by omega); omega
        have twice : n * 2 ^ 1075 = 2 * (n * 2 ^ p) := by
          rw [show 1075 = p + 1 by omega, pow_succ]
          ring
        have zero : t = 0 := Nat.eq_zero_of_dvd_of_lt dvd (by subst least; omega)
        subst zero
        omega
  · -- the scale one: only `2^53 / 1`, which is exact
    have long : 2 ^ 52 ≤ (scaled n s (scale n s)).1 := by
      by_contra short
      have := sub (by omega)
      omega
    rw [le_quotient_iff, one] at long
    have whole : 2 ^ 53 * s ≤ n := by
      have : (2 ^ 53 * s : ℚ) ≤ n := by
        rw [le_div_iff₀ (by positivity)] at long
        push_cast at long
        linarith
      exact_mod_cast this
    have single : s = 1 := by
      have : 2 ^ 53 * s ≤ 2 ^ 53 * 1 := by omega
      have := Nat.le_of_mul_le_mul_left this (by norm_num)
      omega
    subst single
    obtain rfl : n = 2 ^ 53 := by omega
    rw [one]
    have : rounded (2 ^ 53) 1 1 = 2 ^ 52 := rfl
    rw [this]
    norm_num

/-- The ceiling of a positive finite double is the ceiling of its value. -/
theorem ceil_of_decode {x : Float} {m : Nat} {e : Int} (parts : decode x = .finite false m e) :
    Value.ceil (.float x) = .ok (.int ⌈(m : ℚ) * 2 ^ e⌉) := by
  unfold Value.ceil
  simp only [parts]
  rw [← ceil_ratio]

theorem carry_spec {t : Nat} {q : Int} (pos : 0 < t) (le : t ≤ 2 ^ 53)
    (sub : t < 2 ^ 52 → q = -1074) :
    ((carry t q).1 : ℚ) * 2 ^ (carry t q).2 = t * 2 ^ q ∧ 0 < (carry t q).1 ∧
      (carry t q).1 < 2 ^ 53 ∧ q ≤ (carry t q).2 ∧ (carry t q).2 ≤ q + 1 ∧
      ((carry t q).1 < 2 ^ 52 → (carry t q).2 = -1074) := by
  unfold carry
  split
  · next full =>
    rw [Nat.pow_eq] at full
    subst full
    simp only [Nat.pow_eq]
    refine ⟨?_, by norm_num, by norm_num, by omega, le_refl _, by norm_num⟩
    rw [zpow_add_one₀ two_ne_zero]
    push_cast
    ring
  · next kept =>
    rw [Nat.pow_eq] at kept
    exact ⟨rfl, pos, by omega, le_refl _, by omega, sub⟩

/-- The double nearest to a quotient of whole numbers has the quotient's ceiling, as long as
the numerator has at most 53 bits and the quotient is not below a quarter of the least
subnormal double; outside these bounds rounding can lose it. -/
theorem ceil_nearest (pos : 0 < n) (hs : 0 < s) (fits : n ≤ 2 ^ 53) (above : s < n * 2 ^ 1075) :
    ∃ x, nearest n s = some x ∧ Value.ceil (.float x) = .ok (.int ⌈(n : ℚ) / s⌉) := by
  obtain ⟨t_pos, t_hi, t_sub, ceiled⟩ := rounded_ceil pos hs fits above
  have q_hi : scale n s ≤ 1 := scale_le_one (by omega) fits
  have q_lo : -1074 ≤ scale n s := le_max_right _ _
  rw [nearest_eq (by omega) (by omega)]
  generalize rounded n s (scale n s) = t at *
  generalize scale n s = q at *
  obtain ⟨value, c_pos, c_hi, c_lo, c_up, c_sub⟩ := carry_spec t_pos t_hi t_sub
  rw [if_neg (by omega)]
  refine ⟨_, rfl, ?_⟩
  rw [ceil_of_decode (decode_encode c_pos c_hi (by omega) (by omega) c_sub), value, ceiled]

end Whole

theorem nearest_tiny {n s : Nat} (pos : 0 < n) (tiny : n * 2 ^ 1075 ≤ s) :
    ∃ x, nearest n s = some x ∧ decode x = .zero false := by
  have pn : n ≠ 0 := by omega
  have twice : n * 2 ^ 1075 = 2 * (n * 2 ^ 1074) := by
    rw [show 1075 = 1074 + 1 from rfl, pow_succ', Nat.mul_left_comm]
  have pd : s ≠ 0 := by omega
  -- at the least exponent the quotient is already zero, so no larger scale is normal
  obtain ⟨split, den_eq⟩ := @scaled_of_nonpos n s (-1074) (by omega)
  have rem := @scaled_remainder_lt n s (-1074) (by omega)
  rw [den_eq] at rem
  have natAbs : (-1074 : Int).natAbs = 1074 := rfl
  rw [natAbs] at split
  have zero : (scaled n s (-1074)).1 = 0 := by
    by_contra nonzero
    have : s ≤ (scaled n s (-1074)).1 * s := Nat.le_mul_of_pos_left s (by omega)
    omega
  have least : scale n s = -1074 := by
    unfold scale
    by_contra normal
    have above : -1074 ≤ normalScale n s := by omega
    have := @quotient_antitone n s _ _ (Nat.pos_of_ne_zero pd) above
    have := (normal_bounds pn pd).1
    omega
  have remainder : (scaled n s (-1074)).2.1 = n * 2 ^ 1074 := by
    rw [zero, Nat.zero_mul, Nat.zero_add] at split
    exact split.symm
  -- the remainder is at most half the divisor and the quotient even: rounding stays at zero
  have down : rounded n s (-1074) = 0 := by
    unfold rounded roundHalfEven
    rw [zero, remainder, den_eq, if_neg (by omega)]
  rw [nearest_eq pn pd, least, down]
  have kept : carry 0 (-1074) = (0, -1074) := rfl
  rw [kept, if_neg (by decide)]
  exact ⟨_, rfl, rfl⟩

end DesktopPool.Binary
