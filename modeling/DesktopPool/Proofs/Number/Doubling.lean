import DesktopPool.Proofs.Number.Quotient

/-! Doubling a double. The product of a double and two keeps the significand and moves up one
exponent, or doubles a significand of fewer than 53 bits at the least exponent; no bit is lost,
so doubling is exact until the value reaches `2^1024`, where it becomes an infinity of the same
sign (`doubled_iterate`). Zeros, infinities and not-a-number stay as they are. The proof runs
the model of binary64 multiplication: `unpack_toBits` reads a double as the model holds it,
the exact product of the significands is shifted back to its place dropping only zero bits
(`roundWithAccuracy_exact`), and `decode_pack_finite` reads the packed result back. -/
namespace DesktopPool.Binary

open Float.Model

def signOf (neg : Bool) : UnpackedFloat.Sign := if neg then .negative else .positive

def Parts.unpacked : Parts → UnpackedFloat
  | .zero neg => .zero (signOf neg)
  | .finite neg m e => if pos : 0 < m then .finite (signOf neg) m e pos else .zero (signOf neg)
  | .inf neg => .infinity (signOf neg)
  | .nan => .notANumber

section Fields

variable (u : BitVec 64)

theorem ofBitVec_unpackSign :
    UnpackedFloat.Sign.ofBitVec (@UnpackedFloat.unpackSign Format.binary64 u) =
      signOf (u.toNat / 2 ^ 63 % 2 == 1) := by
  have bit := unpackSign_toNat u
  unfold UnpackedFloat.Sign.ofBitVec signOf
  by_cases zero : u.toNat / 2 ^ 63 % 2 = 0
  · rw [if_pos (BitVec.eq_of_toNat_eq (by rw [bit, zero]; rfl)), zero]
    rfl
  · have one : u.toNat / 2 ^ 63 % 2 = 1 := by omega
    rw [if_neg (fun same => by rw [same] at bit; simp at bit; omega), one]
    rfl

end Fields

theorem unpack_toBits (x : Float) :
    UnpackedFloat.unpack Format.binary64 x.toBits.toBitVec = (decode x).unpacked := by
  have expo := unpackExponent_toNat x.toBits.toBitVec
  have mant := unpackMantissa_toNat x.toBits.toBitVec
  have bias : Format.binary64.exponentBias = 1023 := rfl
  simp only [UInt64.toNat_toBitVec] at expo mant
  unfold UnpackedFloat.unpack decode
  simp only [ofBitVec_unpackSign, UInt64.toNat_toBitVec, bias, Nat.pow_eq, beq_iff_eq]
  have top_iff : @UnpackedFloat.unpackExponent Format.binary64 x.toBits.toBitVec = -1#11 ↔
      x.toBits.toNat / 2 ^ 52 % 2048 = 2047 := by
    rw [BitVec.toNat_eq, expo]
    rfl
  have low_iff : @UnpackedFloat.unpackExponent Format.binary64 x.toBits.toBitVec = 0#11 ↔
      x.toBits.toNat / 2 ^ 52 % 2048 = 0 := by
    rw [BitVec.toNat_eq, expo]
    rfl
  have empty_iff : @UnpackedFloat.unpackMantissa Format.binary64 x.toBits.toBitVec = 0#52 ↔
      x.toBits.toNat % 2 ^ 52 = 0 := by
    rw [BitVec.toNat_eq, mant]
    rfl
  simp only [top_iff, low_iff, empty_iff]
  split_ifs with top empty low empty' <;> simp only [Parts.unpacked]
  · -- a subnormal number, at the least exponent
    rw [dif_pos (Nat.pos_of_ne_zero empty')]
    congr 1
    rw [expo, low]
    rfl
  · -- a normal number, the hidden bit made explicit
    rw [dif_pos (by omega)]
    congr 1
    · have frac : x.toBits.toNat % 2 ^ 52 < 2 ^ Format.binary64.mantissaBitsWithoutImplicit :=
        Nat.mod_lt _ (by decide)
      rw [BitVec.toNat_append, mant, ← Nat.shiftLeft_add_eq_or_of_lt frac, Nat.shiftLeft_eq]
      simp
      omega
    · rw [expo]
      omega

def isNeg : UnpackedFloat.Sign → Bool
  | .negative => true
  | .positive => false

@[simp] theorem isNeg_signOf (neg : Bool) : isNeg (signOf neg) = neg := by
  cases neg <;> rfl

theorem sign_toNat (s : UnpackedFloat.Sign) : s.toBitVec.toNat = (isNeg s).toNat := by
  cases s <;> rfl

theorem toNat_pack (u : UnpackedFloat) :
    (Float.ofModel (Float.Model.pack u)).toBits.toNat = (UnpackedFloat.pack Format.binary64 u).toNat :=
  rfl

theorem decode_of_fields {x : Float} {neg : Bool} {E F : Nat}
    (bits : x.toBits.toNat = neg.toNat * 2 ^ 63 + E * 2 ^ 52 + F) (expo : E < 2048) (frac : F < 2 ^ 52) :
    decode x = if E = 2047 then (if F = 0 then .inf neg else .nan)
      else if E = 0 then (if F = 0 then .zero neg else .finite neg F (-1074))
      else .finite neg (F + 2 ^ 52) ((E : Int) - 1075) := by
  have sign : neg.toNat < 2 := Bool.toNat_lt neg
  have readS : (neg.toNat * 2 ^ 63 + E * 2 ^ 52 + F) / 2 ^ 63 % 2 = neg.toNat := by omega
  have readE : (neg.toNat * 2 ^ 63 + E * 2 ^ 52 + F) / 2 ^ 52 % 2048 = E := by omega
  have readF : (neg.toNat * 2 ^ 63 + E * 2 ^ 52 + F) % 2 ^ 52 = F := by omega
  have back : (neg.toNat == 1) = neg := by cases neg <;> rfl
  unfold decode
  simp only [bits, Nat.pow_eq, readS, readE, readF, back, beq_iff_eq]

theorem decode_pack_zero (s : UnpackedFloat.Sign) :
    decode (.ofModel (Float.Model.pack (.zero s))) = .zero (isNeg s) := by
  have bits := toNat_pack (.zero s)
  simp only [UnpackedFloat.pack, UnpackedFloat.packedZero, packComponents_toNat, sign_toNat] at bits
  rw [decode_of_fields bits (by simp) (by simp)]
  simp

theorem decode_pack_infinity (s : UnpackedFloat.Sign) :
    decode (.ofModel (Float.Model.pack (.infinity s))) = .inf (isNeg s) := by
  have bits := toNat_pack (.infinity s)
  simp only [UnpackedFloat.pack, UnpackedFloat.packedInfinity, packComponents_toNat, sign_toNat] at bits
  rw [decode_of_fields bits (by simp) (by simp)]
  simp

/-- A finite number of the model that rounding has put in its place (53 significand bits, or
fewer at the least exponent) packs to the double it stands for, or to an infinity when its
exponent is past the largest. -/
theorem decode_pack_finite (s : UnpackedFloat.Sign) {M : Nat} {E : Int} (pos : 0 < M)
    (wide : M < 2 ^ 53) (low : -1074 ≤ E) (sub : M < 2 ^ 52 → E = -1074) :
    decode (.ofModel (Float.Model.pack (.finite s M E pos))) =
      if E ≤ 971 then .finite (isNeg s) M E else .inf (isNeg s) := by
  have biased : (E + (Format.binary64.exponentBias : Int) +
      (Format.binary64.mantissaBitsWithoutImplicit : Int)).toNat = (E + 1075).toNat := by
    have bias : Format.binary64.exponentBias = 1023 := rfl
    have width : Format.binary64.mantissaBitsWithoutImplicit = 52 := rfl
    rw [bias, width]
    omega
  have bits := toNat_pack (.finite s M E pos)
  simp only [UnpackedFloat.pack, biased] at bits
  split_ifs at bits with past full
  · -- past the largest exponent
    have beyond : ¬E ≤ 971 := by simp at past; omega
    have top : (-1#11 : BitVec 11).toNat = 2047 := rfl
    simp only [UnpackedFloat.packedInfinity, packComponents_toNat, top, sign_toNat] at bits
    rw [decode_of_fields bits (by decide) (by simp)]
    simp [beyond]
  · -- 53 significand bits: the leading one is implicit
    have lead : 2 ^ 52 ≤ M := by
      have := (Nat.log2_eq_iff (Nat.pos_iff_ne_zero.mp pos)).mp (show M.log2 = 52 by
        simpa [Format.mantissaBits] using full)
      omega
    have within : E ≤ 971 := by simp at past; omega
    have expo : (BitVec.ofNat 11 (E + 1075).toNat).toNat = (E + 1075).toNat := by
      simp only [BitVec.toNat_ofNat]
      omega
    have frac : (BitVec.ofNat 52 M).toNat = M - 2 ^ 52 := by
      simp only [BitVec.toNat_ofNat]
      omega
    simp only [packComponents_toNat, expo, frac, sign_toNat] at bits
    rw [decode_of_fields bits (by omega) (by omega)]
    have notTop : (E + 1075).toNat ≠ 2047 := by omega
    have notLow : (E + 1075).toNat ≠ 0 := by omega
    have whole : M - 2 ^ 52 + 2 ^ 52 = M := by omega
    have power : ((E + 1075).toNat : Int) - 1075 = E := by omega
    simp only [notTop, notLow, if_false, whole, power, within, if_true]
  · -- fewer bits: a subnormal number at the least exponent
    have short : M < 2 ^ 52 := by
      have := (Nat.log2_lt (Nat.pos_iff_ne_zero.mp pos)).mpr wide
      have : M.log2 ≠ 52 := fun l => full (by simp [l, Format.mantissaBits])
      exact (Nat.log2_lt (Nat.pos_iff_ne_zero.mp pos)).mp (by omega)
    have least := sub short
    have frac : (BitVec.ofNat 52 M).toNat = M := by
      simp only [BitVec.toNat_ofNat]
      omega
    simp only [packComponents_toNat, frac, BitVec.toNat_zero, sign_toNat] at bits
    rw [decode_of_fields bits (by omega) short]
    simp [least, Nat.pos_iff_ne_zero.mp pos]

theorem log2_mul_two_pow {M : Nat} (pos : 0 < M) (k : Nat) : (M * 2 ^ k).log2 = M.log2 + k := by
  induction k with
  | zero => simp
  | succ k ih =>
    rw [Nat.pow_succ, ← Nat.mul_assoc, Nat.mul_comm _ 2, Nat.log2_two_mul (by positivity), ih]
    omega

theorem shift_exact (K k : Nat) :
    (⟨K * 2 ^ k, false, false⟩ : UnpackedFloat.ExtendedMantissa) >>> k = ⟨K, false, false⟩ := by
  show Nat.repeat UnpackedFloat.ExtendedMantissa.shiftRightOne k _ = _
  induction k generalizing K with
  | zero => simp [Nat.repeat]
  | succ k ih =>
    rw [Nat.repeat, show K * 2 ^ (k + 1) = (2 * K) * 2 ^ k by ring, ih]
    simp [UnpackedFloat.ExtendedMantissa.shiftRightOne]

theorem roundWithAccuracy_exact (s : UnpackedFloat.Sign) {M : Nat} {E : Int} (k : Nat) (pos : 0 < M)
    (placed : Format.binary64.targetExponent (totalExponent M E) = E) :
    UnpackedFloat.roundWithAccuracy Format.binary64 s (M * 2 ^ k) (E - k) .exact =
      .finite s M E pos := by
  have total : totalExponent (M * 2 ^ k) (E - k) = totalExponent M E := by
    unfold totalExponent
    rw [log2_mul_two_pow pos]
    omega
  have first : (Format.binary64.targetExponent (totalExponent (M * 2 ^ k) (E - k)) - (E - k)).toNat = k := by
    rw [total, placed]
    omega
  have rounded : ({ mantissa := M, roundBit := false, stickyBit := false } :
      UnpackedFloat.ExtendedMantissa).roundedMantissa = M := rfl
  have back : E - k + k = E := by omega
  have still : (Format.binary64.targetExponent (totalExponent M E) - E).toNat = 0 := by
    rw [placed]
    omega
  unfold UnpackedFloat.roundWithAccuracy UnpackedFloat.shiftToTargetExponent UnpackedFloat.shiftToExponent
  have unshifted : ({ mantissa := M, roundBit := false, stickyBit := false } :
      UnpackedFloat.ExtendedMantissa) >>> 0 = ⟨M, false, false⟩ := rfl
  simp only [first, UnpackedFloat.ExtendedMantissa.ofMantissaAndAccuracy, shift_exact, rounded, back,
    still, unshifted, Nat.cast_zero, Int.add_zero]
  rw [dif_neg pos.ne']

theorem binary64_targetExponent (t : Int) :
    Format.binary64.targetExponent t = max (t - 53) (-1074) := by
  simp only [Format.targetExponent]
  rfl

/-- A significand is in its place at an exponent within range when it has 53 bits, and at the
least exponent when it has no more. -/
theorem placed_of_log2 {M : Nat} {E : Int} (low : -1074 ≤ E)
    (bits : M.log2 = 52 ∨ M.log2 < 53 ∧ E = -1074) :
    Format.binary64.targetExponent (totalExponent M E) = E := by
  rw [binary64_targetExponent]
  unfold totalExponent
  omega

theorem mul_positive (s : UnpackedFloat.Sign) : s * .positive = s := by
  cases s <;> rfl

/-- Significand and exponent as decoding leaves them: a positive significand of at most 53 bits,
an exponent from the least to the largest, and fewer than 53 bits only at the least exponent. -/
structure Canonical (m : Nat) (e : Int) : Prop where
  pos : 0 < m
  wide : m < 2 ^ 53
  low : -1074 ≤ e
  high : e ≤ 971
  sub : m < 2 ^ 52 → e = -1074

theorem canonical_of_decode {x : Float} {neg : Bool} {m : Nat} {e : Int}
    (parts : decode x = .finite neg m e) : Canonical m e := by
  unfold decode at parts
  simp only [Nat.pow_eq, beq_iff_eq] at parts
  split_ifs at parts with top empty low empty'
  all_goals cases parts
  · exact ⟨by omega, by omega, le_rfl, by omega, fun _ => rfl⟩
  · exact ⟨by omega, by omega, by omega, by omega, fun _ => by omega⟩

def two : Float := Float.ofBits 0x4000000000000000

theorem ofInt_two : ofInt 2 = some two := by decide

theorem unpack_two :
    UnpackedFloat.unpack Format.binary64 two.toBits.toBitVec = .finite .positive (2 ^ 52) (-51) (by decide) := by
  unfold two
  rw [toBits_ofBits _ (by decide)]
  rfl

/-- What doubling does to the parts of a double: a significand below 53 bits doubles at the
least exponent, a full one moves up an exponent, and past the largest exponent the double
becomes an infinity of its sign. Zeros, infinities and not-a-number stay. -/
def Parts.doubled : Parts → Parts
  | .finite neg m e =>
    if m < Nat.pow 2 52 then .finite neg (2 * m) e
    else if e < 971 then .finite neg m (e + 1) else .inf neg
  | p => p

theorem decode_mul_two (x : Float) : decode (x * two) = (decode x).doubled := by
  have product : x * two = .ofModel (Float.Model.pack (UnpackedFloat.mul Format.binary64
      (UnpackedFloat.unpack Format.binary64 x.toBits.toBitVec)
      (UnpackedFloat.unpack Format.binary64 two.toBits.toBitVec))) := rfl
  rw [product, unpack_toBits, unpack_two]
  cases parts : decode x with
  | zero neg =>
    simp only [Parts.unpacked, UnpackedFloat.mul, decode_pack_zero, mul_positive, isNeg_signOf,
      Parts.doubled]
  | inf neg =>
    simp only [Parts.unpacked, UnpackedFloat.mul, decode_pack_infinity, mul_positive, isNeg_signOf,
      Parts.doubled]
  | nan => rfl
  | finite neg m e =>
    obtain ⟨pos, wide, low, high, sub⟩ := canonical_of_decode parts
    simp only [Parts.unpacked, dif_pos pos, UnpackedFloat.mul, mul_positive, Parts.doubled, Nat.pow_eq]
    by_cases short : m < 2 ^ 52
    · -- a subnormal significand doubles in place
      have least := sub short
      subst least
      have placed : Format.binary64.targetExponent (totalExponent (2 * m) (-1074)) = -1074 :=
        placed_of_log2 le_rfl (.inr ⟨(Nat.log2_lt (by omega)).mpr (by omega), rfl⟩)
      have shifted : m * 2 ^ 52 = (2 * m) * 2 ^ 51 := by ring
      rw [if_pos short, shifted, show (-1074 : Int) + -51 = -1074 - (51 : Nat) by rfl,
        roundWithAccuracy_exact _ 51 (by omega) placed,
        decode_pack_finite _ _ (by omega) le_rfl (fun _ => rfl), if_pos (by decide), isNeg_signOf]
    · -- a full significand moves up an exponent
      have placed : Format.binary64.targetExponent (totalExponent m (e + 1)) = e + 1 :=
        placed_of_log2 (by omega) (.inl ((Nat.log2_eq_iff (by omega)).mpr ⟨by omega, by omega⟩))
      rw [if_neg short, show e + -51 = e + 1 - (52 : Nat) by omega,
        roundWithAccuracy_exact _ 52 pos placed,
        decode_pack_finite _ _ wide (by omega) (fun s => absurd s short), isNeg_signOf]
      by_cases below : e < 971
      · rw [if_pos (by omega), if_pos below]
      · rw [if_neg (by omega), if_neg below]

section Value

variable {neg : Bool} {m : Nat} {e : Int}

theorem value_lt_of_le (wide : m < 2 ^ 53) (high : e ≤ 971) : (m : ℚ) * 2 ^ e < 2 ^ 1024 := by
  have wide : (m : ℚ) < 2 ^ 53 := by exact_mod_cast wide
  have scale : (2 : ℚ) ^ e ≤ 2 ^ (971 : ℤ) := zpow_le_zpow_right₀ (by norm_num) (by omega)
  have bound : (2 : ℚ) ^ 53 * 2 ^ (971 : ℤ) = 2 ^ 1024 := by rw [zpow_ofNat, ← pow_add]
  rw [← bound]
  exact lt_of_le_of_lt (mul_le_mul_of_nonneg_left scale (Nat.cast_nonneg m))
    (mul_lt_mul_of_pos_right wide (zpow_pos (by norm_num) _))

theorem le_value_of_full (full : 2 ^ 52 ≤ m) : (2 : ℚ) ^ 1024 ≤ (m : ℚ) * 2 ^ (972 : ℤ) := by
  have full : (2 : ℚ) ^ 52 ≤ m := by exact_mod_cast full
  have bound : (2 : ℚ) ^ 52 * 2 ^ (972 : ℤ) = 2 ^ 1024 := by rw [zpow_ofNat, ← pow_add]
  rw [← bound]
  exact mul_le_mul_of_nonneg_right full (zpow_pos (by norm_num) _).le

/-- Doubling is exact below `2^1024`: the doubled parts are canonical and stand for twice the value. -/
theorem doubled_finite (c : Canonical m e) (fits : (m : ℚ) * 2 ^ (e + 1) < 2 ^ 1024) :
    ∃ m' e', Parts.doubled (.finite neg m e) = .finite neg m' e' ∧ Canonical m' e' ∧
      (m' : ℚ) * 2 ^ e' = m * 2 ^ (e + 1) := by
  have twice : (2 : ℚ) ^ (e + 1) = 2 ^ e * 2 := zpow_add_one₀ (by norm_num) e
  simp only [Parts.doubled, Nat.pow_eq]
  by_cases short : m < 2 ^ 52
  · -- a subnormal significand doubles in place
    refine ⟨2 * m, e, by rw [if_pos short], ⟨by have := c.pos; omega, by omega, c.low, c.high,
      fun _ => c.sub short⟩, ?_⟩
    push_cast
    rw [twice]
    ring
  · -- a full significand moves up an exponent, which stays within range
    have below : e < 971 := by
      by_contra top
      have top' : e + 1 = 972 := by have := c.high; omega
      rw [top'] at fits
      exact absurd (le_value_of_full (Nat.le_of_not_lt short)) (not_le.mpr fits)
    refine ⟨m, e + 1, by rw [if_neg short, if_pos below], ⟨c.pos, c.wide, by have := c.low; omega,
      by omega, fun s => absurd s short⟩, rfl⟩

/-- Doubling past `2^1024` gives an infinity of the same sign. -/
theorem doubled_overflow (c : Canonical m e) (past : 2 ^ 1024 ≤ (m : ℚ) * 2 ^ (e + 1)) :
    Parts.doubled (.finite neg m e) = .inf neg := by
  simp only [Parts.doubled, Nat.pow_eq]
  by_cases short : m < 2 ^ 52
  · -- twice a subnormal value is far below the bound
    have least := c.sub short
    exact absurd past (not_le.mpr (value_lt_of_le (by omega) (by omega)))
  · by_cases below : e < 971
    · exact absurd past (not_le.mpr (value_lt_of_le c.wide (by omega)))
    · rw [if_neg short, if_neg below]

/-- Doubling `i` times is exact while the value stays below `2^1024`, and gives an infinity of the
same sign from there on: by induction on `i`, each step by `doubled_finite` or
`doubled_overflow`. -/
theorem doubled_iterate (c : Canonical m e) (i : Nat) :
    ((m : ℚ) * 2 ^ (e + i) < 2 ^ 1024 → ∃ m' e', Parts.doubled^[i] (.finite neg m e) = .finite neg m' e' ∧
      Canonical m' e' ∧ (m' : ℚ) * 2 ^ e' = m * 2 ^ (e + i)) ∧
    (2 ^ 1024 ≤ (m : ℚ) * 2 ^ (e + i) → Parts.doubled^[i] (.finite neg m e) = .inf neg) := by
  induction i with
  | zero =>
    simp only [Nat.cast_zero, Int.add_zero, Function.iterate_zero, id]
    exact ⟨fun _ => ⟨m, e, rfl, c, rfl⟩,
      fun past => absurd past (not_le.mpr (value_lt_of_le c.wide c.high))⟩
  | succ i ih =>
    have twice : (m : ℚ) * 2 ^ (e + ↑(i + 1)) = m * 2 ^ (e + i) * 2 := by
      rw [Nat.cast_succ, ← add_assoc, zpow_add_one₀ (by norm_num), mul_assoc]
    have grows : (m : ℚ) * 2 ^ (e + i) ≤ m * 2 ^ (e + ↑(i + 1)) := by
      rw [twice]
      have : (0 : ℚ) ≤ m * 2 ^ (e + i) := mul_nonneg (Nat.cast_nonneg m) (zpow_pos (by norm_num) _).le
      linarith
    rw [Function.iterate_succ_apply']
    constructor
    · intro fits
      obtain ⟨m', e', now, c', value⟩ := ih.1 (lt_of_le_of_lt grows fits)
      have fits' : (m' : ℚ) * 2 ^ (e' + 1) < 2 ^ 1024 := by
        rw [zpow_add_one₀ (by norm_num), ← mul_assoc, value, ← twice]
        exact fits
      obtain ⟨m'', e'', next, c'', value'⟩ := @doubled_finite neg _ _ c' fits'
      refine ⟨m'', e'', by rw [now, next], c'', ?_⟩
      rw [value', zpow_add_one₀ (by norm_num), ← mul_assoc, value, twice]
    · intro past
      by_cases fits : (m : ℚ) * 2 ^ (e + i) < 2 ^ 1024
      · obtain ⟨m', e', now, c', value⟩ := ih.1 fits
        rw [now]
        apply doubled_overflow c'
        rw [zpow_add_one₀ (by norm_num), ← mul_assoc, value, ← twice]
        exact past
      · rw [ih.2 (not_lt.mp fits)]
        rfl

end Value

def doublings (d : Float) (i : Nat) : Float := (· * two)^[i] d

theorem decode_doublings (d : Float) (i : Nat) :
    decode (doublings d i) = Parts.doubled^[i] (decode d) := by
  induction i with
  | zero => rfl
  | succ i ih =>
    rw [doublings, Function.iterate_succ_apply', Function.iterate_succ_apply', ← ih, ← decode_mul_two]
    rfl

end DesktopPool.Binary
