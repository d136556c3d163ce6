import ChannelRules.Proofs.Decimal.Packed

/-!
# Doubles and integers

Cutting a double to an integer rounds its exact value towards zero. The integer that is left has no
more bits than the double, and is converted to a double without being rounded.
-/

namespace ChannelRules.Decimal

open Float.Model Float.Model.UnpackedFloat
open Binary64 (Rounded)

/-- A rational number without its fraction. -/
def towardZero (q : ℚ) : ℤ := if 0 ≤ q then ⌊q⌋ else ⌈q⌉

namespace Binary

/-- The exact value as a rational number. -/
def value (b : Binary) : ℚ := if b.negative then -b.magnitude else b.magnitude

lemma value_flip (b : Binary) : b.flip.value = -b.value := by
  have hflip : b.flip.value = if !b.negative then -b.magnitude else b.magnitude := rfl
  rw [hflip, value]
  cases b.negative <;> simp

lemma magnitude_nonneg (b : Binary) : 0 ≤ b.magnitude :=
  mul_nonneg (Nat.cast_nonneg _) (zpow_nonneg (by norm_num) _)

lemma floorAbs_eq_floor (b : Binary) : b.floorAbs = ⌊b.magnitude⌋₊ := by
  unfold floorAbs magnitude
  simp only [Nat.pow_eq]
  split_ifs with h
  · obtain ⟨n, hn⟩ := Int.eq_ofNat_of_zero_le h
    rw [hn, Int.toNat_natCast, zpow_natCast]
    exact_mod_cast (Nat.floor_natCast (R := ℚ) (b.mantissa * 2 ^ n)).symm
  · obtain ⟨n, hn⟩ := Int.eq_ofNat_of_zero_le (a := -b.exponent) (by omega)
    have hexponent : b.exponent = -n := by omega
    rw [hn, hexponent, Int.toNat_natCast, zpow_neg, zpow_natCast, ← div_eq_mul_inv]
    exact_mod_cast (Nat.floor_div_eq_div (K := ℚ) b.mantissa (2 ^ n)).symm

/-- A double is cut towards zero. -/
theorem truncate_eq_towardZero (b : Binary) : b.truncate = towardZero b.value := by
  have hfloor : (b.floorAbs : ℤ) = ⌊b.magnitude⌋ := by
    rw [floorAbs_eq_floor, Int.natCast_floor_eq_floor b.magnitude_nonneg]
  unfold truncate towardZero value
  rw [hfloor]
  cases b.negative with
  | false => simp [b.magnitude_nonneg]
  | true =>
    rw [if_pos rfl, if_pos rfl]
    split_ifs with h
    · have hzero : b.magnitude = 0 := le_antisymm (neg_nonneg.1 h) b.magnitude_nonneg
      rw [hzero]
      norm_num
    · rw [Int.ceil_neg]

/-- A natural number that a double can be without being rounded. -/
def IsExact (n : ℕ) : Prop := n < 2 ^ 53 ∨ ∃ m k : ℕ, Rounded m k ∧ k ≤ 971 ∧ n = m * 2 ^ k

lemma value_pack {m : ℕ} {e : ℤ} (hm : 0 < m) (h : Rounded m e) (he : e ≤ 971) :
    ∃ b, ofFloat? (.ofModel (.pack (.finite .positive m e hm))) = some b ∧
      b.value = m * 2 ^ e :=
  ⟨_, ofFloat?_pack (u := .finite .positive m e hm) ⟨h, he⟩, rfl⟩

lemma ofNat_eq_round {n : ℕ} (hn : 0 < n) (h : n < 2 ^ 53) :
    Float.ofNat n = .ofModel (.pack (round Format.binary64 .positive n 0)) := by
  have hfast : Float.ofNat n = n.toUInt64.toFloat * 1.0 := by
    show Float.ofScientific n false 0 = _
    unfold Float.ofScientific
    rw [dif_pos ⟨h, by norm_num⟩]
    rfl
  have hword : n.toUInt64.toNat = n := Nat.mod_eq_of_lt (show n < 2 ^ 64 by omega)
  have hcompare : compare (n : ℤ) 0 = .gt := Int.compare_eq_gt.2 (by omega)
  rw [hfast, Binary64.mul_one]
  show Float.ofModel (.pack (UnpackedFloat.normalize Format.binary64 (n.toUInt64.toNat : ℤ) 0 .positive)) = _
  rw [hword]
  unfold UnpackedFloat.normalize
  rw [hcompare]
  rfl

/-- A number of at most 53 bits is shifted until it has all of them. -/
lemma value_ofNat_small {n : ℕ} (hn : 0 < n) (h : n < 2 ^ 53) :
    ∃ b, ofFloat? (Float.ofNat n) = some b ∧ b.value = n := by
  have hlog : n.log2 < 53 := (Nat.log2_lt hn.ne').2 h
  obtain ⟨k, hk⟩ : ∃ k, k = 52 - n.log2 := ⟨_, rfl⟩
  have hm : 0 < n * 2 ^ k := by positivity
  have hrounded : Rounded (n * 2 ^ k) (-k) := by
    rw [Binary64.rounded_iff, Binary64.log2_mul_two_pow hn]
    omega
  have htarget : (0 - Format.binary64.targetExponent (totalExponent n 0)).toNat = k := by
    have hbits : (Format.binary64.mantissaBits : ℤ) = 53 := by decide
    have hmin : Format.binary64.minExponent = -1074 := by decide
    unfold Format.targetExponent totalExponent
    rw [hbits, hmin]
    omega
  have hround : round Format.binary64 .positive n 0 = .finite .positive (n * 2 ^ k) (-k) hm := by
    unfold UnpackedFloat.round
    simp only [decreaseExponent, htarget, Nat.shiftLeft_eq]
    have hexact := Binary64.round_mul_two_pow .positive hm hrounded 0
    rw [pow_zero, Nat.mul_one] at hexact
    simpa using hexact
  obtain ⟨b, hb, hvalue⟩ := value_pack hm hrounded (by omega)
  refine ⟨b, ?_, ?_⟩
  · rw [ofNat_eq_round hn h, hround]
    exact hb
  · rw [hvalue, zpow_neg, zpow_natCast]
    push_cast
    field_simp

lemma ofNat_eq_mul {n : ℕ} (h : 2 ^ 53 ≤ n) :
    Float.ofNat n = .ofModel (.pack (roundWithAccuracy Format.binary64 .positive (n * 2 ^ 53)
      (-53) .exact)) := by
  have hslow : Float.ofNat n = .ofModel (.ofScientific n 0) := by
    show Float.ofScientific n false 0 = _
    unfold Float.ofScientific
    rw [dif_neg fun hfast => absurd hfast.1 (not_lt.2 h)]
    rfl
  have hne : n ≠ 0 := by omega
  have hscientific : UnpackedFloat.ofScientific Format.binary64 n 0 =
      roundWithAccuracy Format.binary64 .positive (n * 2 ^ 53) (-53) .exact := by
    have hlow : ¬ (0 : ℤ) < -((2 ^ Format.binary64.exponentBits : ℤ) + n.log2) := by
      have : (2 ^ Format.binary64.exponentBits : ℤ) = 2048 := by decide
      omega
    unfold UnpackedFloat.ofScientific
    rw [dif_neg hne, if_neg (by decide), if_neg hlow, if_pos le_rfl]
    simp only [UnpackedFloat.mul, Nat.shiftLeft_eq, Int.toNat_zero, pow_zero, Nat.mul_one]
    rfl
  rw [hslow]
  show Float.ofModel (.pack (UnpackedFloat.ofScientific Format.binary64 n 0)) = _
  rw [hscientific]

lemma value_ofNat_large {m k : ℕ} (hrounded : Rounded m k) (hk : k ≤ 971) (h : 2 ^ 53 ≤ m * 2 ^ k) :
    ∃ b, ofFloat? (Float.ofNat (m * 2 ^ k)) = some b ∧ b.value = (m * 2 ^ k : ℕ) := by
  have hm : 0 < m := by
    by_contra hzero
    simp [Nat.eq_zero_of_not_pos hzero] at h
  have hround := Binary64.round_mul_two_pow .positive hm hrounded (k + 53)
  obtain ⟨b, hb, hvalue⟩ := value_pack hm hrounded (by omega)
  refine ⟨b, ?_, ?_⟩
  · rw [ofNat_eq_mul h, Nat.mul_assoc, ← Nat.pow_add,
      show (-53 : ℤ) = k + -((k + 53 : ℕ) : ℤ) by push_cast; ring, hround]
    exact hb
  · rw [hvalue, zpow_natCast]
    push_cast
    rfl

lemma value_ofNat {n : ℕ} (h : IsExact n) : ∃ b, ofFloat? (Float.ofNat n) = some b ∧ b.value = n := by
  rcases Nat.eq_zero_or_pos n with rfl | hn
  · refine ⟨⟨false, 0, -1074⟩, by decide +kernel, ?_⟩
    simp [value, magnitude]
  by_cases hsmall : n < 2 ^ 53
  · exact value_ofNat_small hn hsmall
  obtain ⟨m, k, hrounded, hk, rfl⟩ := h.resolve_left hsmall
  exact value_ofNat_large hrounded hk (not_lt.1 hsmall)

/-- An integer that is not rounded keeps its value. -/
theorem value_ofInt {n : ℤ} (h : IsExact n.natAbs) :
    ∃ b, ofFloat? (Float.ofInt n) = some b ∧ b.value = n := by
  cases n with
  | ofNat n =>
    obtain ⟨b, hb, hvalue⟩ := value_ofNat h
    exact ⟨b, hb, by rw [hvalue]; rfl⟩
  | negSucc n =>
    obtain ⟨b, hb, hvalue⟩ := value_ofNat h
    refine ⟨b.flip, ?_, ?_⟩
    · exact (ofFloat?_neg _).trans (congrArg (Option.map flip) hb)
    · rw [value_flip, hvalue]
      simp

lemma exponent_le_of_ofFloat? {x : Float} {b : Binary} (hx : ofFloat? x = some b) :
    b.exponent ≤ 971 := by
  unfold ofFloat? at hx
  simp only [Nat.pow_eq] at hx
  split_ifs at hx with hfull hnone
  · obtain rfl := Option.some.inj hx
    dsimp only
    omega
  · obtain rfl := Option.some.inj hx
    dsimp only
    omega

/-- What is left of a double by cutting it is not rounded. -/
theorem isExact_truncate {x : Float} {b : Binary} (hx : ofFloat? x = some b) :
    IsExact b.truncate.natAbs := by
  obtain ⟨hlt, hlow, hnormal⟩ := canonical_of_ofFloat? hx
  have habs : b.truncate.natAbs = b.floorAbs := by
    unfold truncate
    split_ifs <;> omega
  rw [habs, floorAbs]
  simp only [Nat.pow_eq]
  split_ifs with h
  · right
    have hlog : b.mantissa.log2 = 52 := by
      have hfull := hnormal (by omega)
      rw [Nat.log2_eq_iff (by omega)]
      exact ⟨hfull, hlt⟩
    have hexponent := exponent_le_of_ofFloat? hx
    refine ⟨b.mantissa, b.exponent.toNat, ?_, by omega, rfl⟩
    rw [Binary64.rounded_iff, hlog]
    omega
  · exact .inl ((Nat.div_le_self _ _).trans_lt hlt)

end Binary

/-- The exact value of a double that is neither infinite nor a NaN. -/
def value? (x : Float) : Option ℚ := (Binary.ofFloat? x).map Binary.value

lemma value?_neg (x : Float) : value? (-x) = (value? x).map Neg.neg := by
  unfold value?
  rw [Binary.ofFloat?_neg, Option.map_map, Option.map_map]
  exact congrArg (fun f => (Binary.ofFloat? x).map f) (funext Binary.value_flip)

lemma value?_eq_none_iff {x : Float} : value? x = none ↔ x.isNaN = true ∨ x.isInf = true := by
  unfold value?
  rw [Option.map_eq_none_iff, Binary.ofFloat?_eq]
  show _ ↔ x.toModel.unpack.isNaN = true ∨ x.toModel.unpack.isInf = true
  cases x.toModel.unpack with
  | notANumber | infinity => simp [Binary.ofUnpacked, UnpackedFloat.isNaN, UnpackedFloat.isInf]
  | zero s | finite s => cases s <;> simp [Binary.ofUnpacked, UnpackedFloat.isNaN, UnpackedFloat.isInf]

/-- A double that is cut to an integer is converted back without being rounded. -/
theorem value?_ofInt_towardZero {x : Float} {q : ℚ} (hx : value? x = some q) :
    value? (Float.ofInt (towardZero q)) = some (towardZero q : ℚ) := by
  obtain ⟨b, hb, rfl⟩ := Option.map_eq_some_iff.1 hx
  rw [← Binary.truncate_eq_towardZero]
  obtain ⟨c, hc, hvalue⟩ := Binary.value_ofInt (Binary.isExact_truncate hb)
  rw [value?, hc, Option.map_some, hvalue]

lemma towardZero_neg (q : ℚ) : towardZero (-q) = -towardZero q := by
  unfold towardZero
  rcases lt_trichotomy q 0 with hlt | rfl | hlt
  · rw [if_pos (by linarith), if_neg (by linarith), Int.floor_neg]
  · norm_num
  · rw [if_neg (by linarith), if_pos hlt.le, Int.ceil_neg]

end ChannelRules.Decimal
