import ChannelRules.Proofs.Decimal.Binary
import ChannelRules.Proofs.Units

/-!
# Doubles and how they are packed

A mantissa and an exponent that the format asks for are not changed by packing. The exact value of
a double therefore changes its sign and nothing else when the double is negated, or multiplied by
minus one.
-/

namespace ChannelRules.Decimal

open Float.Model Float.Model.UnpackedFloat
open Binary64 (Rounded)

namespace Binary

/-- The same magnitude with the other sign. -/
def flip (b : Binary) : Binary := { b with negative := !b.negative }

/-- An unpacked double that the format has room for. -/
def Fits : UnpackedFloat → Prop
  | .finite _ m e _ => Rounded m e ∧ e ≤ 971
  | _ => True

lemma toNat_packComponents (s : UnpackedFloat.Sign) (e : BitVec 11) (m : BitVec 52) :
    (packComponents Format.binary64 s e m).toNat =
      s.toBitVec.toNat * 2 ^ 63 + e.toNat * 2 ^ 52 + m.toNat := by
  have he : e.toNat < 2 ^ 11 := e.isLt
  have hm : m.toNat < 2 ^ 52 := m.isLt
  unfold packComponents
  rw [BitVec.toNat_append, BitVec.toNat_append, Nat.shiftLeft_eq, Nat.shiftLeft_eq,
    Nat.mul_comm _ (2 ^ 11), Nat.mul_comm _ (2 ^ 52), ← Nat.two_pow_add_eq_or_of_lt he,
    ← Nat.two_pow_add_eq_or_of_lt hm]
  ring

/-- The mantissa of a double has at most 53 bits, and fewer only at the least exponent. -/
lemma bounds_of_rounded {m : ℕ} {e : ℤ} (hm : 0 < m) (h : Rounded m e) :
    -1074 ≤ e ∧ m < 2 ^ 53 ∧ (2 ^ 52 ≤ m ∨ e = -1074) := by
  rw [Binary64.rounded_iff] at h
  have hlt : m < 2 ^ 53 := (Nat.log2_lt hm.ne').1 (by omega)
  have hle : 2 ^ 52 ≤ m ↔ 52 ≤ m.log2 := (Nat.le_log2 hm.ne').symm
  omega

lemma toNat_pack_finite {s : UnpackedFloat.Sign} {m : ℕ} {e : ℤ} {hm : 0 < m} (h : Rounded m e)
    (he : e ≤ 971) :
    (pack Format.binary64 (.finite s m e hm)).toNat =
      s.toBitVec.toNat * 2 ^ 63 + (if 2 ^ 52 ≤ m then (e + 1075).toNat else 0) * 2 ^ 52 +
        m % 2 ^ 52 := by
  obtain ⟨hlow, hlt, hnormal⟩ := bounds_of_rounded hm h
  have hbits : Format.binary64.mantissaBits = 53 := rfl
  have hbias : e + (Format.binary64.exponentBias : ℤ) + (52 : ℕ) = e + 1075 := by
    have : (Format.binary64.exponentBias : ℤ) = 1023 := rfl
    omega
  have hlog : m.log2 + 1 = 53 ↔ 2 ^ 52 ≤ m := by
    have hle : 52 ≤ m.log2 ↔ 2 ^ 52 ≤ m := Nat.le_log2 hm.ne'
    have hless : m.log2 < 53 ↔ m < 2 ^ 53 := Nat.log2_lt hm.ne'
    omega
  simp only [UnpackedFloat.pack, hbias, hbits, hlog]
  rw [if_neg (show ¬ 2 ^ 11 ≤ (e + 1075).toNat + 1 by omega)]
  split
  · rw [toNat_packComponents, BitVec.toNat_ofNat, BitVec.toNat_ofNat,
      Nat.mod_eq_of_lt (show (e + 1075).toNat < 2 ^ 11 by omega)]
  · rw [toNat_packComponents, BitVec.toNat_ofNat]
    rfl

/-- What is packed has the exact value that it had before. -/
lemma ofUnpacked_unpack_pack {u : UnpackedFloat} (h : Fits u) :
    ofUnpacked (unpack Format.binary64 (pack Format.binary64 u)) = ofUnpacked u := by
  cases u with
  | notANumber => rfl
  | infinity s => cases s <;> rfl
  | zero s => cases s <;> rfl
  | finite s m e hm =>
    obtain ⟨hrounded, he⟩ := h
    obtain ⟨hlow, hlt, hnormal⟩ := bounds_of_rounded hm hrounded
    obtain ⟨scale, hscale⟩ : ∃ n, n = if 2 ^ 52 ≤ m then (e + 1075).toNat else 0 := ⟨_, rfl⟩
    obtain ⟨bits, hbits⟩ : ∃ n, n = s.toBitVec.toNat * 2 ^ 63 + scale * 2 ^ 52 + m % 2 ^ 52 := ⟨_, rfl⟩
    rw [ofUnpacked_fields, toNat_pack_finite hrounded he, ← hscale, ← hbits]
    have hone : s.toBitVec.toNat < 2 := s.toBitVec.isLt
    have hlarge : scale < 2047 := by
      split_ifs at hscale <;> omega
    have hfields : bits / 2 ^ 52 % 2 ^ 11 = scale ∧ bits % 2 ^ 52 = m % 2 ^ 52 ∧
        (2 ^ 63 ≤ bits ↔ s.toBitVec.toNat = 1) := by omega
    obtain ⟨hexponent, hmantissa, hsign⟩ := hfields
    have hvalue : ofUnpacked (.finite s m e hm) = some ⟨decide (2 ^ 63 ≤ bits), m, e⟩ := by
      cases s with
      | negative =>
        rw [decide_eq_true (hsign.2 rfl)]
        rfl
      | positive =>
        rw [decide_eq_false fun h => nomatch hsign.1 h]
        rfl
    rw [hexponent, hmantissa, hvalue, if_neg hlarge.ne]
    by_cases hfull : 2 ^ 52 ≤ m
    · rw [if_pos hfull] at hscale
      rw [if_neg (by omega), show m % 2 ^ 52 + 2 ^ 52 = m by omega,
        show (scale : ℤ) - 1075 = e by omega]
    · rw [if_neg hfull] at hscale
      rw [if_pos hscale, Nat.mod_eq_of_lt (not_le.1 hfull), hnormal.resolve_left hfull]

/-- What is unpacked fits. -/
lemma fits_unpack (bits : BitVec Format.binary64.numBits) :
    Fits (unpack Format.binary64 bits) := by
  cases h : unpack Format.binary64 bits with
  | notANumber | infinity | zero => trivial
  | finite s m e hm =>
    refine ⟨Binary64.rounded_of_unpack h, ?_⟩
    have hfields := ofUnpacked_fields bits
    have hvalue : ∃ negative, ofUnpacked (.finite s m e hm) = some ⟨negative, m, e⟩ := by
      cases s <;> exact ⟨_, rfl⟩
    obtain ⟨negative, hvalue⟩ := hvalue
    rw [h, hvalue] at hfields
    have hscale : bits.toNat / 2 ^ 52 % 2 ^ 11 < 2 ^ 11 := Nat.mod_lt _ (by decide)
    split_ifs at hfields with hfull hzero
    · have hexponent : e = -1074 := congrArg Binary.exponent (Option.some.inj hfields)
      omega
    · have hexponent : e = (bits.toNat / 2 ^ 52 % 2 ^ 11 : ℕ) - 1075 :=
        congrArg Binary.exponent (Option.some.inj hfields)
      omega

/-- The exact value of a double that is packed. -/
lemma ofFloat?_pack {u : UnpackedFloat} (h : Fits u) :
    ofFloat? (.ofModel (.pack u)) = ofUnpacked u := by
  rw [ofFloat?_eq]
  exact ofUnpacked_unpack_pack h

lemma ofUnpacked_neg (u : UnpackedFloat) : ofUnpacked u.neg = (ofUnpacked u).map flip := by
  cases u with
  | notANumber | infinity => rfl
  | zero s => cases s <;> rfl
  | finite s m e hm => cases s <;> rfl

lemma ofFloat?_neg (x : Float) : ofFloat? (-x) = (ofFloat? x).map flip := by
  have hfits : Fits x.toModel.unpack.neg := by
    have h := fits_unpack x.toModel.toBits.toBitVec
    change Fits x.toModel.unpack at h
    cases hx : x.toModel.unpack with
    | notANumber | infinity | zero => trivial
    | finite s m e hm => rwa [hx] at h
  rw [ofFloat?_eq x, ← ofUnpacked_neg]
  exact ofFloat?_pack hfits

/-- Multiplication by minus one is negation. -/
theorem mul_neg_one (x : Float) : x * (-1.0) = -x := by
  have hone : (-1.0 : Float).toModel.unpack = .finite .negative (2 ^ 52) (-52) (by decide) := by rfl
  have hsign : ∀ s : UnpackedFloat.Sign, s * .negative = -s := fun s => by cases s <;> rfl
  have hmul : UnpackedFloat.mul Format.binary64 x.toModel.unpack
      (.finite .negative (2 ^ 52) (-52) (by decide)) = x.toModel.unpack.neg := by
    have hfits := fits_unpack x.toModel.toBits.toBitVec
    change Fits x.toModel.unpack at hfits
    cases hx : x.toModel.unpack with
    | notANumber => rfl
    | infinity s | zero s => simp only [UnpackedFloat.mul, UnpackedFloat.neg, hsign]
    | finite s m e hm =>
      rw [hx] at hfits
      simp only [UnpackedFloat.mul, UnpackedFloat.neg, hsign]
      exact Binary64.round_mul_two_pow _ hm hfits.1 52
  show Float.ofModel (.pack (UnpackedFloat.mul Format.binary64 x.toModel.unpack _)) =
    Float.ofModel (.pack x.toModel.unpack.neg)
  rw [hone, hmul]

end Binary

end ChannelRules.Decimal
