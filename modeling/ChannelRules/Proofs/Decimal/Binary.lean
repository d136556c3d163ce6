import ChannelRules.Decimal.Binary
import Mathlib.Algebra.Order.Field.Rat
import Mathlib.Tactic.Positivity
import Mathlib.Tactic.Ring

/-!
# Doubles and their exact values

The fields that are read from the bits of a double are those of its unpacked form. Two finite
doubles are therefore equal as numbers exactly if their exact values have the same fields, or are
both zero. A mantissa has at most 53 bits, and it has fewer only at the least exponent.
-/

namespace ChannelRules.Decimal

open Float.Model

namespace Binary

/-- The exact value of an unpacked double. -/
def ofUnpacked : UnpackedFloat → Option Binary
  | .finite .positive m e _ => some ⟨false, m, e⟩
  | .finite .negative m e _ => some ⟨true, m, e⟩
  | .zero .positive => some ⟨false, 0, -1074⟩
  | .zero .negative => some ⟨true, 0, -1074⟩
  | .infinity _ | .notANumber => none

/-- A value without its sign, as a rational number. -/
def magnitude (b : Binary) : ℚ := b.mantissa * 2 ^ b.exponent

/-- A mantissa and an exponent that a double can have. -/
structure Canonical (b : Binary) : Prop where
  mantissa_lt : b.mantissa < 2 ^ 53
  exponent_ge : -1074 ≤ b.exponent
  normal : -1074 < b.exponent → 2 ^ 52 ≤ b.mantissa

lemma toNat_unpackMantissa (bits : BitVec Format.binary64.numBits) :
    (UnpackedFloat.unpackMantissa bits).toNat = bits.toNat % 2 ^ 52 := by
  unfold UnpackedFloat.unpackMantissa
  rw [BitVec.toNat_cast, BitVec.extractLsb_toNat]
  rfl

lemma toNat_unpackExponent (bits : BitVec Format.binary64.numBits) :
    (UnpackedFloat.unpackExponent bits).toNat = bits.toNat / 2 ^ 52 % 2 ^ 11 := by
  unfold UnpackedFloat.unpackExponent
  rw [BitVec.toNat_cast, BitVec.extractLsb_toNat, Nat.shiftRight_eq_div_pow]
  rfl

lemma toNat_unpackSign (bits : BitVec Format.binary64.numBits) :
    (UnpackedFloat.unpackSign bits).toNat = bits.toNat / 2 ^ 63 := by
  unfold UnpackedFloat.unpackSign
  rw [BitVec.toNat_cast, BitVec.extractLsb_toNat, Nat.shiftRight_eq_div_pow]
  have hlt : bits.toNat < 2 ^ 64 := bits.isLt
  exact Nat.mod_eq_of_lt (show bits.toNat / 2 ^ 63 < 2 ^ 1 by omega)

lemma toNat_append_one (v : BitVec 52) : (1#1 ++ v).toNat = v.toNat + 2 ^ 52 := by
  have hlt : v.toNat < 2 ^ 52 := v.isLt
  rw [BitVec.toNat_append, Nat.shiftLeft_eq, Nat.mul_comm, ← Nat.two_pow_add_eq_or_of_lt hlt]
  simp [Nat.add_comm]

/-- The sign of an unpacked double is the first of its bits. -/
lemma sign_ofBitVec (bits : BitVec Format.binary64.numBits) :
    UnpackedFloat.Sign.ofBitVec (UnpackedFloat.unpackSign bits) =
      if 2 ^ 63 ≤ bits.toNat then .negative else .positive := by
  have hsign := toNat_unpackSign bits
  have hlt : bits.toNat < 2 ^ 64 := bits.isLt
  unfold UnpackedFloat.Sign.ofBitVec
  by_cases hneg : 2 ^ 63 ≤ bits.toNat
  · rw [if_pos hneg, if_neg]
    intro hzero
    rw [hzero] at hsign
    have : bits.toNat / 2 ^ 63 = 0 := hsign.symm
    omega
  · rw [if_neg hneg, if_pos]
    refine BitVec.eq_of_toNat_eq (hsign.trans ?_)
    show bits.toNat / 2 ^ 63 = 0
    omega

lemma ofUnpacked_zero (negative : Prop) [Decidable negative] :
    ofUnpacked (.zero (if negative then .negative else .positive)) =
      some ⟨decide negative, 0, -1074⟩ := by
  by_cases h : negative
  · rw [if_pos h, decide_eq_true h]
    rfl
  · rw [if_neg h, decide_eq_false h]
    rfl

lemma ofUnpacked_finite (negative : Prop) [Decidable negative] {m : ℕ} {e : ℤ} (hm : 0 < m) :
    ofUnpacked (.finite (if negative then .negative else .positive) m e hm) =
      some ⟨decide negative, m, e⟩ := by
  by_cases h : negative
  · rw [if_pos h, decide_eq_true h]
    rfl
  · rw [if_neg h, decide_eq_false h]
    rfl

/-- The exact value of an unpacked double, by the fields of its bits. -/
lemma ofUnpacked_fields (bits : BitVec Format.binary64.numBits) :
    ofUnpacked (UnpackedFloat.unpack Format.binary64 bits) =
      if bits.toNat / 2 ^ 52 % 2 ^ 11 = 2047 then none
      else if bits.toNat / 2 ^ 52 % 2 ^ 11 = 0 then
        some ⟨decide (2 ^ 63 ≤ bits.toNat), bits.toNat % 2 ^ 52, -1074⟩
      else some ⟨decide (2 ^ 63 ≤ bits.toNat), bits.toNat % 2 ^ 52 + 2 ^ 52,
        (bits.toNat / 2 ^ 52 % 2 ^ 11 : ℕ) - 1075⟩ := by
  have hmantissa := toNat_unpackMantissa bits
  have hscale := toNat_unpackExponent bits
  unfold UnpackedFloat.unpack
  change ofUnpacked (if UnpackedFloat.unpackExponent bits = -1#11 then _
    else if UnpackedFloat.unpackExponent bits = 0#11 then _ else _) = _
  rw [← hscale, ← hmantissa]
  by_cases hmax : UnpackedFloat.unpackExponent bits = -1#11
  · have hfull : (UnpackedFloat.unpackExponent bits).toNat = 2047 := congrArg BitVec.toNat hmax
    rw [if_pos hmax, if_pos hfull]
    split <;> rfl
  have hfull : ¬ (UnpackedFloat.unpackExponent bits).toNat = 2047 :=
    fun h => hmax (BitVec.eq_of_toNat_eq h)
  rw [if_neg hmax, if_neg hfull]
  by_cases hmin : UnpackedFloat.unpackExponent bits = 0#11
  · have hnone : (UnpackedFloat.unpackExponent bits).toNat = 0 := congrArg BitVec.toNat hmin
    rw [if_pos hmin, if_pos hnone]
    by_cases hzero : UnpackedFloat.unpackMantissa bits = 0#52
    · have hnought : (UnpackedFloat.unpackMantissa bits).toNat = 0 := congrArg BitVec.toNat hzero
      rw [dif_pos hzero, hnought, sign_ofBitVec, ofUnpacked_zero]
    · rw [dif_neg hzero, sign_ofBitVec, ofUnpacked_finite, hnone]
      rfl
  · have hnone : ¬ (UnpackedFloat.unpackExponent bits).toNat = 0 :=
      fun h => hmin (BitVec.eq_of_toNat_eq h)
    rw [if_neg hmin, if_neg hnone, sign_ofBitVec, ofUnpacked_finite]
    exact congrArg (fun m => some (Binary.mk _ m _)) (toNat_append_one _)

/-- The exact value of a double is that of its unpacked form. -/
theorem ofFloat?_eq (x : Float) : ofFloat? x = ofUnpacked x.toModel.unpack :=
  (ofUnpacked_fields x.toModel.toBits.toBitVec).symm

/-- Finite doubles have at most 53 bits of mantissa, and fewer only at the least exponent. -/
lemma canonical_of_ofFloat? {x : Float} {b : Binary} (h : ofFloat? x = some b) : b.Canonical := by
  have hfraction : x.toBits.toNat % 2 ^ 52 < 2 ^ 52 := Nat.mod_lt _ (by decide)
  unfold ofFloat? at h
  simp only [Nat.pow_eq] at h
  split_ifs at h with hfull hnone
  · obtain rfl := Option.some.inj h
    exact ⟨by dsimp only; omega, le_rfl, fun hlt => absurd hlt (lt_irrefl _)⟩
  · obtain rfl := Option.some.inj h
    exact ⟨by dsimp only; omega, by dsimp only; omega, fun _ => by dsimp only; omega⟩

lemma compare_eq_iff {u v : UnpackedFloat} {a b : Binary} (hu : ofUnpacked u = some a)
    (hv : ofUnpacked v = some b) :
    u.compare v = some .eq ↔ a = b ∨ a.mantissa = 0 ∧ b.mantissa = 0 := by
  cases u with
  | infinity s => cases hu
  | notANumber => cases hu
  | zero s =>
    cases v with
    | infinity t => cases hv
    | notANumber => cases hv
    | zero t =>
      cases s <;> cases t <;> cases hu <;> cases hv <;> exact iff_of_true rfl (.inr ⟨rfl, rfl⟩)
    | finite t m' e' hm' =>
      cases s <;> cases t <;> cases hu <;> cases hv <;>
        exact iff_of_false nofun fun h => absurd h (by simp [hm'.ne, hm'.ne'])
  | finite s m e hm =>
    cases v with
    | infinity t => cases hv
    | notANumber => cases hv
    | zero t =>
      cases s <;> cases t <;> cases hu <;> cases hv <;>
        exact iff_of_false nofun fun h => absurd h (by simp [hm.ne'])
    | finite t m' e' hm' =>
      cases s <;> cases t <;> cases hu <;> cases hv <;>
        unfold UnpackedFloat.compare <;> dsimp only <;>
        simp [Ordering.then_eq_eq, hm.ne', and_comm]

/-- Finite doubles are equal as numbers if they have the same exact value, or are both zero. -/
theorem beq_iff {x y : Float} {a b : Binary} (hx : ofFloat? x = some a) (hy : ofFloat? y = some b) :
    (x == y) = true ↔ a = b ∨ a.mantissa = 0 ∧ b.mantissa = 0 := by
  rw [ofFloat?_eq] at hx hy
  rw [← compare_eq_iff hx hy]
  exact beq_iff_eq (a := UnpackedFloat.compare x.toModel.unpack y.toModel.unpack)

/-- A double without an exact value that is no NaN is infinite. -/
lemma exists_infinity {x : Float} (hx : ofFloat? x = none) (hnan : x.isNaN = false) :
    ∃ s, x.toModel.unpack = .infinity s := by
  rw [ofFloat?_eq] at hx
  change x.toModel.unpack.isNaN = false at hnan
  cases h : x.toModel.unpack with
  | infinity s => exact ⟨s, rfl⟩
  | notANumber => rw [h] at hnan; cases hnan
  | zero s => rw [h] at hx; cases s <;> cases hx
  | finite s m e hm => rw [h] at hx; cases s <;> cases hx

/-- The sign of an infinity decides whether it is above zero. -/
lemma pos_iff_of_infinity {x : Float} {s : UnpackedFloat.Sign}
    (hx : x.toModel.unpack = .infinity s) : 0 < x ↔ s = .positive := by
  have hzero : (0 : Float).toModel.unpack = .zero .positive := by rfl
  show decide ((UnpackedFloat.compare (0 : Float).toModel.unpack x.toModel.unpack == some .lt) = true)
    = true ↔ _
  rw [decide_eq_true_iff, beq_iff_eq, hzero, hx]
  cases s with
  | positive => exact iff_of_true rfl rfl
  | negative => exact iff_of_false nofun nofun

/-- An infinity equals no double but itself. -/
lemma beq_iff_of_infinity {x y : Float} {s : UnpackedFloat.Sign}
    (hx : x.toModel.unpack = .infinity s) :
    (x == y) = true ↔ y.toModel.unpack = .infinity s := by
  show (UnpackedFloat.compare x.toModel.unpack y.toModel.unpack == some .eq) = true ↔ _
  rw [hx, beq_iff_eq]
  cases y.toModel.unpack with
  | infinity t =>
    cases s <;> cases t
    · exact iff_of_true rfl rfl
    · exact iff_of_false nofun nofun
    · exact iff_of_false nofun nofun
    · exact iff_of_true rfl rfl
  | notANumber => exact iff_of_false nofun nofun
  | zero t => cases s <;> exact iff_of_false nofun nofun
  | finite t m e hm => cases s <;> exact iff_of_false nofun nofun

end Binary
end ChannelRules.Decimal
