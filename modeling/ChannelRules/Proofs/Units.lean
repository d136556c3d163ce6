import ChannelRules.Units
import Mathlib

/-!
# Base units are fixed

A base unit is converted to itself by the factor one. Multiplication of a double by one is the
identity: the product of the mantissas ends in as many zeros as rounding takes off again, and the
special values stay what they are. So an amount of a base unit is not changed by its conversion.
-/

namespace ChannelRules

namespace Binary64

open Float.Model Float.Model.UnpackedFloat

/-- Shifting a mantissa down takes off the zeros that it ends in, and loses nothing. -/
lemma shiftRight_mul_two_pow (m n : Nat) :
    n.repeat ExtendedMantissa.shiftRightOne ⟨m * 2 ^ n, false, false⟩ = ⟨m, false, false⟩ := by
  induction n generalizing m with
  | zero => simp [Nat.repeat]
  | succ n ih =>
    have hpow : m * 2 ^ (n + 1) = (m * 2) * 2 ^ n := by
      rw [Nat.pow_succ, Nat.mul_comm (2 ^ n) 2, Nat.mul_assoc]
    rw [Nat.repeat, hpow, ih]
    simp [ExtendedMantissa.shiftRightOne]

lemma log2_mul_two_pow {m : Nat} (hm : 0 < m) (n : Nat) : (m * 2 ^ n).log2 = m.log2 + n := by
  have hne : m * 2 ^ n ≠ 0 := Nat.mul_ne_zero (by omega) (Nat.ne_of_gt (Nat.two_pow_pos n))
  rw [Nat.log2_eq_iff hne]
  have h := (Nat.log2_eq_iff (n := m) (k := m.log2) (by omega)).1 rfl
  constructor
  · rw [Nat.pow_add]
    exact Nat.mul_le_mul_right _ h.1
  · rw [show m.log2 + n + 1 = m.log2 + 1 + n by omega, Nat.pow_add]
    exact Nat.mul_lt_mul_of_pos_right h.2 (Nat.two_pow_pos n)

/-- Mantissa and exponent are those that the format asks for. -/
def Rounded (m : Nat) (e : Int) : Prop :=
  Format.binary64.targetExponent (totalExponent m e) = e

lemma shift_rounded {m : Nat} {e : Int} (h : Rounded m e) :
    shiftToTargetExponent Format.binary64 m e .exact = (⟨m, false, false⟩, e) := by
  unfold Rounded at h
  simp only [shiftToTargetExponent, shiftToExponent, h, Int.sub_self, Int.toNat_zero,
    ExtendedMantissa.ofMantissaAndAccuracy]
  simp only [HShiftRight.hShiftRight, Nat.repeat]
  simp

lemma round_mul_two_pow {m : Nat} {e : Int} (s : UnpackedFloat.Sign) (hm : 0 < m) (h : Rounded m e)
    (n : Nat) :
    roundWithAccuracy Format.binary64 s (m * 2 ^ n) (e + -n) .exact = .finite s m e hm := by
  have htotal : totalExponent (m * 2 ^ n) (e + -n) = totalExponent m e := by
    unfold totalExponent
    rw [log2_mul_two_pow hm]
    omega
  have hfirst : shiftToTargetExponent Format.binary64 (m * 2 ^ n) (e + -n) .exact =
      (⟨m, false, false⟩, e) := by
    simp only [shiftToTargetExponent, shiftToExponent, htotal]
    have ht := h
    unfold Rounded at ht
    rw [ht]
    have hn : (e - (e + -(n : Int))).toNat = n := by omega
    rw [hn]
    simp only [ExtendedMantissa.ofMantissaAndAccuracy, HShiftRight.hShiftRight,
      shiftRight_mul_two_pow]
    congr 1
    omega
  unfold roundWithAccuracy
  rw [hfirst]
  have hmant : (⟨m, false, false⟩ : ExtendedMantissa).roundedMantissa = m := rfl
  simp only [hmant, shift_rounded h]
  rw [dif_neg (by omega)]

lemma log2_append_one (v : BitVec 52) : (1#1 ++ v).toNat.log2 = 52 := by
  have hlt : v.toNat < 2 ^ 52 := v.isLt
  have heq : (1#1 ++ v).toNat = 2 ^ 52 + v.toNat := by
    rw [BitVec.toNat_append, Nat.shiftLeft_eq, Nat.mul_comm, ← Nat.two_pow_add_eq_or_of_lt hlt]
    simp
  rw [Nat.log2_eq_iff (by omega), heq]
  omega

lemma rounded_iff {m : Nat} {e : Int} :
    Rounded m e ↔ max (m.log2 + 1 + e - 53) (-1074) = e := by
  have hbits : (Format.binary64.mantissaBits : Int) = 53 := by decide
  have hmin : Format.binary64.minExponent = -1074 := by decide
  unfold Rounded Format.targetExponent totalExponent
  rw [hbits, hmin]

/-- The number one. -/
def one : UnpackedFloat := .finite .positive (2 ^ 52) (-52) (by decide)

lemma mul_one_finite (s : UnpackedFloat.Sign) {m : Nat} {e : Int} (hm : 0 < m) (h : Rounded m e) :
    UnpackedFloat.mul Format.binary64 (.finite s m e hm) one = .finite s m e hm := by
  have hs : s * .positive = s := by cases s <;> rfl
  have hround := round_mul_two_pow s hm h 52
  simp only [UnpackedFloat.mul, one, hs]
  exact hround

lemma rounded_subnormal {m : Nat} (h : m.log2 < 52) : Rounded m (-1074) := by
  rw [rounded_iff]
  omega

lemma rounded_normal (v : BitVec 52) {e : Nat} (h : 0 < e) :
    Rounded (1#1 ++ v).toNat (e - (1023 + 52)) := by
  rw [rounded_iff, log2_append_one]
  omega

/-- The mantissa and the exponent of a double are those that the format asks for. -/
lemma rounded_of_unpack {b : BitVec Format.binary64.numBits} {s : UnpackedFloat.Sign} {m : Nat}
    {e : Int} {hm : 0 < m} (h : UnpackedFloat.unpack Format.binary64 b = .finite s m e hm) :
    Rounded m e := by
  simp only [UnpackedFloat.unpack] at h
  split at h
  · split at h <;> cases h
  · split at h
    · rename_i hexponent
      split at h
      · cases h
      · cases h
        have hlog : (unpackMantissa b).toNat.log2 < 52 :=
          (Nat.log2_lt (Nat.ne_of_gt hm)).2 (unpackMantissa b).isLt
        rw [hexponent]
        exact rounded_subnormal hlog
    · rename_i hexponent
      cases h
      refine rounded_normal (unpackMantissa b) ?_
      rwa [BitVec.toNat_pos, BitVec.pos_iff_ne_zero]

lemma mul_one_unpack (b : BitVec Format.binary64.numBits) :
    UnpackedFloat.mul Format.binary64 (UnpackedFloat.unpack Format.binary64 b) one =
      UnpackedFloat.unpack Format.binary64 b := by
  have hs : ∀ s : UnpackedFloat.Sign, s * .positive = s := fun s => by cases s <;> rfl
  cases h : UnpackedFloat.unpack Format.binary64 b with
  | finite s m e hm => exact mul_one_finite s hm (rounded_of_unpack h)
  | infinity s => simp only [UnpackedFloat.mul, one, hs]
  | zero s => simp only [UnpackedFloat.mul, one, hs]
  | notANumber => rfl

/-- Multiplication by one is the identity, on infinities and on the NaN as well. -/
theorem mul_one (x : Float) : x * 1.0 = x := by
  obtain ⟨⟨bits, hv⟩⟩ := x
  have hone : (1.0 : Float).toModel.unpack = one := by rfl
  have hbits : (UnpackedFloat.mul Format.binary64
      (UnpackedFloat.unpack Format.binary64 bits.toBitVec) one).pack Format.binary64 =
        bits.toBitVec := by
    -- this lemma about doubles comes with the whole library only
    rw [mul_one_unpack, pack_unpack_of_valid hv]
  show Float.ofModel (Float.Model.pack (UnpackedFloat.mul Format.binary64 _ _)) = _
  rw [hone]
  congr 1
  unfold Float.Model.pack
  congr 1
  exact congrArg UInt64.ofBitVec hbits

end Binary64

namespace MeasureUnit

/-- The units that amounts are converted to. -/
def baseUnits : List String := ["ms", "m", "mps", "kg", "Pa", "C", "kcal", "byte"]

lemma base_mem_baseUnits : ∀ unit ∈ table, unit.base ∈ baseUnits := by
  decide

lemma find?_baseUnit {symbol : String} (h : symbol ∈ baseUnits) :
    find? symbol = some ⟨symbol, symbol, .linear 1.0⟩ := by
  simp only [baseUnits, List.mem_cons, List.not_mem_nil, or_false] at h
  rcases h with rfl | rfl | rfl | rfl | rfl | rfl | rfl | rfl <;> rfl

/-- The base unit of a unit is itself in the table, with the factor one. -/
lemma find?_base {symbol : String} {unit : MeasureUnit} (h : find? symbol = some unit) :
    find? unit.base = some ⟨unit.base, unit.base, .linear 1.0⟩ := by
  have hmem : unit ∈ table := List.mem_of_find?_eq_some h
  exact find?_baseUnit (base_mem_baseUnits unit hmem)

lemma toBase_one (x : Float) : (Conversion.linear 1.0).toBase x = x := by
  unfold Conversion.toBase
  exact Binary64.mul_one x

end MeasureUnit

end ChannelRules
