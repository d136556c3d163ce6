import ChannelRules.Decimal.Shortest
import ChannelRules.Proofs.Decimal.Binary
import Mathlib.Algebra.Order.Field.Rat
import Mathlib.Tactic.FieldSimp
import Mathlib.Tactic.Linarith

/-!
# The numbers that round to a double

They form an interval around its value, and the intervals of different doubles have no number in
common: where two of them meet, the number between them belongs to the one with the even mantissa.
-/

namespace ChannelRules.Decimal

namespace Binary

/-- The lower end of the numbers that round to a positive double. Below a power of two the doubles
are half as far apart as above it. -/
def lower (b : Binary) : ℚ :=
  (b.mantissa - if b.mantissa = 2 ^ 52 ∧ -1074 < b.exponent then 1 / 4 else 1 / 2) * 2 ^ b.exponent

/-- The upper end of the numbers that round to a positive double. -/
def upper (b : Binary) : ℚ := (b.mantissa + 1 / 2) * 2 ^ b.exponent

/-- A number rounds to a positive double. The ends count if the mantissa is even. -/
def Rounds (b : Binary) (q : ℚ) : Prop :=
  b.lower ≤ q ∧ q ≤ b.upper ∧ (¬ Even b.mantissa → b.lower < q ∧ q < b.upper)

lemma step_pos (e : ℤ) : (0 : ℚ) < 2 ^ e := zpow_pos (by norm_num) e

lemma lower_le (b : Binary) : (b.mantissa - 1 / 2) * 2 ^ b.exponent ≤ b.lower := by
  unfold lower
  refine mul_le_mul_of_nonneg_right ?_ (step_pos _).le
  split <;> linarith

lemma lower_lt_magnitude (b : Binary) : b.lower < b.magnitude := by
  unfold lower magnitude
  refine mul_lt_mul_of_pos_right ?_ (step_pos _)
  split <;> linarith

lemma magnitude_lt_upper (b : Binary) : b.magnitude < b.upper := by
  unfold upper magnitude
  refine mul_lt_mul_of_pos_right ?_ (step_pos _)
  linarith

/-- A double rounds to itself. -/
lemma rounds_magnitude (b : Binary) : b.Rounds b.magnitude :=
  ⟨b.lower_lt_magnitude.le, b.magnitude_lt_upper.le,
    fun _ => ⟨b.lower_lt_magnitude, b.magnitude_lt_upper⟩⟩

/-- Only positive numbers round to a positive double. -/
lemma Rounds.pos {b : Binary} {q : ℚ} (h : b.Rounds q) (hb : 0 < b.mantissa) : 0 < q := by
  have hone : (1 : ℚ) ≤ b.mantissa := by exact_mod_cast hb
  calc (0 : ℚ) < (b.mantissa - 1 / 2) * 2 ^ b.exponent := mul_pos (by linarith) (step_pos _)
    _ ≤ b.lower := b.lower_le
    _ ≤ q := h.1

/-- One double comes before another one. -/
def Before (b c : Binary) : Prop :=
  b.exponent < c.exponent ∨ b.exponent = c.exponent ∧ b.mantissa < c.mantissa

lemma before_trichotomy (b c : Binary) :
    b.Before c ∨ b.exponent = c.exponent ∧ b.mantissa = c.mantissa ∨ c.Before b := by
  unfold Before
  omega

/-- If the exponent is not the least one, then the mantissa has all its bits, and the interval reaches
no more than a quarter of a step below the least such mantissa. -/
lemma le_lower_of_normal {c : Binary} (hc : 2 ^ 52 ≤ c.mantissa) (hexponent : -1074 < c.exponent) :
    (2 ^ 52 - 1 / 4) * (2 : ℚ) ^ c.exponent ≤ c.lower := by
  refine mul_le_mul_of_nonneg_right ?_ (step_pos _).le
  split
  · next hmin =>
    rw [hmin.1]
    norm_num
  · next hmin =>
    have hmore : 2 ^ 52 + 1 ≤ c.mantissa := by
      have hne : c.mantissa ≠ 2 ^ 52 := fun h => hmin ⟨h, hexponent⟩
      omega
    have : (2 : ℚ) ^ 52 + 1 ≤ c.mantissa := by exact_mod_cast hmore
    linarith

lemma upper_le_of_exponent_lt {b c : Binary} (h : b.exponent < c.exponent) (hb : b.Canonical)
    (hc : c.Canonical) :
    b.upper ≤ c.lower ∧ (b.upper = c.lower → b.mantissa + 1 = 2 ^ 53) := by
  have hexponent := lt_of_le_of_lt hb.exponent_ge h
  have hmost : (b.mantissa : ℚ) + 1 ≤ 2 ^ 53 := by exact_mod_cast hb.mantissa_lt
  have hdouble : 2 * (2 : ℚ) ^ b.exponent ≤ 2 ^ c.exponent := by
    rw [mul_comm, ← zpow_add_one₀ (by norm_num)]
    exact zpow_le_zpow_right₀ (by norm_num) h
  have hlower : (2 ^ 53 - 1 / 2) * (2 : ℚ) ^ b.exponent ≤ c.lower := calc
    (2 ^ 53 - 1 / 2) * (2 : ℚ) ^ b.exponent
        = (2 ^ 52 - 1 / 4) * (2 * 2 ^ b.exponent) := by ring
    _ ≤ (2 ^ 52 - 1 / 4) * 2 ^ c.exponent := mul_le_mul_of_nonneg_left hdouble (by norm_num)
    _ ≤ c.lower := le_lower_of_normal (hc.normal hexponent) hexponent
  have hupper : b.upper ≤ (2 ^ 53 - 1 / 2) * (2 : ℚ) ^ b.exponent :=
    mul_le_mul_of_nonneg_right (by linarith) (step_pos _).le
  refine ⟨hupper.trans hlower, fun hmeet => ?_⟩
  have hends : (b.mantissa + 1 / 2 : ℚ) = 2 ^ 53 - 1 / 2 :=
    mul_right_cancel₀ (step_pos b.exponent).ne' (le_antisymm hupper (hlower.trans hmeet.ge))
  have hfull : (b.mantissa : ℚ) + 1 = 2 ^ 53 := by linarith
  exact_mod_cast hfull

lemma upper_le_of_mantissa_lt {b c : Binary} (heq : b.exponent = c.exponent)
    (h : b.mantissa < c.mantissa) :
    b.upper ≤ c.lower ∧ (b.upper = c.lower → b.mantissa + 1 = c.mantissa) := by
  have hnext : (b.mantissa : ℚ) + 1 ≤ c.mantissa := by exact_mod_cast h
  have hlower := c.lower_le
  rw [← heq] at hlower
  have hupper : b.upper ≤ (c.mantissa - 1 / 2) * (2 : ℚ) ^ b.exponent :=
    mul_le_mul_of_nonneg_right (by linarith) (step_pos _).le
  refine ⟨hupper.trans hlower, fun hmeet => ?_⟩
  have hends : (b.mantissa + 1 / 2 : ℚ) = c.mantissa - 1 / 2 :=
    mul_right_cancel₀ (step_pos b.exponent).ne' (le_antisymm hupper (hlower.trans hmeet.ge))
  have hadjacent : (b.mantissa : ℚ) + 1 = c.mantissa := by linarith
  exact_mod_cast hadjacent

/-- The interval of a double ends where that of a later one begins, or before. Where they meet, one
of the mantissas is odd. -/
lemma Before.upper_le_lower {b c : Binary} (h : b.Before c) (hb : b.Canonical) (hc : c.Canonical) :
    b.upper ≤ c.lower ∧ (b.upper = c.lower → ¬ Even b.mantissa ∨ ¬ Even c.mantissa) := by
  rw [Nat.even_iff, Nat.even_iff]
  rcases h with hlt | ⟨heq, hlt⟩
  · obtain ⟨hle, hmeet⟩ := upper_le_of_exponent_lt hlt hb hc
    refine ⟨hle, fun h => ?_⟩
    have hfull := hmeet h
    omega
  · obtain ⟨hle, hmeet⟩ := upper_le_of_mantissa_lt heq hlt
    refine ⟨hle, fun h => ?_⟩
    have hadjacent := hmeet h
    omega

lemma Before.apart {b c : Binary} (h : b.Before c) (hb : b.Canonical) (hc : c.Canonical) {q : ℚ}
    (hbq : b.Rounds q) : ¬ c.Rounds q := by
  intro hcq
  obtain ⟨hle, hmeet⟩ := h.upper_le_lower hb hc
  have hends : b.upper = c.lower := le_antisymm hle (hcq.1.trans hbq.2.1)
  rcases hmeet hends with hodd | hodd
  · exact absurd (hcq.1.trans_lt (hbq.2.2 hodd).2) (not_lt.2 hle)
  · exact absurd ((hcq.2.2 hodd).1.trans_le hbq.2.1) (not_lt.2 hle)

/-- No number rounds to two different doubles. -/
theorem Rounds.unique {b c : Binary} {q : ℚ} (hbq : b.Rounds q) (hcq : c.Rounds q)
    (hb : b.Canonical) (hc : c.Canonical) :
    b.exponent = c.exponent ∧ b.mantissa = c.mantissa := by
  rcases before_trichotomy b c with h | h | h
  · exact absurd hcq (h.apart hb hc hbq)
  · exact h
  · exact absurd hbq (h.apart hc hb hcq)

end Binary

namespace Rounding

/-- The bounds are multiples of one number, which is the step between doubles over a common
denominator. -/
lemma ofBinary_eq (b : Binary) : ∃ unit den : ℕ, 0 < unit ∧ 0 < den ∧
    (unit : ℚ) / den = 2 ^ b.exponent ∧ ofBinary b =
      ⟨4 * (b.mantissa * unit) - (if b.mantissa = 2 ^ 52 ∧ -1074 < b.exponent then unit else 2 * unit),
        4 * (b.mantissa * unit), 4 * (b.mantissa * unit) + 2 * unit, 4 * den,
        b.mantissa % 2 == 0⟩ := by
  by_cases hsign : 0 ≤ b.exponent
  · obtain ⟨n, hn⟩ := Int.eq_ofNat_of_zero_le hsign
    refine ⟨2 ^ n, 1, Nat.two_pow_pos n, Nat.one_pos, by simp [hn], ?_⟩
    simp [ofBinary, Binary.ratio, hn]
  · obtain ⟨n, hn⟩ := Int.eq_ofNat_of_zero_le (a := -b.exponent) (by omega)
    have hexponent : b.exponent = -n := by omega
    refine ⟨1, 2 ^ n, Nat.one_pos, Nat.two_pow_pos n, by simp [hexponent], ?_⟩
    simp [ofBinary, Binary.ratio, hsign, hn]

variable {b : Binary}

lemma denominator_pos (b : Binary) : 0 < (ofBinary b).denominator := by
  obtain ⟨unit, den, -, hden, -, heq⟩ := ofBinary_eq b
  rw [heq]
  exact Nat.mul_pos (by norm_num) hden

lemma value_div (b : Binary) :
    ((ofBinary b).value : ℚ) / (ofBinary b).denominator = b.magnitude := by
  obtain ⟨unit, den, -, hden, hstep, heq⟩ := ofBinary_eq b
  rw [heq, Binary.magnitude, ← hstep]
  have hne : (den : ℚ) ≠ 0 := by exact_mod_cast hden.ne'
  push_cast
  field_simp

lemma low_div (hb : 0 < b.mantissa) :
    ((ofBinary b).low : ℚ) / (ofBinary b).denominator = b.lower := by
  obtain ⟨unit, den, hunit, hden, hstep, heq⟩ := ofBinary_eq b
  rw [heq, Binary.lower, ← hstep]
  have hne : (den : ℚ) ≠ 0 := by exact_mod_cast hden.ne'
  have hle : unit ≤ b.mantissa * unit := Nat.le_mul_of_pos_left unit hb
  split_ifs
  · push_cast [Nat.cast_sub (show unit ≤ 4 * (b.mantissa * unit) by omega)]
    field_simp
  · push_cast [Nat.cast_sub (show 2 * unit ≤ 4 * (b.mantissa * unit) by omega)]
    field_simp
    ring

lemma high_div (b : Binary) :
    ((ofBinary b).high : ℚ) / (ofBinary b).denominator = b.upper := by
  obtain ⟨unit, den, -, hden, hstep, heq⟩ := ofBinary_eq b
  rw [heq, Binary.upper, ← hstep]
  have hne : (den : ℚ) ≠ 0 := by exact_mod_cast hden.ne'
  push_cast
  field_simp
  ring

lemma ratioLe_iff {a b c d : ℕ} (hb : 0 < b) (hd : 0 < d) :
    ratioLe a b c d = true ↔ (a : ℚ) / b ≤ c / d := by
  rw [ratioLe, decide_eq_true_iff, div_le_div_iff₀ (by exact_mod_cast hb) (by exact_mod_cast hd)]
  norm_cast

lemma ratioLt_iff {a b c d : ℕ} (hb : 0 < b) (hd : 0 < d) :
    ratioLt a b c d = true ↔ (a : ℚ) / b < c / d := by
  rw [ratioLt, decide_eq_true_iff, div_lt_div_iff₀ (by exact_mod_cast hb) (by exact_mod_cast hd)]
  norm_cast

/-- The test of the search is that the number rounds to the double. -/
theorem holds_iff (hb : 0 < b.mantissa) {n d : ℕ} (hd : 0 < d) :
    (ofBinary b).holds n d = true ↔ b.Rounds (n / d) := by
  have hden := denominator_pos b
  have hclosed : (ofBinary b).closed = true ↔ Even b.mantissa := by
    obtain ⟨unit, den, -, -, -, heq⟩ := ofBinary_eq b
    rw [heq, Nat.even_iff, beq_iff_eq]
  unfold holds Binary.Rounds
  split
  · next hmantissa =>
    rw [Bool.and_eq_true, ratioLe_iff hden hd, ratioLe_iff hd hden, low_div hb, high_div]
    have heven := hclosed.1 hmantissa
    tauto
  · next hmantissa =>
    rw [Bool.and_eq_true, ratioLt_iff hden hd, ratioLt_iff hd hden, low_div hb, high_div]
    have hodd := mt hclosed.2 hmantissa
    exact ⟨fun h => ⟨h.1.le, h.2.le, fun _ => h⟩, fun h => h.2.2 hodd⟩

end Rounding

end ChannelRules.Decimal
