import ChannelRules.Proofs.Decimal.Rounding
import Mathlib.Data.List.TakeWhile
import Mathlib.Data.Nat.Cast.Order.Field
import Mathlib.Data.Nat.Digits.Lemmas
import Mathlib.Tactic.FieldSimp
import Mathlib.Tactic.Linarith

/-!
# The shortest digits read back

The digits that are found for a double stand for a number that rounds to that double. Some are found
for every double: the multiples of a power of ten with seventeen digits lie so close to each other
that the nearest one rounds to it.
-/

namespace ChannelRules.Decimal

/-- The number with the given digits, most significant first. -/
def number (ds : List ℕ) : ℕ := Nat.ofDigits 10 ds.reverse

lemma number_append (ds es : List ℕ) : number (ds ++ es) = number ds * 10 ^ es.length + number es := by
  unfold number
  rw [List.reverse_append, Nat.ofDigits_append, List.length_reverse]
  ring

@[simp] lemma number_replicate_zero (k : ℕ) : number (List.replicate k 0) = 0 := by
  unfold number
  rw [List.reverse_replicate, Nat.ofDigits_replicate_zero]

lemma toNat_digitChar {d : ℕ} (h : d < 10) : (Nat.digitChar d).toNat - 48 = d := by
  rw [Nat.toNat_digitChar_of_lt_ten h]
  omega

lemma map_toDigits (n : ℕ) (hn : 0 < n) :
    (Nat.toDigits 10 n).map (fun c => c.toNat - 48) = (Nat.digits 10 n).reverse := by
  induction n using Nat.strong_induction_on with
  | _ n ih =>
    rw [Nat.digits_def' (by norm_num) hn, List.reverse_cons]
    by_cases hsmall : n < 10
    · rw [Nat.toDigits_of_lt_base hsmall, Nat.mod_eq_of_lt hsmall, Nat.div_eq_of_lt hsmall]
      simp [toNat_digitChar hsmall]
    · rw [Nat.toDigits_of_base_le (by norm_num) (by omega), List.map_append,
        ih (n / 10) (by omega) (by omega)]
      simp [toNat_digitChar (Nat.mod_lt n (by norm_num : 10 > 0))]

lemma natDigits_eq (n : ℕ) : natDigits n = (Nat.digits 10 n).reverse := by
  unfold natDigits
  split_ifs with hzero
  · rw [hzero, Nat.digits_zero, List.reverse_nil]
  · exact map_toDigits n (Nat.pos_of_ne_zero hzero)

@[simp] lemma number_natDigits (n : ℕ) : number (natDigits n) = n := by
  rw [number, natDigits_eq, List.reverse_reverse, Nat.ofDigits_digits]

lemma lt_ten_of_mem_natDigits {n d : ℕ} (h : d ∈ natDigits n) : d < 10 := by
  rw [natDigits_eq, List.mem_reverse] at h
  exact Nat.digits_lt_base (by norm_num) h

lemma lt_pow_length_natDigits (n : ℕ) : n < 10 ^ (natDigits n).length := by
  rw [natDigits_eq, List.length_reverse]
  exact Nat.lt_base_pow_length_digits (by norm_num)

lemma pow_length_natDigits_le {n : ℕ} (hn : 0 < n) : 10 ^ (natDigits n).length ≤ 10 * n := by
  rw [natDigits_eq, List.length_reverse]
  exact Nat.base_pow_length_digits_le 10 n (by norm_num) hn.ne'

def Digits.value (d : Digits) : ℚ := number d.digits * 10 ^ (d.point - d.digits.length)

/-- Zeros at the end can be taken off. -/
lemma exists_strip (ds : List ℕ) :
    ∃ k, ds = (ds.reverse.dropWhile (· == 0)).reverse ++ List.replicate k 0 := by
  have hzeros : ∀ d ∈ ds.reverse.takeWhile (· == 0), d = 0 :=
    fun d hd => beq_iff_eq.1 (List.mem_takeWhile_imp (p := (· == 0)) hd)
  refine ⟨(ds.reverse.takeWhile (· == 0)).length, ?_⟩
  calc ds = (ds.reverse.takeWhile (· == 0) ++ ds.reverse.dropWhile (· == 0)).reverse := by
        rw [List.takeWhile_append_dropWhile, List.reverse_reverse]
    _ = (ds.reverse.dropWhile (· == 0)).reverse ++
          List.replicate (ds.reverse.takeWhile (· == 0)).length 0 := by
        rw [List.reverse_append, List.eq_replicate_of_mem hzeros, List.reverse_replicate,
          List.length_replicate]

lemma value_strip (ds : List ℕ) (point : ℤ) :
    Digits.value ⟨(ds.reverse.dropWhile (· == 0)).reverse, point⟩ = Digits.value ⟨ds, point⟩ := by
  obtain ⟨k, hk⟩ := exists_strip ds
  generalize (ds.reverse.dropWhile (· == 0)).reverse = stripped at hk ⊢
  subst hk
  have hpow : (10 : ℚ) ^ (point - stripped.length) =
      10 ^ k * 10 ^ (point - (stripped.length + k : ℕ)) := by
    rw [← zpow_natCast, ← zpow_add₀ (by norm_num)]
    congr 1
    push_cast
    ring
  simp only [Digits.value, number_append, number_replicate_zero, List.length_append,
    List.length_replicate, hpow]
  push_cast
  ring

lemma tenTo_spec (k : ℤ) : 0 < (tenTo k).1 ∧ 0 < (tenTo k).2 ∧
    ((tenTo k).1 : ℚ) / (tenTo k).2 = 10 ^ k := by
  unfold tenTo
  split_ifs with hsign
  · obtain ⟨n, rfl⟩ := Int.eq_ofNat_of_zero_le hsign
    simp
  · obtain ⟨n, hn⟩ := Int.eq_ofNat_of_zero_le (a := -k) (by omega)
    obtain rfl : k = -n := by omega
    simp

/-- The factor of the nearest multiple of a power of ten that is not above the value. -/
def Rounding.below (r : Rounding) (k : ℤ) : ℕ :=
  r.value * (tenTo k).2 / (r.denominator * (tenTo k).1)

/-- The search on a grid finds a multiple that passes the test, or neither neighbour does. -/
lemma Rounding.onGrid_cases (r : Rounding) (k : ℤ) :
    (∃ n, r.onGrid k = some n ∧ r.holds (n * (tenTo k).1) (tenTo k).2 = true) ∨
      r.onGrid k = none ∧ r.holds (r.below k * (tenTo k).1) (tenTo k).2 = false ∧
        r.holds ((r.below k + 1) * (tenTo k).1) (tenTo k).2 = false := by
  unfold Rounding.onGrid Rounding.below
  dsimp only
  generalize r.value * (tenTo k).2 / (r.denominator * (tenTo k).1) = below
  cases hlow : r.holds (below * (tenTo k).1) (tenTo k).2 <;>
    cases hhigh : r.holds ((below + 1) * (tenTo k).1) (tenTo k).2
  · exact Or.inr ⟨rfl, rfl, rfl⟩
  · exact Or.inl ⟨_, rfl, hhigh⟩
  · exact Or.inl ⟨_, rfl, hlow⟩
  · refine Or.inl ⟨_, rfl, ?_⟩
    split
    · exact hhigh
    · exact hlow

variable {b : Binary} {k : ℤ}

lemma Rounding.holds_grid (hb : 0 < b.mantissa) (n : ℕ) :
    (Rounding.ofBinary b).holds (n * (tenTo k).1) (tenTo k).2 = true ↔ b.Rounds (n * 10 ^ k) := by
  obtain ⟨-, hdown, hpow⟩ := tenTo_spec k
  rw [Rounding.holds_iff hb hdown, ← hpow]
  push_cast
  rw [mul_div_assoc]

/-- What is found on a grid rounds to the double. -/
lemma Rounding.onGrid_rounds (hb : 0 < b.mantissa) {factor : ℕ}
    (h : (Rounding.ofBinary b).onGrid k = some factor) : b.Rounds (factor * 10 ^ k) := by
  rcases (Rounding.ofBinary b).onGrid_cases k with ⟨n, hn, hit⟩ | ⟨hnone, -⟩
  · obtain rfl := Option.some.inj (hn.symm.trans h)
    exact (Rounding.holds_grid hb n).1 hit
  · rw [hnone] at h
    cases h

/-- A number that is off by half a unit of the seventeenth digit at most rounds to the double. -/
lemma Binary.near_rounds (hcanonical : b.Canonical) {q : ℚ}
    (hb : 0 < b.mantissa) (hnear : |q - b.magnitude| * (2 * 10 ^ 16) ≤ b.magnitude) : b.Rounds q := by
  have hstep := step_pos b.exponent
  have hmost : (b.mantissa : ℚ) ≤ 2 ^ 53 := by exact_mod_cast hcanonical.mantissa_lt.le
  have hone : (1 : ℚ) ≤ b.mantissa := by exact_mod_cast hb
  have hoff : |q - b.magnitude| ≤ b.mantissa / (2 * 10 ^ 16) * 2 ^ b.exponent := by
    rw [div_mul_eq_mul_div, le_div_iff₀ (by norm_num)]
    exact hnear
  have hbelow : b.mantissa / (2 * 10 ^ 16) <
      (if b.mantissa = 2 ^ 52 ∧ -1074 < b.exponent then 1 / 4 else 1 / 2 : ℚ) := by
    split
    · next hmin =>
      rw [hmin.1]
      norm_num
    · linarith
  have hlower : b.lower < q := by
    have hle := (neg_le_abs (q - b.magnitude)).trans hoff
    have hlt := mul_lt_mul_of_pos_right hbelow hstep
    unfold lower
    unfold magnitude at hle
    linarith
  have hupper : q < b.upper := by
    have hle := (le_abs_self (q - b.magnitude)).trans hoff
    have hlt : b.mantissa / (2 * 10 ^ 16) * (2 : ℚ) ^ b.exponent < 1 / 2 * 2 ^ b.exponent :=
      mul_lt_mul_of_pos_right (by linarith) hstep
    unfold upper
    unfold magnitude at hle
    linarith
  exact ⟨hlower.le, hupper.le, fun _ => ⟨hlower, hupper⟩⟩

/-- A grid on which the value has seventeen digits has a multiple that rounds to the double. -/
lemma Rounding.onGrid_isSome (hcanonical : b.Canonical) (hb : 0 < b.mantissa)
    (hk : 10 ^ 16 * 10 ^ k ≤ b.magnitude) : (Rounding.ofBinary b).onGrid k ≠ none := by
  obtain ⟨hup, hdown, hpow⟩ := tenTo_spec k
  have hgrid : (0 : ℚ) < 10 ^ k := zpow_pos (by norm_num) k
  have hden := Rounding.denominator_pos b
  set r := Rounding.ofBinary b with hr
  have hquotient : ((r.value * (tenTo k).2 : ℕ) : ℚ) / (r.denominator * (tenTo k).1 : ℕ) =
      b.magnitude / 10 ^ k := by
    rw [← Rounding.value_div, ← hpow, ← hr]
    have hne : ((tenTo k).2 : ℚ) ≠ 0 := by exact_mod_cast hdown.ne'
    push_cast
    field_simp
  have hfloor : (r.below k : ℚ) * 10 ^ k ≤ b.magnitude := by
    rw [← le_div_iff₀ hgrid, ← hquotient]
    exact Nat.cast_div_le
  have hceil : b.magnitude < (r.below k + 1) * 10 ^ k := by
    rw [← div_lt_iff₀ hgrid, ← hquotient, div_lt_iff₀ (by exact_mod_cast Nat.mul_pos hden hup)]
    have hlt := Nat.lt_mul_div_succ (r.value * (tenTo k).2) (Nat.mul_pos hden hup)
    rw [Nat.mul_comm (r.denominator * (tenTo k).1)] at hlt
    exact_mod_cast hlt
  -- one of the two multiples is at most half a step away
  have hhit : b.Rounds (r.below k * 10 ^ k) ∨ b.Rounds ((r.below k + 1 : ℕ) * 10 ^ k) := by
    rcases le_total (2 * (b.magnitude - r.below k * 10 ^ k)) (10 ^ k) with hclose | hfar
    · refine Or.inl (Binary.near_rounds hcanonical hb ?_)
      rw [abs_of_nonpos (by linarith)]
      linarith
    · refine Or.inr (Binary.near_rounds hcanonical hb ?_)
      push_cast
      rw [abs_of_pos (by linarith)]
      linarith
  rcases r.onGrid_cases k with ⟨n, hn, -⟩ | ⟨-, hlow, hhigh⟩
  · rw [hn]
    exact Option.some_ne_none n
  · rw [← Bool.not_eq_true, Rounding.holds_grid hb] at hlow hhigh
    exact absurd hhit (not_or.2 ⟨hlow, hhigh⟩)

/-- The first digit of a quotient is no zero. -/
lemma decimalPoint_le {num den : ℕ} (hnum : 0 < num) (hden : 0 < den) :
    (10 : ℚ) ^ (decimalPoint num den - 1) ≤ num / den := by
  unfold decimalPoint
  set guess : ℤ := ((natDigits num).length : ℤ) - (natDigits den).length with hguess
  obtain ⟨hup, hdown, hpow⟩ := tenTo_spec guess
  simp only
  split_ifs with hle
  · rw [Rounding.ratioLe_iff hdown hden, hpow] at hle
    rwa [add_sub_cancel_right]
  · have hnumerator : (10 : ℚ) ^ (natDigits num).length ≤ 10 * num := by
      exact_mod_cast pow_length_natDigits_le hnum
    have hdenominator : (den : ℚ) ≤ 10 ^ (natDigits den).length := by
      exact_mod_cast (lt_pow_length_natDigits den).le
    have hpos : (0 : ℚ) < den := by exact_mod_cast hden
    rw [le_div_iff₀ hpos]
    calc (10 : ℚ) ^ (guess - 1) * den ≤ 10 ^ (guess - 1) * 10 ^ (natDigits den).length :=
          mul_le_mul_of_nonneg_left hdenominator (zpow_pos (by norm_num) _).le
      _ = 10 ^ (natDigits num).length / 10 := by
          rw [← zpow_natCast, ← zpow_natCast, ← zpow_add₀ (by norm_num),
            div_eq_mul_inv, ← zpow_sub_one₀ (by norm_num)]
          congr 1
          omega
      _ ≤ num := by linarith

/-- What the search finds stands for the multiple that some grid has given. -/
lemma Rounding.search_spec {r : Rounding} {point : ℤ} {fuel count : ℕ} {d : Digits}
    (h : r.search point fuel count = some d) :
    (∀ digit ∈ d.digits, digit < 10) ∧ ∃ k factor, r.onGrid k = some factor ∧
      d.value = factor * 10 ^ k := by
  induction fuel generalizing count with
  | zero => cases h
  | succ fuel ih =>
    rw [search] at h
    split at h
    · next factor hfactor =>
      obtain rfl := Option.some.inj h
      refine ⟨fun digit hdigit => ?_, _, factor, hfactor, ?_⟩
      · exact lt_ten_of_mem_natDigits
          (List.mem_reverse.1 (List.dropWhile_sublist _ |>.subset (List.mem_reverse.1 hdigit)))
      · rw [value_strip, Digits.value, number_natDigits]
        congr 2
        ring
    · exact ih h

/-- The search ends when a grid that it comes to has a multiple. -/
lemma Rounding.search_ne_none {r : Rounding} {point : ℤ} {fuel count last : ℕ}
    (hcount : count ≤ last) (hlast : last < count + fuel) (h : r.onGrid (point - last) ≠ none) :
    r.search point fuel count ≠ none := by
  induction fuel generalizing count with
  | zero => omega
  | succ fuel ih =>
    rw [search]
    split
    · exact Option.some_ne_none _
    · next hnone =>
      have hne : count ≠ last := by
        rintro rfl
        exact h hnone
      exact ih (by omega) (by omega)

/-- The shortest digits of a positive double stand for a number that rounds to it. -/
theorem shortest_rounds (hcanonical : b.Canonical) (hb : 0 < b.mantissa) :
    b.Rounds (shortest b).value ∧ ∀ digit ∈ (shortest b).digits, digit < 10 := by
  set r := Rounding.ofBinary b with hr
  have hvalue : 0 < r.value := by
    obtain ⟨unit, den, hunit, -, -, heq⟩ := Rounding.ofBinary_eq b
    rw [hr, heq]
    exact Nat.mul_pos (by norm_num) (Nat.mul_pos hb hunit)
  have hpoint := decimalPoint_le hvalue (Rounding.denominator_pos b)
  rw [Rounding.value_div] at hpoint
  have hgrid : r.onGrid (decimalPoint r.value r.denominator - (17 : ℕ)) ≠ none := by
    refine Rounding.onGrid_isSome hcanonical hb ?_
    rw [← zpow_natCast, ← zpow_add₀ (by norm_num)]
    convert hpoint using 2
    push_cast
    ring
  have hfound := @Rounding.search_ne_none r _ 17 1 17 (by norm_num) (by norm_num) hgrid
  obtain ⟨d, hd⟩ := Option.ne_none_iff_exists'.1 hfound
  have hshortest : shortest b = d := by
    unfold shortest
    rw [← hr]
    simp only [hd, Option.getD_some]
  obtain ⟨hdigits, k, factor, hfactor, heq⟩ := Rounding.search_spec hd
  rw [hshortest, heq]
  exact ⟨Rounding.onGrid_rounds hb hfactor, hdigits⟩

end ChannelRules.Decimal
