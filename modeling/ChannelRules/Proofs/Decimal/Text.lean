import ChannelRules.Decimal.Text
import ChannelRules.Proofs.Decimal.Order
import ChannelRules.Proofs.Decimal.Shortest
import Mathlib.Data.Nat.Cast.Field
import Mathlib.Tactic.FieldSimp
import Mathlib.Tactic.IntervalCases
import Mathlib.Tactic.Linarith

/-!
# Texts of numbers

What is written for a finite double is a decimal whose value rounds to it, and no number rounds to
two doubles. So two doubles that are no NaNs have the same text exactly if they are equal as
numbers.
-/

namespace ChannelRules.Decimal

/-- A character of a decimal without a sign. -/
def IsNumeral (c : Char) : Prop := c.isDigit = true ∨ c = '.'

/-- The value of a decimal without a sign: the number before the point, and the digits after it as a
fraction. -/
def numeralValue (cs : List Char) : ℚ :=
  let fraction := (cs.dropWhile (· != '.')).drop 1
  Nat.ofDigitChars 10 (cs.takeWhile (· != '.')) 0 +
    Nat.ofDigitChars 10 fraction 0 / 10 ^ fraction.length

/-- The text is a decimal, with a sign or without one, and has the value. -/
def Shows (text : String) (q : ℚ) : Prop :=
  ∃ cs, (∀ c ∈ cs, IsNumeral c) ∧
    (text.toList = cs ∧ numeralValue cs = q ∨ text.toList = '-' :: cs ∧ numeralValue cs = -q)

lemma IsNumeral.ne {c d : Char} (h : IsNumeral c) (hd : d.isDigit = false) (hpoint : d ≠ '.') :
    c ≠ d := by
  rintro rfl
  rcases h with h | h
  · rw [hd] at h
    cases h
  · exact hpoint h

/-- A text is no decimal with two different values. -/
lemma Shows.unique {text : String} {p q : ℚ} (hp : Shows text p) (hq : Shows text q) : p = q := by
  obtain ⟨cs, hcs, hp⟩ := hp
  obtain ⟨ds, hds, hq⟩ := hq
  have hsign : ∀ es : List Char, (∀ c ∈ es, IsNumeral c) → ∀ fs, es ≠ '-' :: fs := by
    rintro es hes fs rfl
    exact (hes '-' List.mem_cons_self).ne rfl (by decide) rfl
  rcases hp with ⟨hcs', hp⟩ | ⟨hcs', hp⟩ <;> rcases hq with ⟨hds', hq⟩ | ⟨hds', hq⟩ <;>
    rw [hcs'] at hds'
  · rw [← hp, ← hq, hds']
  · exact absurd hds' (hsign cs hcs ds)
  · exact absurd hds'.symm (hsign ds hds cs)
  · rw [← neg_inj, ← hp, ← hq, List.cons_inj_right _ |>.1 hds']

/-- The characters of a decimal. -/
lemma Shows.mem {text : String} {q : ℚ} (h : Shows text q) {c : Char} (hc : c ∈ text.toList) :
    IsNumeral c ∨ c = '-' := by
  obtain ⟨cs, hcs, ⟨heq, -⟩ | ⟨heq, -⟩⟩ := h
  · exact Or.inl (hcs c (heq ▸ hc))
  · rw [heq, List.mem_cons] at hc
    exact hc.symm.imp (hcs c) id

lemma Shows.neg {text : String} {q : ℚ} {cs : List Char} (hcs : ∀ c ∈ cs, IsNumeral c)
    (htext : text.toList = cs) (hq : numeralValue cs = q) (negative : Bool) :
    Shows (signed negative text) (if negative then -q else q) := by
  cases negative with
  | false => exact ⟨cs, hcs, Or.inl ⟨htext, hq⟩⟩
  | true =>
    refine ⟨cs, hcs, Or.inr ⟨?_, ?_⟩⟩
    · show ("-" ++ text).toList = '-' :: cs
      rw [String.toList_append, htext]
      rfl
    · rw [hq, if_pos rfl, neg_neg]

lemma ofNat_eq_digitChar {d : ℕ} (h : d < 10) : Char.ofNat (48 + d) = Nat.digitChar d := by
  interval_cases d <;> rfl

lemma isDigit_ne_point {c : Char} (h : c.isDigit = true) : (c != '.') = true := by
  rw [bne_iff_ne]
  rintro rfl
  cases h

section DigitText

variable {ds : List ℕ} (hds : ∀ d ∈ ds, d < 10)
include hds

lemma toList_digitText : (digitText ds).toList = ds.map Nat.digitChar := by
  rw [digitText, String.toList_ofList]
  exact List.map_congr_left fun d hd => ofNat_eq_digitChar (hds d hd)

lemma isDigit_of_mem_digitText {c : Char} (hc : c ∈ (digitText ds).toList) : c.isDigit = true := by
  rw [toList_digitText hds, List.mem_map] at hc
  obtain ⟨d, hd, rfl⟩ := hc
  rw [Nat.isDigit_digitChar, decide_eq_true (hds d hd)]

lemma ofDigitChars_digitText : Nat.ofDigitChars 10 (digitText ds).toList 0 = number ds := by
  rw [toList_digitText hds]
  induction ds using List.reverseRecOn with
  | nil => rfl
  | append_singleton ds d ih =>
    have hd : d < 10 := hds d (by simp)
    rw [List.map_append, Nat.ofDigitChars_append, ih fun e he => hds e (by simp [he]), number_append]
    simp [Nat.ofDigitChars, Nat.toNat_digitChar_of_lt_ten hd, number, Nat.mul_comm]

end DigitText

/-- A run of digits is the number that it is written for. -/
lemma numeralValue_digits {cs : List Char} (h : ∀ c ∈ cs, c.isDigit = true) :
    numeralValue cs = Nat.ofDigitChars 10 cs 0 := by
  have hno : ∀ c ∈ cs, (c != '.') = true := fun c hc => isDigit_ne_point (h c hc)
  unfold numeralValue
  rw [List.takeWhile_eq_self_iff.2 hno, List.dropWhile_eq_nil_iff.2 hno]
  simp

/-- Digits, a point and digits. -/
lemma numeralValue_point {whole fraction : List Char} (h : ∀ c ∈ whole, c.isDigit = true) :
    numeralValue (whole ++ '.' :: fraction) =
      Nat.ofDigitChars 10 whole 0 + Nat.ofDigitChars 10 fraction 0 / 10 ^ fraction.length := by
  have hno : ∀ c ∈ whole, (c != '.') = true := fun c hc => isDigit_ne_point (h c hc)
  unfold numeralValue
  rw [List.takeWhile_append_of_pos hno, List.dropWhile_append_of_pos hno]
  simp

/-- Digits, a point and digits are all the digits as a fraction. -/
lemma point_numeral {whole fraction : List ℕ} (hw : ∀ d ∈ whole, d < 10)
    (hf : ∀ d ∈ fraction, d < 10) :
    (∀ c ∈ (digitText whole ++ "." ++ digitText fraction).toList, IsNumeral c) ∧
      numeralValue (digitText whole ++ "." ++ digitText fraction).toList =
        number (whole ++ fraction) * 10 ^ (-fraction.length : ℤ) := by
  have htext : (digitText whole ++ "." ++ digitText fraction).toList =
      (digitText whole).toList ++ '.' :: (digitText fraction).toList := by
    rw [String.toList_append, String.toList_append, List.append_assoc]
    rfl
  rw [htext]
  constructor
  · intro c hc
    rw [List.mem_append, List.mem_cons] at hc
    rcases hc with hc | hc | hc
    · exact Or.inl (isDigit_of_mem_digitText hw hc)
    · exact Or.inr hc
    · exact Or.inl (isDigit_of_mem_digitText hf hc)
  · rw [numeralValue_point fun c hc => isDigit_of_mem_digitText hw hc, ofDigitChars_digitText hw,
      ofDigitChars_digitText hf, toList_digitText hf, List.length_map, number_append, zpow_neg,
      zpow_natCast]
    push_cast
    field_simp

/-- Positional notation shows the number that the digits stand for. -/
lemma positional_numeral {d : Digits} (hd : ∀ digit ∈ d.digits, digit < 10) :
    (∀ c ∈ d.positional.toList, IsNumeral c) ∧ numeralValue d.positional.toList = d.value := by
  have hzeros : ∀ k : ℕ, ∀ digit ∈ List.replicate k 0, digit < 10 := by
    intro k digit hdigit
    rw [List.eq_of_mem_replicate hdigit]
    norm_num
  unfold Digits.positional Digits.value
  simp only
  split_ifs with hsmall hinside
  · obtain ⟨n, hn⟩ := Int.eq_ofNat_of_zero_le (a := -d.point) (by omega)
    obtain ⟨hnumeral, hvalue⟩ := @point_numeral [0] (List.replicate n 0 ++ d.digits) (by simp)
      (List.forall_mem_append.2 ⟨hzeros n, hd⟩)
    have hexponent : d.point - d.digits.length = -(List.replicate n 0 ++ d.digits).length := by
      rw [List.length_append, List.length_replicate]
      push_cast
      omega
    rw [hn, Int.toNat_natCast, hexponent]
    refine ⟨hnumeral, hvalue.trans ?_⟩
    rw [number_append, number_append, number_replicate_zero]
    simp [number]
  · obtain ⟨n, hn⟩ := Int.eq_ofNat_of_zero_le (a := d.point) (by omega)
    obtain ⟨hnumeral, hvalue⟩ := point_numeral (fun digit h => hd digit (List.mem_of_mem_take h))
      fun digit h => hd digit (List.mem_of_mem_drop (i := n) h)
    have hexponent : d.point - d.digits.length = -(d.digits.drop n).length := by
      rw [List.length_drop]
      omega
    rw [hn, Int.toNat_natCast, ← hn, hexponent]
    refine ⟨hnumeral, hvalue.trans ?_⟩
    rw [List.take_append_drop]
  · obtain ⟨n, hn⟩ := Int.eq_ofNat_of_zero_le (a := d.point - d.digits.length) (by omega)
    have hdigits := List.forall_mem_append.2 ⟨hd, hzeros n⟩
    rw [hn, Int.toNat_natCast]
    refine ⟨fun c hc => Or.inl (isDigit_of_mem_digitText hdigits hc), ?_⟩
    rw [numeralValue_digits fun c hc => isDigit_of_mem_digitText hdigits hc,
      ofDigitChars_digitText hdigits, number_append, number_replicate_zero, List.length_replicate,
      zpow_natCast]
    push_cast
    ring

lemma repr_numeral (n : ℕ) :
    (∀ c ∈ (Nat.repr n).toList, IsNumeral c) ∧ numeralValue (Nat.repr n).toList = n := by
  have hdigits : ∀ c ∈ (Nat.repr n).toList, c.isDigit = true := by
    intro c hc
    rw [Nat.toList_repr] at hc
    exact Nat.isDigit_of_mem_toDigits (by norm_num) (by norm_num) hc
  refine ⟨fun c hc => Or.inl (hdigits c hc), ?_⟩
  rw [numeralValue_digits hdigits, Nat.toList_repr,
    Nat.ofDigitChars_toDigits (by norm_num) (by norm_num)]

/-- An integer in decimal. -/
lemma shows_toString (i : ℤ) : Shows (toString i) i := by
  cases i with
  | ofNat n =>
    obtain ⟨hnumeral, hvalue⟩ := repr_numeral n
    exact ⟨(Nat.repr n).toList, hnumeral, Or.inl ⟨rfl, by simpa using hvalue⟩⟩
  | negSucc n =>
    obtain ⟨hnumeral, hvalue⟩ := repr_numeral (n + 1)
    refine ⟨(Nat.repr (n + 1)).toList, hnumeral, Or.inr ⟨?_, ?_⟩⟩
    · show ("-" ++ Nat.repr (n + 1)).toList = _
      rw [String.toList_append]
      rfl
    · rw [hvalue, Int.cast_negSucc, neg_neg]

variable {x y : Float} {a b : Binary}

/-- An integral value is the part before its binary point. -/
lemma floorAbs_of_isIntegral (h : b.isIntegral = true) : (b.floorAbs : ℚ) = b.magnitude := by
  unfold Binary.isIntegral at h
  unfold Binary.floorAbs Binary.magnitude
  rw [Bool.or_eq_true, decide_eq_true_iff, beq_iff_eq] at h
  split_ifs with hsign
  · obtain ⟨n, hn⟩ := Int.eq_ofNat_of_zero_le hsign
    simp [hn]
  · obtain ⟨n, hn⟩ := Int.eq_ofNat_of_zero_le (a := -b.exponent) (by omega)
    have hexponent : b.exponent = -n := by omega
    have hdvd : 2 ^ n ∣ b.mantissa := by
      rw [hn, Int.toNat_natCast] at h
      exact Nat.dvd_of_mod_eq_zero (h.resolve_left hsign)
    rw [hn, hexponent, Int.toNat_natCast, zpow_neg, zpow_natCast]
    simp only [Nat.pow_eq]
    rw [Nat.cast_div hdvd (by positivity)]
    push_cast
    rw [div_eq_mul_inv]

/-- The text of a finite double shows a number that rounds to its magnitude, with its sign. -/
def ShowsRounded (b : Binary) (text : String) : Prop :=
  ∃ q, b.Rounds q ∧ (b.mantissa = 0 → q = 0) ∧ Shows text (if b.negative then -q else q)

lemma plain_shows (hx : Binary.ofFloat? x = some b) : ShowsRounded b (plain x) := by
  have hcanonical := Binary.canonical_of_ofFloat? hx
  unfold plain
  rw [hx]
  dsimp only
  split_ifs with hzero
  · have hmagnitude : b.magnitude = 0 := by simp [Binary.magnitude, hzero]
    refine ⟨b.magnitude, b.rounds_magnitude, fun _ => hmagnitude, ?_⟩
    obtain ⟨hnumeral, hvalue⟩ := repr_numeral 0
    exact Shows.neg hnumeral rfl (by rw [hmagnitude, hvalue, Nat.cast_zero]) b.negative
  · have hb : 0 < b.mantissa := Nat.pos_of_ne_zero hzero
    obtain ⟨hrounds, hdigits⟩ := shortest_rounds hcanonical hb
    obtain ⟨hnumeral, hvalue⟩ := positional_numeral hdigits
    exact ⟨_, hrounds, fun h => absurd h hzero, Shows.neg hnumeral rfl hvalue b.negative⟩

/-- Every text of a finite double shows a number that rounds to it. -/
lemma amount_shows (hx : Binary.ofFloat? x = some b) : ShowsRounded b (amount x) := by
  unfold amount
  rw [hx]
  dsimp only
  split_ifs with hintegral
  · rw [Bool.and_eq_true] at hintegral
    have hfloor := floorAbs_of_isIntegral hintegral.1
    refine ⟨b.magnitude, b.rounds_magnitude, fun h => by simp [Binary.magnitude, h], ?_⟩
    have htruncate : (b.truncate : ℚ) = if b.negative then -b.magnitude else b.magnitude := by
      unfold Binary.truncate
      split_ifs <;> push_cast <;> rw [hfloor]
    rw [← htruncate]
    exact shows_toString b.truncate
  · exact plain_shows hx

/-- A text that shows numbers that round to two doubles: they are equal as numbers. -/
lemma ShowsRounded.unique {text : String} (hb : ShowsRounded b text) (ha : ShowsRounded a text)
    (hcb : b.Canonical) (hca : a.Canonical) : b = a ∨ b.mantissa = 0 ∧ a.mantissa = 0 := by
  obtain ⟨q, hq, hqzero, hqtext⟩ := hb
  obtain ⟨p, hp, hpzero, hptext⟩ := ha
  have heq := hqtext.unique hptext
  have hsign : ∀ {c : Binary} {r : ℚ}, c.Rounds r → (c.mantissa = 0 → r = 0) →
      0 ≤ r ∧ (r = 0 → c.mantissa = 0) := by
    intro c r hr hzero
    rcases Nat.eq_zero_or_pos c.mantissa with h | h
    · exact ⟨(hzero h).ge, fun _ => h⟩
    · exact ⟨(hr.pos h).le, fun hr0 => absurd hr0 (hr.pos h).ne'⟩
  obtain ⟨hq0, hbzero⟩ := hsign hq hqzero
  obtain ⟨hp0, hazero⟩ := hsign hp hpzero
  by_cases hsame : b.negative = a.negative
  · have hqp : q = p := by
      rw [hsame] at heq
      split_ifs at heq
      · exact neg_inj.1 heq
      · exact heq
    obtain ⟨hexponent, hmantissa⟩ := hq.unique (hqp ▸ hp) hcb hca
    left
    cases b
    cases a
    simp_all
  · -- opposite signs: both are zero
    have hopposite : q = -p := by
      rw [Bool.eq_not_of_ne hsame] at heq
      cases hneg : a.negative <;> rw [hneg] at heq
      · exact neg_eq_iff_eq_neg.1 heq
      · exact heq
    exact Or.inr ⟨hbzero (by linarith), hazero (by linarith)⟩

/-- Only texts of doubles that are no finite number have letters. -/
lemma ShowsRounded.not_mem {text : String} (h : ShowsRounded b text) : 'n' ∉ text.toList := by
  obtain ⟨q, -, -, hq⟩ := h
  intro hn
  rcases hq.mem hn with (h | h) | h <;> cases h

/-- The texts of the two infinities. -/
def infinityText : Float.Model.UnpackedFloat.Sign → String
  | .positive => "inf"
  | .negative => "-inf"

lemma amount_infinity {s : Float.Model.UnpackedFloat.Sign} (hx : Binary.ofFloat? x = none)
    (hnan : x.isNaN = false) (hs : x.toModel.unpack = .infinity s) : amount x = infinityText s := by
  have hpos := Binary.pos_iff_of_infinity hs
  unfold amount plain
  rw [hx]
  show notFinite x = _
  unfold notFinite
  rw [if_neg (Bool.eq_false_iff.1 hnan)]
  cases s with
  | positive => exact if_pos (hpos.2 rfl)
  | negative => exact if_neg fun h => nomatch hpos.1 h

/-- A finite double and an infinity are different, and so are their texts. -/
lemma amount_ne_infinity (hx : Binary.ofFloat? x = some b) (hy : Binary.ofFloat? y = none)
    (hnan : y.isNaN = false) : amount x ≠ amount y ∧ (y == x) = false := by
  obtain ⟨s, hs⟩ := Binary.exists_infinity hy hnan
  constructor
  · intro heq
    have hmem : 'n' ∈ (infinityText s).toList := by cases s <;> simp [infinityText]
    rw [← amount_infinity hy hnan hs, ← heq] at hmem
    exact (amount_shows hx).not_mem hmem
  · rw [← Bool.not_eq_true, Binary.beq_iff_of_infinity hs]
    intro hinfinity
    rw [Binary.ofFloat?_eq, hinfinity] at hx
    cases hx

/-- Finite doubles have the same text exactly if they are equal as numbers. -/
lemma amount_eq_iff_of_finite (hx : Binary.ofFloat? x = some a) (hy : Binary.ofFloat? y = some b) :
    amount x = amount y ↔ (x == y) = true := by
  rw [Binary.beq_iff hx hy]
  constructor
  · intro heq
    exact (amount_shows hx).unique (heq ▸ amount_shows hy) (Binary.canonical_of_ofFloat? hx)
      (Binary.canonical_of_ofFloat? hy)
  · rintro (rfl | ⟨ha, hb⟩)
    · unfold amount plain
      rw [hx, hy]
    · have hzero : ∀ {z : Float} {c : Binary}, Binary.ofFloat? z = some c → c.mantissa = 0 →
          amount z = toString (0 : ℤ) := by
        intro z c hz hc
        unfold amount
        rw [hz]
        simp [Binary.isIntegral, Binary.floorAbs, Binary.truncate, hc]
      rw [hzero hx ha, hzero hy hb]

/-- Doubles that are no NaNs have the same text exactly if they are equal as numbers. -/
theorem amount_eq_iff (hx : x.isNaN = false) (hy : y.isNaN = false) :
    amount x = amount y ↔ (x == y) = true := by
  cases ha : Binary.ofFloat? x with
  | none =>
    cases hb : Binary.ofFloat? y with
    | none =>
      obtain ⟨s, hs⟩ := Binary.exists_infinity ha hx
      obtain ⟨t, ht⟩ := Binary.exists_infinity hb hy
      rw [Binary.beq_iff_of_infinity hs, amount_infinity ha hx hs, amount_infinity hb hy ht, ht]
      cases s <;> cases t <;> simp [infinityText]
    | some b =>
      obtain ⟨htext, hne⟩ := amount_ne_infinity hb ha hx
      exact iff_of_false htext.symm (Bool.eq_false_iff.1 hne)
  | some a =>
    cases hb : Binary.ofFloat? y with
    | none =>
      obtain ⟨htext, hne⟩ := amount_ne_infinity ha hb hy
      rw [beq_comm x y]
      exact iff_of_false htext (Bool.eq_false_iff.1 hne)
    | some b => exact amount_eq_iff_of_finite ha hb

end ChannelRules.Decimal
