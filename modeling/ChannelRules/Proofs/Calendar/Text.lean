import ChannelRules.Calendar.Text
import ChannelRules.Proofs.Calendar.Day
import Mathlib.Data.String.Basic
import Mathlib.Tactic.NormNum

/-!
# Texts of dates and times

The parts of a date are runs of digits with other characters between them. Each part is therefore
found again in the text, and with it the number that it is written for. A leap second only stands at
the end of a minute, where it is the second 60; so the text of an instant determines it.
-/

namespace ChannelRules.Calendar

/-- A text that does not go on with a digit. -/
def Stops (cs : List Char) : Prop := ∀ c ∈ cs.head?, c.isDigit = false

@[simp] lemma stops_cons {c : Char} {cs : List Char} : Stops (c :: cs) ↔ c.isDigit = false := by
  simp [Stops]

/-- Texts that begin with runs of digits have the same digits and the same rest. -/
lemma digits_inj {as bs xs ys : List Char} (ha : ∀ c ∈ as, c.isDigit = true)
    (hb : ∀ c ∈ bs, c.isDigit = true) (hx : Stops xs) (hy : Stops ys) (h : as ++ xs = bs ++ ys) :
    as = bs ∧ xs = ys := by
  have hrun : ∀ {ds cs : List Char}, (∀ c ∈ ds, c.isDigit = true) → Stops cs →
      (ds ++ cs).takeWhile Char.isDigit = ds := by
    intro ds cs hd hc
    rw [List.takeWhile_append_of_pos hd]
    cases cs with
    | nil => simp
    | cons c cs => simp [stops_cons.1 hc]
  obtain rfl : as = bs := by rw [← hrun ha hx, h, hrun hb hy]
  exact ⟨rfl, List.append_cancel_left h⟩

lemma toList_padded (width n : ℕ) :
    (padded width n).toList = List.replicate (width - (toString n).length) '0' ++ Nat.toDigits 10 n := by
  unfold padded
  rw [String.toList_append, String.toList_ofList]
  exact congrArg (_ ++ ·) Nat.toList_repr

lemma isDigit_of_mem_padded {width n : ℕ} {c : Char} (hc : c ∈ (padded width n).toList) :
    c.isDigit = true := by
  rw [toList_padded, List.mem_append] at hc
  rcases hc with hc | hc
  · rw [List.eq_of_mem_replicate hc]
    rfl
  · exact Nat.isDigit_of_mem_toDigits (by norm_num) (by norm_num) hc

/-- Zeros in front do not change the number. -/
lemma ofDigitChars_padded (width n : ℕ) : Nat.ofDigitChars 10 (padded width n).toList 0 = n := by
  have hzeros : ∀ k : ℕ, Nat.ofDigitChars 10 (List.replicate k '0') 0 = 0 := by
    intro k
    induction k with
    | zero => rfl
    | succ k ih => rw [List.replicate_succ, Nat.ofDigitChars_cons]; exact ih
  rw [toList_padded, Nat.ofDigitChars_append, hzeros,
    Nat.ofDigitChars_toDigits (by norm_num) (by norm_num)]

lemma length_padded {width n : ℕ} (hwidth : 0 < width) (hn : n < 10 ^ width) :
    (padded width n).toList.length = width := by
  have hle : (Nat.toDigits 10 n).length ≤ width :=
    (Nat.length_toDigits_le_iff (by norm_num) hwidth).2 hn
  have hlen : (toString n).length = (Nat.toDigits 10 n).length := by
    rw [← String.length_toList]
    exact congrArg List.length Nat.toList_repr
  rw [toList_padded, List.length_append, List.length_replicate, hlen]
  omega

lemma padded_ne_nil (width n : ℕ) : (padded width n).toList ≠ [] := by
  rw [toList_padded]
  exact List.append_ne_nil_of_right_ne_nil _ (List.ne_nil_of_length_pos Nat.length_toDigits_pos)

/-- A padded number, read off the front of a text. -/
lemma padded_inj {v w m n : ℕ} {xs ys : List Char} (hx : Stops xs) (hy : Stops ys)
    (h : (padded v m).toList ++ xs = (padded w n).toList ++ ys) : m = n ∧ xs = ys := by
  obtain ⟨hdigits, hrest⟩ := digits_inj (fun c hc => isDigit_of_mem_padded hc)
    (fun c hc => isDigit_of_mem_padded hc) hx hy h
  refine ⟨?_, hrest⟩
  rw [← ofDigitChars_padded v m, hdigits, ofDigitChars_padded]

/-- The sign that a year is written with. -/
def yearSign (year : ℤ) : List Char :=
  if year < 0 then ['-'] else if 9999 < year then ['+'] else []

lemma toList_yearText (year : ℤ) :
    (yearText year).toList = yearSign year ++ (padded 4 year.natAbs).toList := by
  unfold yearText yearSign
  by_cases hneg : year < 0
  · rw [if_neg (by omega), if_pos hneg, if_pos hneg, String.toList_append]
    rfl
  · by_cases hlong : 9999 < year
    · rw [if_neg (by omega), if_neg hneg, if_neg hneg, if_pos hlong, String.toList_append]
      rfl
    · rw [if_pos (by omega), if_neg hneg, if_neg hlong, List.nil_append,
        show year.toNat = year.natAbs by omega]

lemma isDigit_of_mem_yearSign {year : ℤ} {c : Char} (hc : c ∈ yearSign year) :
    c.isDigit = false := by
  unfold yearSign at hc
  split_ifs at hc <;> simp_all

/-- A year is read off the front of a text with its sign, which is no digit. -/
lemma yearText_inj {y z : ℤ} {xs ys : List Char} (hx : Stops xs) (hy : Stops ys)
    (h : (yearText y).toList ++ xs = (yearText z).toList ++ ys) : y = z ∧ xs = ys := by
  rw [toList_yearText, toList_yearText, List.append_assoc, List.append_assoc] at h
  have hsign : ∀ (year : ℤ) (n : ℕ) (cs : List Char),
      (yearSign year ++ ((padded 4 n).toList ++ cs)).takeWhile (fun c => !c.isDigit) =
        yearSign year := by
    intro year n cs
    rw [List.takeWhile_append_of_pos fun c hc => by rw [isDigit_of_mem_yearSign hc]; rfl]
    obtain ⟨c, ds, hpadded⟩ := List.exists_cons_of_ne_nil (padded_ne_nil 4 n)
    have hc : c.isDigit = true := isDigit_of_mem_padded (hpadded ▸ List.mem_cons_self)
    simp [hpadded, hc]
  have hsame : yearSign y = yearSign z := by rw [← hsign y, h, hsign z]
  rw [hsame] at h
  obtain ⟨habs, hrest⟩ := padded_inj hx hy (List.append_cancel_left h)
  refine ⟨?_, hrest⟩
  unfold yearSign at hsame
  split_ifs at hsame <;> simp at hsame <;> omega

/-- The fraction of a second is nothing, or a point and the digits of the nanoseconds. -/
lemma fractionText_spec {nanos : ℕ} (h : nanos < nanosPerSecond) :
    (fractionText nanos).toList = [] ∧ nanos = 0 ∨
      ∃ ds, (fractionText nanos).toList = '.' :: ds ∧ (∀ c ∈ ds, c.isDigit = true) ∧
        Nat.ofDigitChars 10 ds 0 * 10 ^ (9 - ds.length) = nanos := by
  have hnanos : nanos < 1000000000 := h
  have hpoint : ∀ {width n : ℕ}, 0 < width → n < 10 ^ width →
      ∃ ds, ("." ++ padded width n).toList = '.' :: ds ∧ (∀ c ∈ ds, c.isDigit = true) ∧
        Nat.ofDigitChars 10 ds 0 * 10 ^ (9 - ds.length) = n * 10 ^ (9 - width) := by
    intro width n hwidth hn
    refine ⟨(padded width n).toList, ?_, fun c hc => isDigit_of_mem_padded hc, ?_⟩
    · rw [String.toList_append]
      rfl
    · rw [ofDigitChars_padded, length_padded hwidth hn]
  unfold fractionText
  split_ifs with hzero hmillis hmicros
  · exact Or.inl ⟨rfl, hzero⟩
  · obtain ⟨ds, htext, hdigits, hvalue⟩ :=
      @hpoint 3 (nanos / 1000000) (by norm_num) (by omega)
    exact Or.inr ⟨ds, htext, hdigits, by rw [hvalue]; omega⟩
  · obtain ⟨ds, htext, hdigits, hvalue⟩ :=
      @hpoint 6 (nanos / 1000) (by norm_num) (by omega)
    exact Or.inr ⟨ds, htext, hdigits, by rw [hvalue]; omega⟩
  · obtain ⟨ds, htext, hdigits, hvalue⟩ :=
      @hpoint 9 nanos (by norm_num) (by omega)
    exact Or.inr ⟨ds, htext, hdigits, by rw [hvalue]; omega⟩

/-- Fractions before the mark of the offset. -/
lemma fractionText_inj {m n : ℕ} {xs ys : List Char} (hm : m < nanosPerSecond)
    (hn : n < nanosPerSecond)
    (h : (fractionText m).toList ++ '+' :: xs = (fractionText n).toList ++ '+' :: ys) : m = n := by
  rcases fractionText_spec hm with ⟨hmtext, hmzero⟩ | ⟨ds, hmtext, hds, hmvalue⟩ <;>
    rcases fractionText_spec hn with ⟨hntext, hnzero⟩ | ⟨es, hntext, hes, hnvalue⟩ <;>
    rw [hmtext, hntext] at h
  · exact hmzero.trans hnzero.symm
  · simp at h
  · simp at h
  · have htail : ds ++ '+' :: xs = es ++ '+' :: ys := (List.cons.inj h).2
    obtain ⟨rfl, -⟩ := digits_inj hds hes (by simp) (by simp) htail
    exact hmvalue.symm.trans hnvalue

lemma stops_fractionText {nanos : ℕ} {rest : List Char} (h : nanos < nanosPerSecond) :
    Stops ((fractionText nanos).toList ++ '+' :: rest) := by
  rcases fractionText_spec h with ⟨htext, -⟩ | ⟨ds, htext, -⟩ <;> simp [htext]

/-- Hour and minute are found again in the text of a time. -/
theorem clockText_inj {h m h' m' : ℕ}
    (heq : padded 2 h ++ ":" ++ padded 2 m = padded 2 h' ++ ":" ++ padded 2 m') :
    h = h' ∧ m = m' := by
  have hlist := congrArg String.toList heq
  simp only [String.toList_append, List.append_assoc, String.reduceToList, List.cons_append,
    List.nil_append] at hlist
  obtain ⟨hhour, hlist⟩ := padded_inj (by simp) (by simp) hlist
  obtain ⟨hminute, -⟩ := @padded_inj 2 2 m m' [] [] (by simp [Stops]) (by simp [Stops])
    (by simpa using (List.cons.inj hlist).2)
  exact ⟨hhour, hminute⟩

namespace Instant

/-- Day, clock and fraction of a second are found again in the text. -/
lemma dateTimeText_parts {t u : Instant} (h : t.offsetText = u.offsetText) :
    t.day = u.day ∧ t.clock = u.clock ∧ t.nanos % nanosPerSecond = u.nanos % nanosPerSecond := by
  have hlist := congrArg String.toList h
  unfold offsetText dateTimeText at hlist
  simp only [String.toList_append, List.append_assoc, String.reduceToList, List.cons_append,
    List.nil_append] at hlist
  obtain ⟨hyear, hlist⟩ := yearText_inj (by simp) (by simp) hlist
  obtain ⟨hmonth, hlist⟩ := padded_inj (by simp) (by simp) (List.cons.inj hlist).2
  obtain ⟨hday, hlist⟩ := padded_inj (by simp) (by simp) (List.cons.inj hlist).2
  obtain ⟨hhour, hlist⟩ := padded_inj (by simp) (by simp) (List.cons.inj hlist).2
  obtain ⟨hminute, hlist⟩ := padded_inj (by simp) (by simp) (List.cons.inj hlist).2
  have hpos : 0 < nanosPerSecond := by decide
  obtain ⟨hsecond, hlist⟩ := padded_inj (stops_fractionText (Nat.mod_lt _ hpos))
    (stops_fractionText (Nat.mod_lt _ hpos)) (List.cons.inj hlist).2
  have hfraction := fractionText_inj (Nat.mod_lt _ hpos) (Nat.mod_lt _ hpos) hlist
  refine ⟨?_, ?_, hfraction⟩
  · show Day.mk t.day.year t.day.month t.day.day = u.day
    rw [hyear, hmonth, hday]
  · show (t.clock.1, t.clock.2.1, t.clock.2.2) = u.clock
    rw [hhour, hminute, hsecond]

/-- A leap second lasts for one second and is the last of its minute. -/
structure WellFormed (t : Instant) : Prop where
  nanos_lt : t.nanos < 2 * nanosPerSecond
  leap_last : t.isLeap = true → t.seconds % 60 = 59

lemma secondOfDay_bounds (t : Instant) : 0 ≤ t.secondOfDay ∧ t.secondOfDay < 86400 ∧
    t.secondOfDay % 60 = t.seconds % 60 := by
  unfold secondOfDay dayNumber secondsPerDay
  rw [Int.fdiv_eq_ediv_of_nonneg _ (by norm_num)]
  omega

/-- The text of an instant determines it. -/
theorem offsetText_inj {t u : Instant} (ht : t.WellFormed) (hu : u.WellFormed)
    (h : t.offsetText = u.offsetText) : t = u := by
  obtain ⟨hday, hclock, hfraction⟩ := dateTimeText_parts h
  have hnumber : t.dayNumber = u.dayNumber := by
    have := congrArg Day.number hday
    rwa [day, day, Day.number_ofNumber, Day.number_ofNumber] at this
  obtain ⟨htlow, hthigh, htminute⟩ := t.secondOfDay_bounds
  obtain ⟨hulow, huhigh, huminute⟩ := u.secondOfDay_bounds
  have htleap := ht.leap_last
  have huleap := hu.leap_last
  unfold clock at hclock
  simp only [Prod.mk.injEq] at hclock
  obtain ⟨hhour, hminute, hsecond⟩ := hclock
  have hleap : t.isLeap = u.isLeap := by
    cases hti : t.isLeap <;> cases hui : u.isLeap <;> simp_all <;> omega
  rw [hleap] at hsecond
  have hofDay : t.secondOfDay = u.secondOfDay := by omega
  have hseconds : t.seconds = u.seconds := by
    unfold secondOfDay at hofDay
    rw [hnumber] at hofDay
    omega
  have hnanos : t.nanos = u.nanos := by
    have htn := ht.nanos_lt
    have hun := hu.nanos_lt
    unfold isLeap at hleap
    rw [decide_eq_decide] at hleap
    unfold nanosPerSecond at *
    omega
  cases t
  cases u
  simp_all

end Instant

end ChannelRules.Calendar
