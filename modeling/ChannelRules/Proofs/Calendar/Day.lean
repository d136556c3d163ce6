import ChannelRules.Calendar.Day
import Mathlib.Tactic.NormNum
import Mathlib.Tactic.SplitIfs

/-!
# Days and their numbers

The year of a day is found by leaving out the leap days before it. That count of days does not
decrease from one day to the next and is a multiple of 365 exactly at the start of a year, so every
day gets the year that it lies in, and its number is computed back from year, month and day.
-/

namespace ChannelRules.Calendar

namespace Day

/-- The first day of a year within its era, counted from zero. -/
def yearStart (year : ℤ) : ℤ := 365 * year + year / 4 - year / 100

/-- The days of an era up to the given one, without the leap days. -/
def withoutLeapDays (day : ℤ) : ℤ := day - day / 1460 + day / 36524 - day / 146096

lemma withoutLeapDays_mono {day later : ℤ} (h : day ≤ later) :
    withoutLeapDays day ≤ withoutLeapDays later := by
  have hera : ∀ d : ℤ, d / 146096 = d / 36524 / 4 := fun d => by omega
  have hstep : ∀ d : ℤ, withoutLeapDays d ≤ withoutLeapDays (d + 1) := by
    intro d
    unfold withoutLeapDays
    rw [hera, hera]
    omega
  exact monotone_int_of_le_succ hstep h

section YearOfEra

variable {year : ℤ} (hlow : 0 ≤ year) (hhigh : year < 400)
include hlow hhigh

/-- A year of an era by its century, the four years it is in and its place among them. -/
lemma exists_yearStart : ∃ century quad rest : ℤ, 0 ≤ century ∧ century < 4 ∧ 0 ≤ quad ∧ quad < 25 ∧
    0 ≤ rest ∧ rest < 4 ∧ year = 100 * century + 4 * quad + rest ∧
      yearStart year = 36524 * century + 1461 * quad + 365 * rest := by
  refine ⟨year / 100, year % 100 / 4, year % 4, ?_⟩
  unfold yearStart
  omega

/-- At the start of a year, 365 days have gone by for each year before it. -/
lemma withoutLeapDays_yearStart : withoutLeapDays (yearStart year) = 365 * year := by
  obtain ⟨century, quad, rest, hc, hc', hq, hq', hr, hr', hyear, hstart⟩ :=
    exists_yearStart hlow hhigh
  have h1460 : yearStart year / 1460 = 25 * century + quad := by omega
  have h36524 : yearStart year / 36524 = century := by omega
  have h146096 : yearStart year / 146096 = 0 := by omega
  unfold withoutLeapDays
  omega

/-- Before the start of a year, fewer have gone by. -/
lemma withoutLeapDays_lt {day : ℤ} (hday : 0 ≤ day) (h : day < yearStart year) :
    withoutLeapDays day < 365 * year := by
  refine (withoutLeapDays_mono (Int.le_sub_one_of_lt h)).trans_lt ?_
  obtain ⟨century, quad, rest, hc, hc', hq, hq', hr, hr', hyear, hstart⟩ :=
    exists_yearStart hlow hhigh
  have h1460 : (yearStart year - 1) / 1460 = 25 * century + quad := by omega
  have h36524 : (yearStart year - 1) / 36524 ≤ century := by omega
  have h146096 : (yearStart year - 1) / 146096 = 0 := by omega
  unfold withoutLeapDays
  omega

end YearOfEra

/-- The year in which a day of an era lies. -/
lemma year_spec {day : ℤ} (hlow : 0 ≤ day) (hhigh : day < 146097) :
    0 ≤ withoutLeapDays day / 365 ∧ withoutLeapDays day / 365 < 400 ∧
      0 ≤ day - yearStart (withoutLeapDays day / 365) ∧
      day - yearStart (withoutLeapDays day / 365) ≤ 365 := by
  set year := withoutLeapDays day / 365 with hyear
  have hrange : 0 ≤ year ∧ year < 400 := by
    unfold withoutLeapDays at hyear
    omega
  have hafter : yearStart year ≤ day := by
    by_contra hbefore
    have := withoutLeapDays_lt hrange.1 hrange.2 hlow (not_le.1 hbefore)
    omega
  have hwithin : day ≤ yearStart year + 365 := by
    by_contra hbeyond
    have hnext : yearStart (year + 1) ≤ day := by
      unfold yearStart at *
      omega
    by_cases hlast : year + 1 < 400
    · have hmono := withoutLeapDays_mono hnext
      rw [withoutLeapDays_yearStart (by omega) hlast] at hmono
      omega
    · unfold yearStart at hbeyond
      omega
  exact ⟨hrange.1, hrange.2, by omega, by omega⟩

/-- The number of a day, from its year and its month, both counted from March. -/
lemma number_eq {era yearOfEra monthFromMarch day : ℤ} (hyear : 0 ≤ yearOfEra)
    (hyear' : yearOfEra < 400) (hmonth : 0 ≤ monthFromMarch) (hmonth' : monthFromMarch < 12)
    (hday : 0 ≤ day) :
    let month := if monthFromMarch < 10 then monthFromMarch + 3 else monthFromMarch - 9
    number ⟨yearOfEra + era * 400 + (if month ≤ 2 then 1 else 0), month.toNat, day.toNat⟩ =
      era * 146097 + (yearStart yearOfEra + ((153 * monthFromMarch + 2) / 5 + day - 1)) - 719468 := by
  intro month
  set year := yearOfEra + era * 400 + (if month ≤ 2 then 1 else 0) with hcalendar
  have hfrom : (if month.toNat ≤ 2 then year - 1 else year) = yearOfEra + era * 400 := by
    split_ifs <;> omega
  have hmarch : ((month.toNat : ℤ) + 9) % 12 = monthFromMarch := by omega
  have hera : Int.fdiv (yearOfEra + era * 400) 400 = era := by
    rw [Int.fdiv_eq_ediv_of_nonneg _ (by norm_num)]
    omega
  unfold number yearStart
  dsimp only
  rw [hfrom, hera, hmarch, Int.toNat_of_nonneg hday]
  omega

/-- The day with a number has that number. -/
theorem number_ofNumber (n : ℤ) : number (ofNumber n) = n := by
  set era := Int.fdiv (n + 719468) 146097 with hera
  have hday : 0 ≤ n + 719468 - era * 146097 ∧ n + 719468 - era * 146097 < 146097 := by
    rw [hera, Int.fdiv_eq_ediv_of_nonneg _ (by norm_num)]
    omega
  obtain ⟨hyear, hyear', hrest, hrest'⟩ := year_spec hday.1 hday.2
  set yearOfEra := withoutLeapDays (n + 719468 - era * 146097) / 365
  set dayOfYear := n + 719468 - era * 146097 - yearStart yearOfEra with hdayOfYear
  have hmonth : 0 ≤ (5 * dayOfYear + 2) / 153 ∧ (5 * dayOfYear + 2) / 153 < 12 := by omega
  have hfirst : 0 ≤ dayOfYear - (153 * ((5 * dayOfYear + 2) / 153) + 2) / 5 + 1 := by omega
  refine (@number_eq era _ _ _ hyear hyear' hmonth.1 hmonth.2 hfirst).trans ?_
  omega

end Day

end ChannelRules.Calendar
