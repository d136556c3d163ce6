import ChannelRules.Proofs.Builtin.Native
import ChannelRules.Proofs.Calendar.Moved
import ChannelRules.Proofs.Decimal.Whole
import ChannelRules.Pattern.Machine

/-!
# Calculations with dates

An offset is cut towards zero to whole milliseconds. Adding it to a date leads to the date that lies
so many milliseconds later, and subtracting it leads back. The difference of the two dates is the
offset that was cut. It is not rounded, also where doubles are too coarse for most milliseconds,
because it was cut from a double.
-/

namespace ChannelRules

open Calendar (Instant)
open Decimal (value? towardZero)

/-- The offset can be added to the date: its milliseconds are those of a duration, and the date that
they lead to is in range. -/
structure Movable (d : Instant) (offset : ℚ) : Prop where
  lt_duration : |towardZero offset| < 2 ^ 63
  inRange : (d.later (towardZero offset)).inRange = true

variable {d u : Instant} {x : Float} {q : ℚ}

lemma Movable.ordinary (h : Movable d q) : (d.later (towardZero q)).Ordinary :=
  ⟨h.inRange, Instant.nanos_later_lt⟩

/-- A date that was moved can be moved back. -/
lemma Movable.back (hd : d.Ordinary) (h : Movable d q) :
    Movable (d.later (towardZero q)) (-q) ∧
      (d.later (towardZero q)).later (towardZero (-q)) = d := by
  have hback : (d.later (towardZero q)).later (towardZero (-q)) = d := by
    rw [Decimal.towardZero_neg, Instant.later_later_neg hd.nanos_lt]
  refine ⟨⟨?_, ?_⟩, hback⟩
  · rw [Decimal.towardZero_neg, abs_neg]
    exact h.lt_duration
  · rw [hback]
    exact hd.inRange

lemma offsetMillis?_eq_some_iff {millis : ℤ} :
    offsetMillis? x = some millis ↔
      ∃ q, value? x = some q ∧ |towardZero q| < 2 ^ 63 ∧ towardZero q = millis := by
  unfold offsetMillis? value?
  cases Decimal.Binary.ofFloat? x with
  | none => simp
  | some b =>
    have habs : |b.truncate| = b.floorAbs := by
      unfold Decimal.Binary.truncate
      split_ifs <;> simp
    have hfits : b.floorAbs < Nat.pow 2 63 ↔ |towardZero b.value| < 2 ^ 63 := by
      rw [← Decimal.Binary.truncate_eq_towardZero, habs]
      norm_cast
    simp only [hfits, Decimal.Binary.truncate_eq_towardZero, Option.map_some, Option.some.injEq,
      exists_eq_left', Option.ite_none_right_eq_some]

/-- Where an offset leads to, if it can be added. -/
lemma moved_eq_some_iff (hd : d.Ordinary) :
    (offsetMillis? x).bind d.addMillis? = some u ↔
      ∃ q, value? x = some q ∧ Movable d q ∧ d.later (towardZero q) = u := by
  rw [Option.bind_eq_some_iff]
  constructor
  · rintro ⟨millis, hmillis, hmoved⟩
    obtain ⟨q, hq, hlt, rfl⟩ := offsetMillis?_eq_some_iff.1 hmillis
    rw [Instant.addMillis?_eq hd.nanos_lt] at hmoved
    split_ifs at hmoved with hrange
    exact ⟨q, hq, ⟨hlt, hrange⟩, Option.some.inj hmoved⟩
  · rintro ⟨q, hq, hmovable, rfl⟩
    refine ⟨towardZero q, offsetMillis?_eq_some_iff.2 ⟨q, hq, hmovable.lt_duration, rfl⟩, ?_⟩
    rw [Instant.addMillis?_eq hd.nanos_lt, if_pos hmovable.inRange]

/-- A date is moved, or it cannot be moved. -/
lemma movedDate_cases {offset : Value} (hd : d.Ordinary) (hoffset : offset.asNumber = some x)
    (f : String) (sign : Float) :
    (∃ q, value? (x * sign) = some q ∧ Movable d q ∧
      movedDate [.date d, offset] f sign = .ok (.date (d.later (towardZero q)))) ∨
    ((∀ q, value? (x * sign) = some q → ¬ Movable d q) ∧
      movedDate [.date d, offset] f sign = .error (.native f "date out of range")) := by
  have hnumber : numberArgument [.date d, offset] 1 f = .ok x :=
    numberArgument_eq_ok.2 ⟨offset, rfl, hoffset⟩
  cases hmoved : (offsetMillis? (x * sign)).bind d.addMillis? with
  | some u =>
    obtain ⟨q, hq, hmovable, rfl⟩ := (moved_eq_some_iff hd).1 hmoved
    refine .inl ⟨q, hq, hmovable, ?_⟩
    show (numberArgument [.date d, offset] 1 f >>= _) = _
    rw [hnumber, ok_bind, hmoved]
    rfl
  | none =>
    refine .inr ⟨fun q hq hmovable => ?_, ?_⟩
    · have hsome := (moved_eq_some_iff hd).2 ⟨q, hq, hmovable, rfl⟩
      rw [hmoved] at hsome
      cases hsome
    · show (numberArgument [.date d, offset] 1 f >>= _) = _
      rw [hnumber, ok_bind, hmoved]

namespace Calculation

section Offsets

variable [PatternEngine]

/-- An offset is added to a date, or it cannot be added. -/
lemma dateAdd_cases {offset : Value} (hd : d.Ordinary) (hoffset : offset.asNumber = some x) :
    (∃ q, value? x = some q ∧ Movable d q ∧
      dateAdd.run [.date d, offset] = .ok (.date (d.later (towardZero q)))) ∨
    ((∀ q, value? x = some q → ¬ Movable d q) ∧
      dateAdd.run [.date d, offset] = .error (.native "+" "date out of range")) := by
  have h := movedDate_cases hd hoffset "+" 1.0
  rwa [Binary64.mul_one] at h

lemma dateSubtract_eq {offset : Value} (hd : d.Ordinary) (hoffset : offset.asNumber = some x)
    (hq : value? x = some q) (h : Movable d (-q)) :
    dateSubtract.run [.date d, offset] = .ok (.date (d.later (towardZero (-q)))) := by
  have hneg : value? (x * (-1.0)) = some (-q) := by
    rw [Decimal.Binary.mul_neg_one, Decimal.value?_neg, hq]
    rfl
  rcases movedDate_cases hd hoffset "-" (-1.0) with ⟨p, hp, -, hrun⟩ | ⟨hnone, -⟩
  · obtain rfl := Option.some.inj (hneg.symm.trans hp)
    exact hrun
  · exact absurd h (hnone _ hneg)

lemma dateDifference_eq (hd : d.Ordinary) (hq : value? x = some q) :
    ∃ r, dateDifference.run [.date (d.later (towardZero q)), .date d] = .ok (.number r) ∧
      value? r = some (towardZero q : ℚ) := by
  refine ⟨Float.ofInt (towardZero q), ?_, Decimal.value?_ofInt_towardZero hq⟩
  show Except.ok (Value.number (Float.ofInt (Instant.millisSince _ d))) = _
  rw [Instant.millisSince_later hd.nanos_lt]

/-- A date outside of leap seconds is moved by an offset without its fraction: the difference of the
two dates is what was added, and subtracting the offset again gives the date. It is not moved exactly
if the offset is not finite, no duration has its milliseconds, or they lead out of range. -/
theorem dateAdd_reversible {offset : Value} (hd : d.Ordinary)
    (hoffset : offset.asNumber = some x) :
    (dateAdd.run [.date d, offset] = .error (.native "+" "date out of range") ∨
      ∃ q moved r, value? x = some q ∧ dateAdd.run [.date d, offset] = .ok (.date moved) ∧
        moved.Ordinary ∧ moved = d.later (towardZero q) ∧
        dateDifference.run [.date moved, .date d] = .ok (.number r) ∧
        value? r = some (towardZero q : ℚ) ∧
        dateSubtract.run [.date moved, offset] = .ok (.date d)) ∧
    ((∃ error, dateAdd.run [.date d, offset] = .error error) ↔
      x.isNaN = true ∨ x.isInf = true ∨ ∃ q, value? x = some q ∧
        (2 ^ 63 ≤ |towardZero q| ∨ (d.later (towardZero q)).inRange = false)) := by
  rw [← or_assoc, ← Decimal.value?_eq_none_iff]
  rcases dateAdd_cases hd hoffset with ⟨q, hq, hmovable, hrun⟩ | ⟨hnone, hrun⟩
  · obtain ⟨hback, hsame⟩ := hmovable.back hd
    obtain ⟨r, hdifference, hr⟩ := dateDifference_eq hd hq
    have hsubtract := dateSubtract_eq hmovable.ordinary hoffset hq hback
    rw [hsame] at hsubtract
    refine ⟨.inr ⟨q, _, r, hq, hrun, hmovable.ordinary, rfl, hdifference, hr, hsubtract⟩, ?_⟩
    rw [hrun, hq]
    constructor
    · rintro ⟨error, herror⟩
      cases herror
    · rintro (hnone | ⟨p, hp, hlarge | hout⟩)
      · cases hnone
      · cases hp
        exact absurd hmovable.lt_duration (not_lt.2 hlarge)
      · cases hp
        exact absurd hmovable.inRange (Bool.eq_false_iff.1 hout)
  · refine ⟨.inl hrun, fun _ => ?_, fun _ => ⟨_, hrun⟩⟩
    cases hq : value? x with
    | none => exact .inl rfl
    | some q =>
      refine .inr ⟨q, rfl, ?_⟩
      by_contra hall
      rw [not_or, not_le, Bool.not_eq_false] at hall
      exact hnone q hq ⟨hall.1, hall.2⟩

end Offsets

/-- Half a millisecond more than a day is a day. -/
theorem dateAdd_reversible_day :
    dateAdd.run [.date ⟨1704067200, 0⟩, .number 86400000.5] = .ok (.date ⟨1704153600, 0⟩) ∧
      dateSubtract.run [.date ⟨1704153600, 0⟩, .number 86400000.5] =
        .ok (.date ⟨1704067200, 0⟩) := by
  have hd : Instant.Ordinary ⟨1704067200, 0⟩ := ⟨by decide, by decide⟩
  have hrun : dateAdd.run [.date ⟨1704067200, 0⟩, .number 86400000.5] =
      .ok (.date ⟨1704153600, 0⟩) := by rfl
  refine ⟨hrun, ?_⟩
  have hoffset : (Value.number 86400000.5).asNumber = some 86400000.5 := rfl
  rcases (dateAdd_reversible hd hoffset).1 with herror |
    ⟨q, moved, r, -, hmoved, -, -, -, -, hback⟩
  · rw [hrun] at herror
    cases herror
  · rw [hrun] at hmoved
    cases hmoved
    exact hback

end Calculation

end ChannelRules
