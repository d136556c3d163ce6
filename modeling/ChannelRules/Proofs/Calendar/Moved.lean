import ChannelRules.Calendar.Instant
import Mathlib.Tactic.NormNum
import Mathlib.Tactic.Ring

/-!
# Moving dates

Outside of leap seconds an instant is determined by its nanoseconds from the start of 1970, and moving
it adds to them. So moving a date forth and back gives the date itself, and the milliseconds between
the two are those it was moved by.
-/

namespace ChannelRules.Calendar

namespace Instant

/-- The nanoseconds from the start of 1970, leap seconds not counted. -/
def sinceEpoch (t : Instant) : ℤ := t.seconds * nanosPerSecond + t.nanos

/-- The instant outside of leap seconds that lies some nanoseconds after the start of 1970. -/
def ofSinceEpoch (n : ℤ) : Instant := ⟨n / nanosPerSecond, (n % nanosPerSecond).toNat⟩

/-- The instant some milliseconds later. It can lie out of range. -/
def later (t : Instant) (millis : ℤ) : Instant := ofSinceEpoch (t.sinceEpoch + millis * 1000000)

/-- An instant in range, outside of leap seconds. -/
structure Ordinary (t : Instant) : Prop where
  inRange : t.inRange = true
  nanos_lt : t.nanos < nanosPerSecond

variable {t : Instant} {millis : ℤ}

lemma nanos_ofSinceEpoch_lt (n : ℤ) : (ofSinceEpoch n).nanos < nanosPerSecond := by
  unfold ofSinceEpoch nanosPerSecond
  dsimp only
  omega

lemma sinceEpoch_ofSinceEpoch (n : ℤ) : (ofSinceEpoch n).sinceEpoch = n := by
  unfold ofSinceEpoch sinceEpoch nanosPerSecond
  dsimp only
  omega

lemma ofSinceEpoch_eq_iff (ht : t.nanos < nanosPerSecond) {n : ℤ} :
    ofSinceEpoch n = t ↔ n = t.sinceEpoch := by
  refine ⟨fun h => by rw [← h, sinceEpoch_ofSinceEpoch], ?_⟩
  rintro rfl
  obtain ⟨seconds, nanos⟩ := t
  unfold nanosPerSecond at ht
  unfold ofSinceEpoch sinceEpoch nanosPerSecond
  dsimp only at ht ⊢
  rw [Instant.mk.injEq]
  omega

lemma isLeap_of_lt (h : t.nanos < nanosPerSecond) : t.isLeap = false :=
  decide_eq_false (not_le.2 h)

/-- Moving an instant adds to its nanoseconds. -/
lemma shift_eq (ht : t.nanos < nanosPerSecond) {seconds rest : ℤ} (hlow : -nanosPerSecond < rest)
    (hhigh : rest < nanosPerSecond) :
    t.shift seconds rest = ofSinceEpoch (t.sinceEpoch + seconds * nanosPerSecond + rest) := by
  have hshift : (t.shift seconds rest).nanos < nanosPerSecond ∧
      t.sinceEpoch + seconds * nanosPerSecond + rest = (t.shift seconds rest).sinceEpoch := by
    unfold shift sinceEpoch
    dsimp only
    rw [isLeap_of_lt ht, if_neg Bool.false_ne_true]
    unfold nanosPerSecond at *
    split_ifs
    all_goals
      dsimp only
      omega
  exact ((ofSinceEpoch_eq_iff hshift.1).2 hshift.2).symm

/-- A date is moved by milliseconds if that does not lead out of range. -/
theorem addMillis?_eq (ht : t.nanos < nanosPerSecond) (millis : ℤ) :
    t.addMillis? millis = if (t.later millis).inRange then some (t.later millis) else none := by
  have hparts := Int.mul_tdiv_add_tmod millis 1000
  have hrest := Int.tmod_lt_of_pos millis (show 0 < 1000 by norm_num)
  have hrest' := Int.lt_tmod_of_pos millis (show 0 < 1000 by norm_num)
  have hshift : t.shift (Int.tdiv millis 1000) (Int.tmod millis 1000 * 1000000) = t.later millis := by
    rw [shift_eq ht (by unfold nanosPerSecond; omega) (by unfold nanosPerSecond; omega), later]
    congr 1
    unfold nanosPerSecond
    omega
  rw [addMillis?, hshift]

lemma nanos_later_lt : (t.later millis).nanos < nanosPerSecond := nanos_ofSinceEpoch_lt _

lemma sinceEpoch_later : (t.later millis).sinceEpoch = t.sinceEpoch + millis * 1000000 :=
  sinceEpoch_ofSinceEpoch _

/-- The way back. -/
lemma later_later_neg (ht : t.nanos < nanosPerSecond) : (t.later millis).later (-millis) = t := by
  rw [later, ofSinceEpoch_eq_iff ht, sinceEpoch_later]
  omega

/-- The milliseconds between two dates are those that the one was moved by. -/
lemma millisSince_later (ht : t.nanos < nanosPerSecond) :
    (t.later millis).millisSince t = millis := by
  have hnanos : (t.later millis).nanosSince t = (t.later millis).sinceEpoch - t.sinceEpoch := by
    unfold nanosSince sinceEpoch
    rw [isLeap_of_lt ht, isLeap_of_lt nanos_later_lt]
    simp only [Bool.false_eq_true, if_false, ite_self]
    ring
  rw [millisSince, hnanos, sinceEpoch_later, add_sub_cancel_left,
    Int.mul_tdiv_cancel _ (by norm_num)]

end Instant

end ChannelRules.Calendar
