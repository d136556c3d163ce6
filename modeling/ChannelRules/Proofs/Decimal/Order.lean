import ChannelRules.Proofs.Comparison
import Mathlib.Algebra.Order.Ring.Int
import Mathlib.Data.Nat.Cast.Order.Basic

/-!
# The order of doubles

Every double that is no NaN has a place: below zero or above it, then by its exponent and its
mantissa, with the infinities outermost. Doubles compare as their places do. Their comparison is
therefore lawful, and their equality as numbers is symmetric.
-/

namespace ChannelRules.Decimal

open Float.Model

/-- The place of an unpacked double among the others; both zeros have the same one. -/
def place : UnpackedFloat → Option (ℤ × ℤ × ℤ)
  | .notANumber => none
  | .infinity .negative => some (-2, 0, 0)
  | .finite .negative m e _ => some (-1, -e, -m)
  | .zero _ => some (0, 0, 0)
  | .finite .positive m e _ => some (1, e, m)
  | .infinity .positive => some (2, 0, 0)

/-- Places compare by their first difference. -/
def comparePlaces : ℤ × ℤ × ℤ → ℤ × ℤ × ℤ → Ordering :=
  compareLex (compareOn Prod.fst) (compareLex (compareOn fun p => p.2.1) (compareOn fun p => p.2.2))

instance : Std.TransCmp comparePlaces :=
  inferInstanceAs (Std.TransCmp (compareLex _ _))

lemma compare_neg (a b : ℤ) : compare (-a) (-b) = (compare a b).swap := by
  have hanti : StrictAnti fun x : ℤ => -x := fun _ _ h => neg_lt_neg h
  have hswap : compare b a = (compare a b).swap := Std.OrientedCmp.eq_swap
  rw [← hswap, ← cmp_eq_compare, ← cmp_eq_compare]
  exact hanti.cmp_map_eq a b

lemma compare_natCast (m n : ℕ) : compare (m : ℤ) (n : ℤ) = compare m n := by
  rw [← cmp_eq_compare, ← cmp_eq_compare]
  exact Nat.strictMono_cast.cmp_map_eq m n

lemma compare_finite (s t : UnpackedFloat.Sign) {m m' : ℕ} (e e' : ℤ) (hm : 0 < m) (hm' : 0 < m') :
    (UnpackedFloat.finite s m e hm).compare (.finite t m' e' hm') =
      (place (.finite s m e hm)).bind fun x =>
        (place (.finite t m' e' hm')).bind fun y => some (comparePlaces x y) := by
  cases s <;> cases t
  · have hmantissa : compare (-(m : ℤ)) (-(m' : ℤ)) = (compare m m').swap := by
      rw [compare_neg, compare_natCast]
    show some ((compare e e').then (compare m m')).swap =
      some ((compare (-e) (-e')).then (compare (-(m : ℤ)) (-(m' : ℤ))))
    rw [Ordering.swap_then, compare_neg, hmantissa]
  · rfl
  · rfl
  · show some ((compare e e').then (compare m m')) =
      some ((compare e e').then (compare (m : ℤ) (m' : ℤ)))
    rw [compare_natCast]

/-- Unpacked doubles compare as their places do. -/
theorem compare_eq_places (u v : UnpackedFloat) :
    u.compare v = (place u).bind fun x => (place v).bind fun y => some (comparePlaces x y) := by
  cases u with
  | notANumber => rfl
  | infinity s =>
    cases v with
    | infinity t => cases s <;> cases t <;> rfl
    | notANumber | zero => cases s <;> rfl
    | finite t m e => cases s <;> cases t <;> rfl
  | zero s =>
    cases v with
    | infinity t => cases t <;> rfl
    | notANumber | zero => rfl
    | finite t m e => cases t <;> rfl
  | finite s m e hm =>
    cases v with
    | infinity t => cases s <;> cases t <;> rfl
    | notANumber | zero => cases s <;> rfl
    | finite t m' e' hm' => exact compare_finite s t e e' hm hm'

/-- The comparison of doubles by their unpacked forms. -/
def order (x y : Float) : Option Ordering := x.toModel.unpack.compare y.toModel.unpack

theorem lawfulCompare_order : LawfulCompare order := by
  have h : order = fun x y : Float => (place x.toModel.unpack).bind fun p =>
      (place y.toModel.unpack).bind fun q => some (comparePlaces p q) := by
    funext x y
    exact compare_eq_places _ _
  rw [h]
  exact (LawfulCompare.total comparePlaces).along fun x : Float => place x.toModel.unpack

lemma beq_iff_order {x y : Float} : (x == y) = true ↔ order x y = some .eq :=
  beq_iff_eq (a := order x y)

lemma lt_iff_order {x y : Float} : x < y ↔ order x y = some .lt := by
  show decide ((order x y == some .lt) = true) = true ↔ _
  rw [decide_eq_true_iff, beq_iff_eq]

lemma order_swap_iff {x y : Float} {o : Ordering} :
    order y x = some o.swap ↔ order x y = some o := by
  rw [lawfulCompare_order.swap x y]
  cases order x y with
  | none => simp
  | some p => cases o <;> cases p <;> simp [Ordering.swap]

/-- Equality of doubles as numbers is symmetric. -/
theorem beq_comm (x y : Float) : (x == y) = (y == x) := by
  rw [Bool.eq_iff_iff, beq_iff_order, beq_iff_order]
  exact (order_swap_iff (o := .eq)).symm

end ChannelRules.Decimal
