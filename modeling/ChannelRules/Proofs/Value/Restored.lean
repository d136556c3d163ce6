import ChannelRules.Proofs.Ty.Steady
import ChannelRules.Proofs.Value.Literal
import ChannelRules.Proofs.Value.Parts

/-!
# Literals restored from their runtime form

The runtime form of a literal has bare amounts in the place of measures. Its type says which of the
amounts in arrays, also in nested ones, are measures, so that the literal can be restored. The type
of an object is not followed: the amounts in it stay bare. A normalized literal is therefore restored
exactly if no object in it holds a measure.
-/

namespace ChannelRules

namespace Ty

/-- No type but itself is above a measure with a unit. -/
lemma eq_of_measure_le {unit : String} (hunit : unit ≠ "") {t : Ty} (h : measure unit ≤ t) :
    t = measure unit := by
  cases h with
  | refl => rfl
  | measure => exact absurd rfl hunit

end Ty

namespace Value

/-- The amounts with a unit. -/
def isMeasure : Value → Bool
  | measure _ _ => true
  | _ => false

mutual

/-- The values in runtime form are those that hold no measure. -/
theorem toRuntime_eq_self_iff :
    (value : Value) → (value.toRuntime = value ↔ value.holds isMeasure = false)
  | measure amount unit => by
    constructor
    · nofun
    · nofun
  | array items => by
    rw [toRuntime, array.injEq, toRuntimeItems_eq_self_iff items, holds]
  | object fields => by
    rw [toRuntime, object.injEq, toRuntimeFields_eq_self_iff fields, holds]
  | varRef _ | boolean _ | string _ | number _ | location _ _ _ | date _ | time _ _
  | entity _ _ _ | enum _ | feed _ => iff_of_true rfl rfl

theorem toRuntimeItems_eq_self_iff :
    (items : List Value) → (toRuntimeItems items = items ↔ holdsItems isMeasure items = false)
  | [] => iff_of_true rfl rfl
  | item :: rest => by
    rw [toRuntimeItems, List.cons.injEq, toRuntime_eq_self_iff item,
      toRuntimeItems_eq_self_iff rest, holdsItems_cons_eq_false]

theorem toRuntimeFields_eq_self_iff :
    (fields : List (String × Value)) →
      (toRuntimeFields fields = fields ↔ holdsFields isMeasure fields = false)
  | [] => iff_of_true rfl rfl
  | (name, value) :: rest => by
    rw [toRuntimeFields, List.cons.injEq, Prod.mk.injEq, eq_self_iff_true, true_and,
      toRuntime_eq_self_iff value, toRuntimeFields_eq_self_iff rest, holdsFields_cons_eq_false]

end

/-- A type is above that of a literal. -/
def TypedBelow (t : Ty) (value : Value) : Prop := ∃ ty, value.typeOf.result = .ok ty ∧ ty ≤ t

/-- What items are joined to is above the type to start with and above the types of all items. -/
lemma le_typeOfItems {items : List Value} {first ty : Ty} (hfirst : first.hasVars = false)
    (h : (typeOfItems first items).result = .ok ty) :
    first ≤ ty ∧ ∀ item ∈ items, TypedBelow ty item := by
  induction items generalizing first with
  | nil =>
    cases h
    exact ⟨le_refl _, fun _ hitem => (List.not_mem_nil hitem).elim⟩
  | cons item rest ih =>
    simp only [typeOfItems, Noted.result_bind, bind_eq_ok] at h
    obtain ⟨own, hown, joined, hjoined, hrest⟩ := h
    have hvars := hasVars_typeOf item hown
    obtain ⟨hfirstJoined, hownJoined, -⟩ := Ty.isLUB_pair_iff.1 (Ty.agree_isLUB hfirst hvars hjoined)
    obtain ⟨hle, hitems⟩ := ih (Ty.agree_widens hfirst hvars hjoined).1 hrest
    exact ⟨le_trans hfirstJoined hle,
      List.forall_mem_cons.2 ⟨⟨own, hown, le_trans hownJoined hle⟩, hitems⟩⟩

lemma base?_of_normalize {amount : Float} {unit : String}
    (h : (measure amount unit).normalize = .ok (measure amount unit)) :
    MeasureUnit.base? unit = some unit := by
  rw [normalize] at h
  split at h
  · rename_i known hknown
    have hbase : known.base = unit := (measure.inj (Except.ok.inj h)).2
    rw [MeasureUnit.base?, hknown, Option.map_some, hbase]
  · cases h

mutual

/-- Under a type above its own, a normalized literal is restored from its runtime form exactly if it
hides no measure in an object. -/
theorem fromRuntime_toRuntime_of_le :
    (value : Value) → {t : Ty} → value.normalize = .ok value → TypedBelow t value →
      (value.toRuntime.fromRuntime t = value ↔ value.hides isMeasure = false)
  | measure amount unit, t, hnormal, ⟨ty, hty, hle⟩ => by
    have hbase := base?_of_normalize hnormal
    have hunit : unit ≠ "" := by
      rintro rfl
      cases hbase
    rw [typeOf, Noted.result_ofExcept, Ty.ofUnit, if_neg hunit, hbase] at hty
    cases hty
    rw [Ty.eq_of_measure_le hunit hle, toRuntime, fromRuntime, if_neg hunit]
    exact iff_of_true rfl rfl
  | number x, t, _, ⟨ty, hty, hle⟩ => by
    cases hty
    cases hle
    exact iff_of_true rfl rfl
  | array items, t, hnormal, ⟨ty, hty, hle⟩ => by
    simp only [typeOf, Noted.result_bind, bind_eq_ok, Noted.result_pure, Except.ok.injEq] at hty
    obtain ⟨elem, helem, rfl⟩ := hty
    obtain ⟨above, rfl, helemAbove⟩ := Ty.array_le_iff.1 hle
    simp only [normalize, bind_eq_ok, pure_eq_ok, array.injEq, exists_eq_right] at hnormal
    rw [toRuntime, fromRuntime, array.injEq, hides]
    refine fromRuntimeItems_toRuntimeItems items hnormal fun item hitem => ?_
    obtain ⟨own, hown, hownElem⟩ := (le_typeOfItems rfl helem).2 item hitem
    exact ⟨own, hown, le_trans hownElem helemAbove⟩
  | object fields, t, _, _ => by
    rw [toRuntime, fromRuntime, object.injEq, toRuntimeFields_eq_self_iff, hides]
    all_goals nofun
  | varRef _, _, _, _ | boolean _, _, _, _ | string _, _, _, _ | location _ _ _, _, _, _
  | date _, _, _, _ | time _ _, _, _, _ | entity _ _ _, _, _, _ | enum _, _, _, _
  | feed _, _, _, _ => iff_of_true rfl rfl

theorem fromRuntimeItems_toRuntimeItems :
    (items : List Value) → {t : Ty} → normalizeItems items = .ok items →
      (∀ item ∈ items, TypedBelow t item) →
        (fromRuntimeItems (toRuntimeItems items) t = items ↔ hidesItems isMeasure items = false)
  | [], _, _, _ => iff_of_true rfl rfl
  | item :: rest, t, hnormal, hbelow => by
    simp only [normalizeItems, bind_eq_ok, pure_eq_ok, List.cons.injEq] at hnormal
    obtain ⟨_, hitem, _, hrest, rfl, rfl⟩ := hnormal
    obtain ⟨hfirst, hothers⟩ := List.forall_mem_cons.1 hbelow
    rw [toRuntimeItems, fromRuntimeItems, List.cons.injEq, fromRuntime_toRuntime_of_le _ hitem hfirst,
      fromRuntimeItems_toRuntimeItems _ hrest hothers, hidesItems_cons_eq_false]

end

/-- A normalized literal is restored from its runtime form under its own type exactly if no object in
it holds a measure. In every case its runtime form stays the same, so no amount is lost. -/
theorem fromRuntime_toRuntime {value : Value} {ty : Ty} (hnormal : value.normalize = .ok value)
    (hty : value.typeOf.result = .ok ty) :
    (value.toRuntime.fromRuntime ty = value ↔ value.hides isMeasure = false) ∧
      (value.toRuntime.fromRuntime ty).toRuntime = value.toRuntime :=
  ⟨fromRuntime_toRuntime_of_le value hnormal ⟨ty, hty, le_refl ty⟩,
    (toRuntime_fromRuntime _ _).trans (isRuntime_toRuntime value)⟩

/-- Two stages of a journey, the first with one distance and the second without any. -/
def stages : Value := array [array [measure 2000 "m"], array []]

def pacedStage : Value := object [("pace", measure 2 "mps")]

/-- Distances in arrays are restored; the pace in an object is not, although its type tells it. -/
theorem fromRuntime_toRuntime_stages :
    (stages.normalize = .ok stages ∧
      stages.typeOf.result = .ok (.array (.array (.measure "m"))) ∧
      stages.toRuntime.fromRuntime (.array (.array (.measure "m"))) = stages) ∧
    (pacedStage.normalize = .ok pacedStage ∧
      pacedStage.typeOf.result = .ok (.object [("pace", .measure "mps")]) ∧
      pacedStage.toRuntime.fromRuntime (.object [("pace", .measure "mps")]) ≠ pacedStage ∧
      pacedStage.toRuntime.fromRuntime (.object [("pace", .measure "mps")]) =
        object [("pace", number 2)]) := by
  have hstages : stages.normalize = .ok stages := by rfl
  have hpaced : pacedStage.normalize = .ok pacedStage := by rfl
  refine ⟨⟨hstages, rfl, ?_⟩, hpaced, rfl, ?_, rfl⟩
  · exact (fromRuntime_toRuntime hstages rfl).1.2 rfl
  · intro hrestored
    have hplain := (fromRuntime_toRuntime hpaced rfl).1.1 hrestored
    cases hplain

end Value

end ChannelRules
