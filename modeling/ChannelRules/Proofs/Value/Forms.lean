import ChannelRules.Proofs.Builtin.Native
import ChannelRules.Proofs.Units

/-!
# The forms of a value

A value in runtime form holds no measures. Turning a value into a literal of some type and back does
not change its runtime form. Calculations on values in runtime form give values in runtime form.
A value in base units is not changed by converting it to base units once more.
-/

namespace ChannelRules

namespace Value

lemma toRuntimeItems_eq_map (items : List Value) : toRuntimeItems items = items.map toRuntime := by
  induction items with
  | nil => rfl
  | cons item rest ih => rw [toRuntimeItems, ih, List.map_cons]

lemma toRuntimeFields_eq_map (fields : List (String × Value)) :
    toRuntimeFields fields = fields.map fun entry => (entry.1, entry.2.toRuntime) := by
  induction fields with
  | nil => rfl
  | cons entry rest ih => rw [toRuntimeFields, ih, List.map_cons]

@[simp] lemma toRuntime_array (items : List Value) :
    toRuntime (array items) = array (items.map toRuntime) := by
  rw [toRuntime, toRuntimeItems_eq_map]

@[simp] lemma toRuntime_object (fields : List (String × Value)) :
    toRuntime (object fields) = object (fields.map fun entry => (entry.1, entry.2.toRuntime)) := by
  rw [toRuntime, toRuntimeFields_eq_map]

lemma map_eq_self_iff {α : Type} {f : α → α} {items : List α} :
    items.map f = items ↔ ∀ item ∈ items, f item = item := by
  have h := List.map_inj_left (l := items) (f := f) (g := id)
  rw [List.map_id] at h
  exact h

/-- Values without measures. -/
def IsRuntime (value : Value) : Prop := value.toRuntime = value

lemma isRuntime_hereditary : Hereditary IsRuntime where
  boolean _ := rfl
  string _ := rfl
  number _ := rfl
  location _ _ _ := rfl
  date _ := rfl
  time _ _ := rfl
  entity _ _ _ := rfl
  array items := by
    unfold IsRuntime
    rw [toRuntime_array, array.injEq]
    exact map_eq_self_iff
  object fields := by
    unfold IsRuntime
    rw [toRuntime_object, object.injEq, map_eq_self_iff]
    apply forall₂_congr
    intro entry _
    exact ⟨fun h => congrArg Prod.snd h, fun h => Prod.ext rfl h⟩

mutual

theorem isRuntime_toRuntime : (value : Value) → IsRuntime value.toRuntime
  | varRef _ | boolean _ | string _ | measure _ _ | number _ | location _ _ _ | date _ | time _ _
  | entity _ _ _ | enum _ | feed _ => rfl
  | array items => by
    rw [toRuntime, isRuntime_hereditary.array]
    exact isRuntime_toRuntimeItems items
  | object fields => by
    rw [toRuntime, isRuntime_hereditary.object]
    exact isRuntime_toRuntimeFields fields

theorem isRuntime_toRuntimeItems :
    (items : List Value) → ∀ item ∈ toRuntimeItems items, IsRuntime item
  | [], _, h => nomatch h
  | first :: rest, item, h => by
    rw [toRuntimeItems] at h
    rcases List.mem_cons.1 h with rfl | h
    · exact isRuntime_toRuntime first
    · exact isRuntime_toRuntimeItems rest item h

theorem isRuntime_toRuntimeFields :
    (fields : List (String × Value)) → ∀ entry ∈ toRuntimeFields fields, IsRuntime entry.2
  | [], _, h => nomatch h
  | (_, value) :: rest, entry, h => by
    rw [toRuntimeFields] at h
    rcases List.mem_cons.1 h with rfl | h
    · exact isRuntime_toRuntime value
    · exact isRuntime_toRuntimeFields rest entry h

end

mutual

/-- A literal of any type has the runtime form of the value it stands for. -/
theorem toRuntime_fromRuntime :
    (value : Value) → (ty : Ty) → (value.fromRuntime ty).toRuntime = value.toRuntime
  | number x, ty => by
    cases ty with
    | measure unit => by_cases h : unit = "" <;> simp [fromRuntime, h, toRuntime]
    | _ => rfl
  | array items, ty => by
    cases ty with
    | array elem =>
      rw [fromRuntime, toRuntime, toRuntime, toRuntimeItems_fromRuntimeItems items elem]
    | _ => rfl
  | varRef _, _ | boolean _, _ | string _, _ | measure _ _, _ | location _ _ _, _ | date _, _
  | time _ _, _ | entity _ _ _, _ | enum _, _ | object _, _ | feed _, _ => rfl

theorem toRuntimeItems_fromRuntimeItems :
    (items : List Value) → (elem : Ty) →
      toRuntimeItems (fromRuntimeItems items elem) = toRuntimeItems items
  | [], _ => rfl
  | item :: rest, elem => by
    rw [fromRuntimeItems, toRuntimeItems, toRuntimeItems, toRuntime_fromRuntime item elem,
      toRuntimeItems_fromRuntimeItems rest elem]

end

lemma isRuntime_run [PatternEngine] {op : Calculation} {args : List Value} {value : Value}
    (h : op.run (args.map toRuntime) = .ok value) : IsRuntime value := by
  apply op.run_hereditary isRuntime_hereditary _ h
  intro a ha
  obtain ⟨arg, -, rfl⟩ := List.mem_map.1 ha
  exact isRuntime_toRuntime arg

mutual

/-- Conversion to base units is idempotent. -/
theorem normalize_normalize :
    (value : Value) → {normal : Value} → value.normalize = .ok normal →
      normal.normalize = .ok normal
  | measure amount unit, _, h => by
    rw [normalize] at h
    split at h
    · rename_i known hknown
      cases h
      rw [normalize, MeasureUnit.find?_base hknown]
      exact congrArg (fun x => Except.ok (measure x known.base)) (MeasureUnit.toBase_one _)
    · cases h
  | array items, _, h => by
    simp only [normalize, bind_eq_ok, pure_eq_ok] at h
    obtain ⟨normals, hitems, rfl⟩ := h
    rw [normalize, normalizeItems_normalizeItems items hitems]
    rfl
  | object fields, _, h => by
    simp only [normalize, bind_eq_ok, pure_eq_ok] at h
    obtain ⟨normals, hfields, rfl⟩ := h
    rw [normalize, normalizeFields_normalizeFields fields hfields]
    rfl
  | varRef _, _, h | boolean _, _, h | string _, _, h | number _, _, h | location _ _ _, _, h
  | date _, _, h | time _ _, _, h | entity _ _ _, _, h | enum _, _, h | feed _, _, h => by
    cases h
    rfl

theorem normalizeItems_normalizeItems :
    (items : List Value) → {normals : List Value} → normalizeItems items = .ok normals →
      normalizeItems normals = .ok normals
  | [], _, h => by
    cases h
    rfl
  | item :: rest, _, h => by
    simp only [normalizeItems, bind_eq_ok, pure_eq_ok] at h
    obtain ⟨normal, hitem, normals, hrest, rfl⟩ := h
    rw [normalizeItems, normalize_normalize item hitem, normalizeItems_normalizeItems rest hrest]
    rfl

theorem normalizeFields_normalizeFields :
    (fields : List (String × Value)) → {normals : List (String × Value)} →
      normalizeFields fields = .ok normals → normalizeFields normals = .ok normals
  | [], _, h => by
    cases h
    rfl
  | (name, value) :: rest, _, h => by
    simp only [normalizeFields, bind_eq_ok, pure_eq_ok] at h
    obtain ⟨normal, hvalue, normals, hrest, rfl⟩ := h
    rw [normalizeFields, normalize_normalize value hvalue,
      normalizeFields_normalizeFields rest hrest]
    rfl

end

end Value

end ChannelRules
