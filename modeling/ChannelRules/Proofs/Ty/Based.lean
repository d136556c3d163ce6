import ChannelRules.Proofs.Ty.Kept
import ChannelRules.Proofs.Units
import ChannelRules.Ty.Substitute
import ChannelRules.Value.Basic

/-!
# Types in base units

All measures in a type are in base units, or their unit is still open. The types of literals are of
this kind. Bringing such types together gives such a type, and so does replacing variables that are
bound to such types.
-/

namespace ChannelRules

namespace Ty

mutual

/-- Whether every measure in a type is in a base unit or in no unit yet. -/
def isBased : Ty → Bool
  | measure unit => unit == "" || MeasureUnit.baseUnits.contains unit
  | array elem => isBased elem
  | map key value => isBased key && isBased value
  | tuple items => isBasedItems items
  | object fields => isBasedFields fields
  | _ => true

def isBasedItems : List Ty → Bool
  | [] => true
  | item :: rest => isBased item && isBasedItems rest

def isBasedFields : List (String × Ty) → Bool
  | [] => true
  | (_, field) :: rest => isBased field && isBasedFields rest

end

lemma isBasedItems_iff {items : List Ty} :
    isBasedItems items = true ↔ ∀ item ∈ items, item.isBased = true := by
  induction items with
  | nil => simp [isBasedItems]
  | cons item rest ih => simp [isBasedItems, ih]

lemma isBasedFields_iff {fields : List (String × Ty)} :
    isBasedFields fields = true ↔ ∀ field ∈ fields, field.2.isBased = true := by
  induction fields with
  | nil => simp [isBasedFields]
  | cons field rest ih => simp [isBasedFields, ih]

/-- All variables are bound to types in base units. -/
def BindsBased (types : Named Ty) : Prop :=
  ∀ name ty, Named.get? types name = some ty → ty.isBased = true

lemma bindsBased_nil : BindsBased [] := nofun

/-- A computation that keeps variables bound to types in base units, and whose results have a
property. -/
def StaysBased {α : Type} (x : Unify α) (Q : α → Prop) : Prop :=
  ∀ s s' a, BindsBased s.types → x s = .ok a s' → BindsBased s'.types ∧ Q a

section Stays

variable {α β : Type} {P : α → Prop} {Q : β → Prop}

lemma staysBased_pure {a : α} (ha : P a) : StaysBased (pure a) P := by
  intro s s' b hs h
  obtain ⟨rfl, rfl⟩ := state_pure_eq_ok.1 h
  exact ⟨hs, ha⟩

lemma staysBased_throw (e : TypeError) : StaysBased (throw e) P := nofun

lemma StaysBased.bind {x : Unify α} {f : α → Unify β} (hx : StaysBased x P)
    (hf : ∀ a, P a → StaysBased (f a) Q) : StaysBased (x >>= f) Q := by
  intro s s' b hs h
  obtain ⟨a, t, ha, hb⟩ := state_bind_eq_ok.1 h
  obtain ⟨ht, hP⟩ := hx s t a hs ha
  exact hf a hP t s' b ht hb

end Stays

lemma inherited_isBased : Inherited fun ty => ty.isBased = true where
  part := by
    intro ty part hty hpart
    cases ty with
    | array elem =>
      cases List.mem_singleton.1 hpart
      exact hty
    | map key value =>
      rw [isBased, Bool.and_eq_true] at hty
      rcases List.mem_cons.1 hpart with rfl | hpart
      · exact hty.1
      · cases List.mem_singleton.1 hpart
        exact hty.2
    | tuple items => exact isBasedItems_iff.1 hty part hpart
    | object fields =>
      obtain ⟨field, hfield, rfl⟩ := List.mem_map.1 hpart
      exact isBasedFields_iff.1 hty field hfield
    | _ => cases hpart
  withComponents := by
    intro ty items hty hitems
    unfold withComponents
    split
    · rw [isBased]
      exact hitems _ List.mem_cons_self
    · rw [isBased, Bool.and_eq_true]
      exact ⟨hitems _ List.mem_cons_self, hitems _ (List.mem_cons_of_mem _ List.mem_cons_self)⟩
    · exact isBasedItems_iff.2 hitems
    · exact isBasedFields_iff.2 fun field hfield => hitems _ (List.of_mem_zip hfield).2
    · exact hty
  enum := fun _ => rfl

/-- Types in base units are brought together to a type in base units. -/
theorem unifyWith_staysBased (fuel : Nat) {a b : Ty} (ha : a.isBased = true) (hb : b.isBased = true) :
    StaysBased (unifyWith fuel a b) fun c => c.isBased = true :=
  fun _ _ _ hs h => (unifyWith_keeps inherited_isBased fuel ha hb).ok hs h

lemma unify_staysBased {a b : Ty} (ha : a.isBased = true) (hb : b.isBased = true) :
    StaysBased (unify a b) fun c => c.isBased = true :=
  fun s s' c hs h => unifyWith_staysBased _ ha hb s s' c hs h

/-- Types in base units agree on a type in base units. -/
lemma isBased_of_agree {a b c : Ty} (ha : a.isBased = true) (hb : b.isBased = true)
    (h : (agree a b).result = .ok c) : c.isBased = true := by
  obtain ⟨s, hunify⟩ := agree_eq_ok.1 h
  exact (unify_staysBased ha hb _ _ _ bindsBased_nil hunify).2

lemma unifyAll_staysBased {first : Ty} {types : List Ty} (hfirst : first.isBased = true)
    (htypes : ∀ ty ∈ types, ty.isBased = true) :
    StaysBased (unifyAll first types) fun c => c.isBased = true := by
  induction types generalizing first with
  | nil => exact staysBased_pure hfirst
  | cons ty rest ih =>
    rw [List.forall_mem_cons] at htypes
    exact (unify_staysBased hfirst htypes.1).bind fun joined hjoined => ih hjoined htypes.2

lemma isBased_of_join {types : List Ty} {c : Ty} (htypes : ∀ ty ∈ types, ty.isBased = true)
    (h : (join types).result = .ok c) : c.isBased = true := by
  obtain ⟨s, hunify⟩ := join_eq_ok.1 h
  exact (unifyAll_staysBased rfl htypes _ _ _ bindsBased_nil hunify).2

lemma isBased_resolveWith {types : Named Ty} (htypes : BindsBased types) (fuel : Nat) {ty : Ty}
    (hty : ty.isBased = true) : (resolveWith types fuel ty).isBased = true := by
  induction fuel generalizing ty with
  | zero => rfl
  | succ fuel ih =>
    cases ty with
    | var name =>
      rw [resolveWith]
      split
      · split
        · rfl
        · exact ih rfl
      · rename_i hget
        exact ih (htypes name _ hget)
      · rfl
    | array elem => exact ih hty
    | map key value =>
      rw [isBased, Bool.and_eq_true] at hty
      rw [resolveWith, isBased, ih hty.1, ih hty.2]
      rfl
    | tuple items =>
      rw [isBased, isBasedItems_iff] at hty
      rw [resolveWith, isBased, isBasedItems_iff]
      intro item hitem
      obtain ⟨old, hold, rfl⟩ := List.mem_map.1 hitem
      exact ih (hty old hold)
    | object fields =>
      rw [isBased, isBasedFields_iff] at hty
      rw [resolveWith, isBased, isBasedFields_iff]
      intro field hfield
      obtain ⟨old, hold, rfl⟩ := List.mem_map.1 hfield
      exact ih (hty old hold)
    | _ => exact hty

lemma isBased_ofUnit {unit : String} {ty : Ty} (h : ofUnit unit = .ok ty) :
    ty.isBased = true := by
  unfold ofUnit at h
  split at h
  · cases h
    rfl
  · split at h
    · rename_i base hbase
      cases h
      obtain ⟨known, hknown, rfl⟩ := Option.map_eq_some_iff.1 hbase
      have hmem := MeasureUnit.base_mem_baseUnits known (List.mem_of_find?_eq_some hknown)
      rw [isBased, List.contains_iff_mem.2 hmem, Bool.or_true]
    · cases h

end Ty

namespace Value

mutual

/-- The type of a literal is in base units. -/
theorem isBased_typeOf : (value : Value) → {ty : Ty} → value.typeOf.result = .ok ty →
    ty.isBased = true
  | measure amount unit, _, h => Ty.isBased_ofUnit h
  | object fields, _, h => by
    simp only [typeOf, Noted.result_bind, bind_eq_ok, Noted.result_pure, Except.ok.injEq] at h
    obtain ⟨types, htypes, rfl⟩ := h
    rw [Ty.isBased, Ty.isBasedFields_iff]
    exact isBased_typeOfFields fields htypes
  | array items, _, h => by
    simp only [typeOf, Noted.result_bind, bind_eq_ok, Noted.result_pure, Except.ok.injEq] at h
    obtain ⟨elem, helem, rfl⟩ := h
    rw [Ty.isBased]
    exact isBased_typeOfItems items rfl helem
  | varRef _, _, h | boolean _, _, h | string _, _, h | number _, _, h | location _ _ _, _, h
  | date _, _, h | time _ _, _, h | entity _ _ _, _, h | enum _, _, h | feed _, _, h => by
    cases h
    rfl

theorem isBased_typeOfItems : (items : List Value) → {elem ty : Ty} → elem.isBased = true →
    (typeOfItems elem items).result = .ok ty → ty.isBased = true
  | [], _, _, helem, h => by
    cases h
    exact helem
  | item :: rest, _, _, helem, h => by
    simp only [typeOfItems, Noted.result_bind, bind_eq_ok] at h
    obtain ⟨ty, hty, joined, hjoined, hrest⟩ := h
    have hbased := Ty.isBased_of_agree helem (isBased_typeOf item hty) hjoined
    exact isBased_typeOfItems rest hbased hrest

theorem isBased_typeOfFields : (fields : List (String × Value)) → {types : List (String × Ty)} →
    (typeOfFields fields).result = .ok types → ∀ field ∈ types, field.2.isBased = true
  | [], _, h => by
    cases h
    exact List.forall_mem_nil _
  | (name, value) :: rest, _, h => by
    simp only [typeOfFields, Noted.result_bind, bind_eq_ok, Noted.result_pure, Except.ok.injEq] at h
    obtain ⟨ty, hty, types, htypes, rfl⟩ := h
    exact List.forall_mem_cons.2 ⟨isBased_typeOf value hty, isBased_typeOfFields rest htypes⟩

end

end Value

end ChannelRules
