import ChannelRules.Proofs.Ty.Joint
import ChannelRules.Proofs.Value.Literal

/-!
# Types of array literals

An enumeration in the type of a literal has one entry. Two such types with a common type of this kind
above them therefore agree. So an array literal has a type exactly if its items have types any two of
which agree, and the type of its items is the least type above those: their order does not matter.
-/

namespace ChannelRules

namespace Ty

/-- Every enumeration inside a type has one entry. -/
def SingleEntries (ty : Ty) : Prop := ∀ entries, OccursIn (enum entries) ty → ∃ x, entries = [x]

lemma SingleEntries.part {ty part : Ty} (h : SingleEntries ty) (hpart : part ∈ ty.components) :
    SingleEntries part :=
  fun entries hentries => h entries (.inside hpart hentries)

lemma singleEntries_of_parts {ty : Ty} (henum : ∀ entries, ty ≠ enum entries)
    (h : ∀ part ∈ ty.components, SingleEntries part) : SingleEntries ty := by
  intro entries hentries
  cases hentries with
  | here => exact absurd rfl (henum entries)
  | inside hnext hentries => exact h _ hnext entries hentries

lemma singleEntries_enum (entry : String) : SingleEntries (enum [entry]) := by
  intro entries hentries
  cases hentries with
  | here => exact ⟨entry, rfl⟩
  | inside hnext _ => cases hnext

lemma unifyEnums_single {x y : String} {zs : List String} (h : unifyEnums [x] [y] = some zs) :
    zs = [x] ∨ zs = [y] := by
  rcases unifyEnums_mem h with rfl | rfl | rfl
  · exact .inl rfl
  · exact .inr rfl
  · exact .inl rfl

lemma singleEntries_unifyLists {step : Ty → Ty → Unify Ty} {xs ys zs : List Ty} {s s' : Bindings}
    (hstep : ∀ x ∈ xs, ∀ y ∈ ys, ∀ z t t', step x y t = .ok z t' → SingleEntries z)
    (h : unifyLists step xs ys s = .ok zs s') : ∀ z ∈ zs, SingleEntries z := by
  induction xs generalizing ys zs s s' with
  | nil =>
    cases h
    exact List.forall_mem_nil _
  | cons x xs ih =>
    cases ys with
    | nil =>
      cases h
      exact List.forall_mem_nil _
    | cons y ys =>
      simp only [unifyLists, state_bind_eq_ok, state_pure_eq_ok] at h
      obtain ⟨z, t, hz, rest, t', hrest, rfl, -⟩ := h
      have hfirst := hstep x List.mem_cons_self y List.mem_cons_self z s t hz
      have hothers := ih (fun x hx y hy =>
        hstep x (List.mem_cons_of_mem _ hx) y (List.mem_cons_of_mem _ hy)) hrest
      exact List.forall_mem_cons.2 ⟨hfirst, hothers⟩

/-- Types with enumerations of one entry are brought together to such a type. -/
theorem singleEntries_unifyWith {fuel : Nat} {a b c : Ty} {s s' : Bindings}
    (ha : a.hasVars = false) (hb : b.hasVars = false) (hsa : SingleEntries a)
    (hsb : SingleEntries b) (h : unifyWith fuel a b s = .ok c s') : SingleEntries c := by
  induction fuel generalizing a b c s s' with
  | zero => cases h
  | succ fuel ih =>
    rw [unifyWith_shapes fuel (ne_var_of_hasVars ha) (ne_var_of_hasVars hb)] at h
    by_cases hab : a = b
    · rw [if_pos hab] at h
      cases h
      exact hsa
    rw [if_neg hab] at h
    cases unifyShapes_outcome h with
    | second _ _ => exact hsb
    | first _ _ => exact hsa
    | entries hentries =>
      obtain ⟨x, rfl⟩ := hsa _ .here
      obtain ⟨y, rfl⟩ := hsb _ .here
      rcases unifyEnums_single hentries with rfl | rfl
      · exact singleEntries_enum x
      · exact singleEntries_enum y
    | @parts _ _ zs _ haligned hzs =>
      have hparts : ∀ z ∈ zs, SingleEntries z :=
        singleEntries_unifyLists (fun x hx y hy z t t' hz =>
          ih (hasVars_of_mem_components ha hx) (hasVars_of_mem_components hb hy) (hsa.part hx)
            (hsb.part hy) hz) hzs
      have hlength := unifyLists_length haligned.length_components hzs
      refine singleEntries_of_parts (fun entries heq => ?_) fun part hpart => ?_
      · have haligned' := haligned.withComponents hlength
        rw [heq] at haligned'
        cases haligned'
      · rw [haligned.components_withComponents hlength] at hpart
        exact hparts part hpart

/-- Two types below a type with enumerations of one entry agree. -/
lemma compatible_of_single {a b c : Ty} (ha : a.hasVars = false) (hb : b.hasVars = false)
    (hc : SingleEntries c) (hac : a ≤ c) (hbc : b ≤ c) : Compatible a b := by
  intro fuel hfuel s
  cases h : unifyWith fuel a b s with
  | ok d t => exact ⟨d, t, rfl⟩
  | error e t =>
    obtain ⟨xs, ys, zs, -, hxy, hyx, hxz, hyz, hoccurs⟩ := unifyWith_clash hfuel ha hb hac hbc h
    obtain ⟨z, rfl⟩ := hc zs hoccurs
    -- Both are empty or hold the one entry only.
    have hcases : ∀ ws : List String, ws ⊆ [z] → ws = [] ∨ z ∈ ws := by
      intro ws hws
      cases ws with
      | nil => exact .inl rfl
      | cons w ws => exact .inr (List.mem_singleton.1 (hws List.mem_cons_self) ▸ List.mem_cons_self)
    rcases hcases ys hyz with rfl | hz
    · exact absurd (List.nil_subset xs) hyx
    · exact absurd (fun x hx => List.mem_singleton.1 (hxz hx) ▸ hz) hxy

lemma JoinsTo.singleEntries {first last : Ty} {types : List Ty} (h : JoinsTo first types last)
    (hfirst : first.hasVars = false) (htypes : ∀ ty ∈ types, ty.hasVars = false)
    (hsingle : ∀ ty ∈ first :: types, SingleEntries ty) : SingleEntries last := by
  induction h with
  | nil => exact hsingle _ List.mem_cons_self
  | @cons first ty joined last rest hjoined _ ih =>
    rw [List.forall_mem_cons] at htypes
    simp only [List.forall_mem_cons] at hsingle
    obtain ⟨hfirstSingle, htySingle, hrestSingle⟩ := hsingle
    obtain ⟨s, hunify⟩ := agree_eq_ok.1 hjoined
    have hjoinedSingle :=
      singleEntries_unifyWith hfirst htypes.1 hfirstSingle htySingle hunify
    exact ih (hasVars_of_agree hfirst htypes.1 hjoined) htypes.2
      (List.forall_mem_cons.2 ⟨hjoinedSingle, hrestSingle⟩)

end Ty

namespace Value

def TypedAs (value : Value) (ty : Ty) : Prop := value.typeOf.result = .ok ty

lemma typeOfItems_eq_ok_iff {items : List Value} {first ty : Ty} :
    (typeOfItems first items).result = .ok ty ↔
      ∃ types, List.Forall₂ TypedAs items types ∧ Ty.JoinsTo first types ty := by
  induction items generalizing first with
  | nil =>
    rw [typeOfItems, Noted.result_pure, Except.ok.injEq]
    constructor
    · rintro rfl
      exact ⟨[], .nil, .nil first⟩
    · rintro ⟨types, ⟨⟩, hjoins⟩
      cases hjoins
      rfl
  | cons item rest ih =>
    simp only [typeOfItems, Noted.result_bind, bind_eq_ok, ih]
    constructor
    · rintro ⟨own, hown, joined, hjoined, types, htypes, hjoins⟩
      exact ⟨own :: types, .cons hown htypes, .cons hjoined hjoins⟩
    · rintro ⟨_, _ | ⟨hown, htypes⟩, hjoins⟩
      cases hjoins with
      | cons hjoined hjoins => exact ⟨_, hown, _, hjoined, _, htypes, hjoins⟩

lemma hasVars_of_typedAs {items : List Value} {types : List Ty}
    (h : List.Forall₂ TypedAs items types) : ∀ ty ∈ types, ty.hasVars = false := by
  induction h with
  | nil => exact List.forall_mem_nil _
  | cons hitem _ ih => exact List.forall_mem_cons.2 ⟨hasVars_typeOf _ hitem, ih⟩

mutual

/-- The enumerations in the type of a literal have one entry. -/
theorem singleEntries_typeOf : (value : Value) → {ty : Ty} → value.typeOf.result = .ok ty →
    ty.SingleEntries
  | measure _ _, _, h => by
    obtain ⟨base, rfl⟩ := ofUnit_eq_ok h
    exact Ty.singleEntries_of_parts nofun nofun
  | enum entry, _, h => by
    cases h
    exact Ty.singleEntries_enum entry
  | object fields, _, h => by
    simp only [typeOf, Noted.result_bind, bind_eq_ok, Noted.result_pure, Except.ok.injEq] at h
    obtain ⟨types, htypes, rfl⟩ := h
    refine Ty.singleEntries_of_parts nofun fun part hpart => ?_
    obtain ⟨field, hfield, rfl⟩ := List.mem_map.1 hpart
    exact singleEntries_typeOfFields fields htypes field hfield
  | array items, _, h => by
    simp only [typeOf, Noted.result_bind, bind_eq_ok, Noted.result_pure, Except.ok.injEq] at h
    obtain ⟨elem, helem, rfl⟩ := h
    obtain ⟨types, htypes, hjoins⟩ := typeOfItems_eq_ok_iff.1 helem
    refine Ty.singleEntries_of_parts nofun fun part hpart => ?_
    cases List.mem_singleton.1 hpart
    have hany : Ty.SingleEntries .any := Ty.singleEntries_of_parts nofun nofun
    exact hjoins.singleEntries rfl (hasVars_of_typedAs htypes)
      (List.forall_mem_cons.2 ⟨hany, singleEntries_typedAs items htypes⟩)
  | varRef _, _, h | boolean _, _, h | string _, _, h | number _, _, h | location _ _ _, _, h
  | date _, _, h | time _ _, _, h | entity _ _ _, _, h | feed _, _, h => by
    cases h
    exact Ty.singleEntries_of_parts nofun nofun

theorem singleEntries_typedAs : (items : List Value) → {types : List Ty} →
    List.Forall₂ TypedAs items types → ∀ ty ∈ types, ty.SingleEntries
  | [], _, h => by
    cases h
    exact List.forall_mem_nil _
  | item :: rest, _, h => by
    cases h with
    | cons hitem hrest =>
      exact List.forall_mem_cons.2
        ⟨singleEntries_typeOf item hitem, singleEntries_typedAs rest hrest⟩

theorem singleEntries_typeOfFields : (fields : List (String × Value)) →
    {types : List (String × Ty)} → (typeOfFields fields).result = .ok types →
      ∀ field ∈ types, field.2.SingleEntries
  | [], _, h => by
    cases h
    exact List.forall_mem_nil _
  | (name, value) :: rest, _, h => by
    simp only [typeOfFields, Noted.result_bind, bind_eq_ok, Noted.result_pure, Except.ok.injEq] at h
    obtain ⟨ty, hty, types, htypes, rfl⟩ := h
    exact List.forall_mem_cons.2
      ⟨singleEntries_typeOf value hty, singleEntries_typeOfFields rest htypes⟩

end

/-- An array literal has a type exactly if its items have types any two of which agree; its items then
have the least type above those. -/
theorem typeOf_array_iff {items : List Value} {ty : Ty} :
    (array items).typeOf.result = .ok ty ↔ ∃ types elem, ty = .array elem ∧
      List.Forall₂ TypedAs items types ∧ (∀ a ∈ types, ∀ b ∈ types, Ty.Compatible a b) ∧
        IsLUB {t | t ∈ .any :: types} elem := by
  simp only [typeOf, Noted.result_bind, bind_eq_ok, Noted.result_pure, Except.ok.injEq,
    typeOfItems_eq_ok_iff]
  constructor
  · rintro ⟨elem, ⟨types, htypes, hjoins⟩, rfl⟩
    have hvars := hasVars_of_typedAs htypes
    have hlub := hjoins.isLUB rfl hvars
    have hany : Ty.SingleEntries .any := Ty.singleEntries_of_parts nofun nofun
    have hsingle := hjoins.singleEntries rfl hvars
      (List.forall_mem_cons.2 ⟨hany, singleEntries_typedAs items htypes⟩)
    refine ⟨types, elem, rfl, htypes, fun a ha b hb => ?_, hlub⟩
    exact Ty.compatible_of_single (hvars a ha) (hvars b hb) hsingle
      (hlub.1 (List.mem_cons_of_mem _ ha)) (hlub.1 (List.mem_cons_of_mem _ hb))
  · rintro ⟨types, elem, rfl, htypes, hagree, hlub⟩
    have hvars := hasVars_of_typedAs htypes
    obtain ⟨last, hjoins⟩ := Ty.exists_join hvars hagree
    exact ⟨elem, ⟨types, htypes, (hjoins.isLUB rfl hvars).unique hlub ▸ hjoins⟩, rfl⟩

/-- The type of an array literal does not depend on the order of its items: in another order it has
the same type, or no type either. -/
theorem typeOf_array_perm {xs ys : List Value} (h : xs.Perm ys) (ty : Ty) :
    (array xs).typeOf.result = .ok ty ↔ (array ys).typeOf.result = .ok ty := by
  have hmove : ∀ {xs ys : List Value}, xs.Perm ys → (array xs).typeOf.result = .ok ty →
      (array ys).typeOf.result = .ok ty := by
    intro xs ys h hxs
    obtain ⟨types, elem, hty, htypes, hagree, hlub⟩ := typeOf_array_iff.1 hxs
    obtain ⟨types', htypes', hperm⟩ := List.perm_comp_forall₂ h.symm htypes
    have hlub' := (Ty.isLUB_perm (hperm.symm.cons Ty.any)).1 hlub
    refine typeOf_array_iff.2 ⟨types', elem, hty, htypes', fun a ha b hb => ?_, hlub'⟩
    exact hagree a (hperm.mem_iff.1 ha) b (hperm.mem_iff.1 hb)
  exact ⟨hmove h, hmove h.symm⟩

/-- Lists of settings: none, one given as a plain string, one that names an entry. -/
def settings : List Value := [array [], array [string "on"], array [enum "on"]]

theorem typeOf_array_perm_settings :
    settings.Perm settings.reverse ∧
      (array settings).typeOf.result = .ok (.array (.array (.enum ["on"]))) ∧
      (array settings.reverse).typeOf.result = .ok (.array (.array (.enum ["on"]))) := by
  have hperm : settings.Perm settings.reverse := settings.reverse_perm.symm
  have hty : (array settings).typeOf.result = .ok (.array (.array (.enum ["on"]))) := by rfl
  exact ⟨hperm, hty, (typeOf_array_perm hperm _).1 hty⟩

end Value

end ChannelRules
