import ChannelRules.Proofs.Ty.Unify
import ChannelRules.Proofs.Value.Forms

/-!
# The type of a literal

A literal in which no name stands for a value has the type that is found for it, once it is in
runtime form. The items of an array are values of the type that their types are joined to.
-/

namespace ChannelRules

namespace Ty

lemma agree_widens {a b c : Ty} (ha : a.hasVars = false) (hb : b.hasVars = false)
    (h : (agree a b).result = .ok c) : c.hasVars = false ∧ a.Within c ∧ b.Within c := by
  obtain ⟨s, hunify⟩ := agree_eq_ok.1 h
  obtain ⟨hvars, -, hac, hbc⟩ := unifyWith_widens _ ha hb hunify
  exact ⟨hvars, hac, hbc⟩

lemma unifyAll_widens {first c : Ty} {types : List Ty} {s s' : Bindings}
    (hfirst : first.hasVars = false) (htypes : ∀ ty ∈ types, ty.hasVars = false)
    (h : unifyAll first types s = .ok c s') :
    c.hasVars = false ∧ first.Within c ∧ ∀ ty ∈ types, ty.Within c := by
  induction types generalizing first s with
  | nil =>
    cases h
    exact ⟨hfirst, within_refl _, fun _ hty => (List.not_mem_nil hty).elim⟩
  | cons ty rest ih =>
    simp only [unifyAll, state_bind_eq_ok] at h
    obtain ⟨joined, t, hjoined, hrest⟩ := h
    obtain ⟨hvars, -, hfirstJoined, htyJoined⟩ :=
      unifyWith_widens _ hfirst (htypes ty List.mem_cons_self) hjoined
    obtain ⟨hcvars, hwithin, hall⟩ :=
      ih hvars (fun ty hty => htypes ty (List.mem_cons_of_mem _ hty)) hrest
    refine ⟨hcvars, within_trans hfirstJoined hwithin, fun other hother => ?_⟩
    rcases List.mem_cons.1 hother with rfl | hother
    · exact within_trans htyJoined hwithin
    · exact hall other hother

/-- Types without variables are joined to a type without variables that has the values of all of
them. -/
lemma join_widens {c : Ty} {types : List Ty} (htypes : ∀ ty ∈ types, ty.hasVars = false)
    (h : (join types).result = .ok c) : c.hasVars = false ∧ ∀ ty ∈ types, ty.Within c := by
  obtain ⟨s, hall⟩ := join_eq_ok.1 h
  obtain ⟨hvars, -, hwithin⟩ := unifyAll_widens rfl htypes hall
  exact ⟨hvars, hwithin⟩

end Ty

namespace Value

mutual

/-- Whether a name stands for a value somewhere in a literal. -/
def mentionsName : Value → Bool
  | varRef _ => true
  | array items => mentionsNameItems items
  | object fields => mentionsNameFields fields
  | _ => false

def mentionsNameItems : List Value → Bool
  | [] => false
  | item :: rest => mentionsName item || mentionsNameItems rest

def mentionsNameFields : List (String × Value) → Bool
  | [] => false
  | (_, value) :: rest => mentionsName value || mentionsNameFields rest

end

lemma ofUnit_eq_ok {unit : String} {ty : Ty} (h : Ty.ofUnit unit = .ok ty) :
    ∃ base, ty = .measure base := by
  unfold Ty.ofUnit at h
  split at h
  · cases h
    exact ⟨_, rfl⟩
  · split at h
    · cases h
      exact ⟨_, rfl⟩
    · cases h

mutual

/-- The type of a literal has no variables. -/
theorem hasVars_typeOf :
    (value : Value) → {ty : Ty} → value.typeOf.result = .ok ty → ty.hasVars = false
  | measure _ _, _, h => by
    obtain ⟨base, rfl⟩ := ofUnit_eq_ok h
    rfl
  | object fields, _, h => by
    simp only [typeOf, Noted.result_bind, bind_eq_ok, Noted.result_pure, Except.ok.injEq] at h
    obtain ⟨types, htypes, rfl⟩ := h
    exact Ty.hasVarsFields_eq_false.2 (hasVars_typeOfFields fields htypes)
  | array items, _, h => by
    simp only [typeOf, Noted.result_bind, bind_eq_ok, Noted.result_pure, Except.ok.injEq] at h
    obtain ⟨elem, helem, rfl⟩ := h
    rw [Ty.hasVars]
    exact hasVars_typeOfItems items rfl helem
  | varRef _, _, h | boolean _, _, h | string _, _, h | number _, _, h | location _ _ _, _, h
  | date _, _, h | time _ _, _, h | entity _ _ _, _, h | enum _, _, h | feed _, _, h => by
    cases h
    rfl

theorem hasVars_typeOfItems :
    (items : List Value) → {elem ty : Ty} → elem.hasVars = false →
      (typeOfItems elem items).result = .ok ty → ty.hasVars = false
  | [], _, _, helem, h => by
    cases h
    exact helem
  | item :: rest, _, _, helem, h => by
    simp only [typeOfItems, Noted.result_bind, bind_eq_ok] at h
    obtain ⟨first, hfirst, joined, hjoined, hrest⟩ := h
    have hjoin := Ty.agree_widens helem (hasVars_typeOf item hfirst) hjoined
    exact hasVars_typeOfItems rest hjoin.1 hrest

theorem hasVars_typeOfFields :
    (fields : List (String × Value)) → {types : List (String × Ty)} →
      (typeOfFields fields).result = .ok types → ∀ field ∈ types, field.2.hasVars = false
  | [], _, h => by
    cases h
    exact fun _ hfield => (List.not_mem_nil hfield).elim
  | (key, value) :: rest, _, h => by
    simp only [typeOfFields, Noted.result_bind, bind_eq_ok, Noted.result_pure, Except.ok.injEq] at h
    obtain ⟨first, hfirst, others, hothers, rfl⟩ := h
    exact List.forall_mem_cons.2 ⟨hasVars_typeOf value hfirst, hasVars_typeOfFields rest hothers⟩

end

mutual

/-- The runtime form of a literal is a value of the literal's type. -/
theorem hasType_typeOf :
    (value : Value) → {ty : Ty} → value.mentionsName = false → value.typeOf.result = .ok ty →
      value.toRuntime.HasType ty
  | varRef _, _, hname, _ => nomatch hname
  | boolean b, _, _, h => by
    cases h
    exact .boolean b
  | string s, _, _, h => by
    cases h
    exact .string rfl
  | measure amount unit, _, _, h => by
    obtain ⟨base, rfl⟩ := ofUnit_eq_ok h
    exact .measure base rfl
  | number x, _, _, h => by
    cases h
    exact .number rfl
  | location x y display, _, _, h => by
    cases h
    exact .location x y display
  | date t, _, _, h => by
    cases h
    exact .date t
  | time hour minute, _, _, h => by
    cases h
    exact .time hour minute
  | entity value tag display, _, _, h => by
    cases h
    exact .entity tag rfl
  | enum entry, _, _, h => by
    cases h
    exact .enum [entry] rfl
  | feed id, _, _, h => by
    cases h
    exact .entity _ rfl
  | object fields, _, hname, h => by
    simp only [typeOf, Noted.result_bind, bind_eq_ok, Noted.result_pure, Except.ok.injEq] at h
    obtain ⟨types, htypes, rfl⟩ := h
    exact Inhabits.object_iff.2 (hasType_typeOfFields fields hname htypes)
  | array items, _, hname, h => by
    simp only [typeOf, Noted.result_bind, bind_eq_ok, Noted.result_pure, Except.ok.injEq] at h
    obtain ⟨elem, helem, rfl⟩ := h
    obtain ⟨-, hitems⟩ := hasType_typeOfItems items rfl hname helem
    rw [toRuntime_array]
    refine .array fun item hitem => ?_
    obtain ⟨literal, hliteral, rfl⟩ := List.mem_map.1 hitem
    exact hitems literal hliteral

theorem hasType_typeOfItems :
    (items : List Value) → {elem ty : Ty} → elem.hasVars = false →
      mentionsNameItems items = false → (typeOfItems elem items).result = .ok ty →
        elem.Within ty ∧ ∀ item ∈ items, item.toRuntime.HasType ty
  | [], _, _, _, _, h => by
    cases h
    exact ⟨Ty.within_refl _, fun _ hitem => (List.not_mem_nil hitem).elim⟩
  | item :: rest, _, _, helem, hname, h => by
    rw [mentionsNameItems, Bool.or_eq_false_iff] at hname
    simp only [typeOfItems, Noted.result_bind, bind_eq_ok] at h
    obtain ⟨first, hfirst, joined, hjoined, hrest⟩ := h
    have hitem := hasType_typeOf item hname.1 hfirst
    obtain ⟨hjvars, helemJoined, hfirstJoined⟩ :=
      Ty.agree_widens helem (hasVars_typeOf item hfirst) hjoined
    obtain ⟨hwithin, hitems⟩ := hasType_typeOfItems rest hjvars hname.2 hrest
    refine ⟨Ty.within_trans helemJoined hwithin, fun other hother => ?_⟩
    rcases List.mem_cons.1 hother with rfl | hother
    · exact hwithin _ (hfirstJoined _ hitem)
    · exact hitems other hother

theorem hasType_typeOfFields :
    (fields : List (String × Value)) → {types : List (String × Ty)} →
      mentionsNameFields fields = false → (typeOfFields fields).result = .ok types →
        ∀ name ty, Named.get? types name = some ty →
          ∃ v, Named.get? (toRuntimeFields fields) name = some v ∧ v.HasType ty
  | [], _, _, h => by
    cases h
    nofun
  | (key, value) :: rest, _, hname, h => by
    rw [mentionsNameFields, Bool.or_eq_false_iff] at hname
    simp only [typeOfFields, Noted.result_bind, bind_eq_ok, Noted.result_pure, Except.ok.injEq] at h
    obtain ⟨first, hfirst, others, hothers, rfl⟩ := h
    have hvalue := hasType_typeOf value hname.1 hfirst
    have hfields := hasType_typeOfFields rest hname.2 hothers
    intro name ty hty
    by_cases hkey : key = name
    · simp only [Named.get?, hkey, if_true, Option.some.injEq] at hty
      subst hty
      exact ⟨value.toRuntime, by rw [toRuntimeFields, Named.get?, if_pos hkey], hvalue⟩
    · simp only [Named.get?, hkey, if_false] at hty
      obtain ⟨v, hv, hinhabits⟩ := hfields name ty hty
      exact ⟨v, by rw [toRuntimeFields, Named.get?, if_neg hkey, hv], hinhabits⟩

end

end Value

end ChannelRules
