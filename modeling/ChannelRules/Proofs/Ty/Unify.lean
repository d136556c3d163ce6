import ChannelRules.Builtin.Overload
import ChannelRules.Proofs.Ty.Inhabits
import ChannelRules.Proofs.Ty.Kept

/-!
# What unification gives

Two types without variables are brought together to a type that has the values of both. The type of
a parameter is brought together with the type of an argument by binding variables; with what they
are bound to in the end, the parameter has the values of the argument.
-/

namespace ChannelRules

namespace Ty

mutual

theorem hasVars_of_isStatic : (ty : Ty) → ty.isStatic = true → ty.hasVars = false
  | any, h | openTuple, h | openObject, h | module, h | var _, h => nomatch h
  | boolean, _ | string, _ | number, _ | entity _, _ | measure _, _ | enum _, _ | time, _ | date, _
  | location, _ => rfl
  | array elem, h => hasVars_of_isStatic elem h
  | map key value, h => by
    rw [isStatic, Bool.and_eq_true] at h
    rw [hasVars, hasVars_of_isStatic key h.1, hasVars_of_isStatic value h.2]
    rfl
  | tuple items, h => hasVarsItems_of_isStatic items h
  | object fields, h => hasVarsFields_of_isStatic fields h

theorem hasVarsItems_of_isStatic :
    (items : List Ty) → isStaticItems items = true → hasVarsItems items = false
  | [], _ => rfl
  | item :: rest, h => by
    rw [isStaticItems, Bool.and_eq_true] at h
    rw [hasVarsItems, hasVars_of_isStatic item h.1, hasVarsItems_of_isStatic rest h.2]
    rfl

theorem hasVarsFields_of_isStatic :
    (fields : List (String × Ty)) → isStaticFields fields = true → hasVarsFields fields = false
  | [], _ => rfl
  | (_, field) :: rest, h => by
    rw [isStaticFields, Bool.and_eq_true] at h
    rw [hasVarsFields, hasVars_of_isStatic field h.1, hasVarsFields_of_isStatic rest h.2]
    rfl

end

/-- Every value of the first type is one of the second. -/
def Within (a b : Ty) : Prop := ∀ v : Value, v.HasType a → v.HasType b

lemma within_refl (a : Ty) : a.Within a := fun _ h => h

lemma within_trans {a b c : Ty} (hab : a.Within b) (hbc : b.Within c) : a.Within c :=
  fun v h => hbc v (hab v h)

/-- A step brings two types without variables together to a type with the values of both. -/
def Widens (step : Ty → Ty → Unify Ty) : Prop :=
  ∀ {a b c : Ty} {s s' : Bindings}, a.hasVars = false → b.hasVars = false → step a b s = .ok c s' →
    c.hasVars = false ∧ s'.types = s.types ∧ a.Within c ∧ b.Within c

section Widens

variable {step : Ty → Ty → Unify Ty} {s s' : Bindings}

lemma within_array {a b : Ty} (h : a.Within b) : (array a).Within (array b) := by
  intro v hv
  cases hv with
  | array hitems => exact .array fun item hitem => h item (hitems item hitem)

lemma within_map {k l a b : Ty} (h : a.Within b) : (map k a).Within (map l b) := by
  intro v hv
  cases hv with
  | map _ hentries => exact .map l fun entry hentry => h entry.2 (hentries entry hentry)

lemma within_tuple {xs zs : List Ty} (h : List.Forall₂ Within xs zs) :
    (tuple xs).Within (tuple zs) := by
  intro v hv
  cases hv with
  | tuple hlength hitems =>
    refine .tuple (hlength.trans h.length_eq) fun i v ty hv hty => ?_
    obtain ⟨hi, rfl⟩ := List.getElem?_eq_some_iff.1 hty
    have hx : i < xs.length := h.length_eq ▸ hi
    exact h.get hx hi v (hitems i v _ hv (List.getElem?_eq_getElem hx))

/-- The fields of two objects stand under the same names, those of the second with more values. -/
def WithinFields (xs zs : List (String × Ty)) : Prop :=
  List.Forall₂ (fun x z => x.1 = z.1 ∧ x.2.Within z.2) xs zs

lemma get?_of_withinFields {xs zs : List (String × Ty)} (h : WithinFields xs zs) {name : String}
    {z : Ty} (hz : Named.get? zs name = some z) :
    ∃ x, Named.get? xs name = some x ∧ x.Within z := by
  induction h with
  | nil => cases hz
  | @cons x z' xs zs hxz _ ih =>
    obtain ⟨key, x⟩ := x
    obtain ⟨key', z'⟩ := z'
    obtain ⟨rfl, hwithin⟩ := hxz
    by_cases hkey : key = name
    · simp only [Named.get?, hkey, if_true, Option.some.injEq] at hz ⊢
      subst hz
      exact ⟨x, rfl, hwithin⟩
    · simp only [Named.get?, hkey, if_false] at hz ⊢
      exact ih hz

lemma within_object {xs zs : List (String × Ty)} (h : WithinFields xs zs) :
    (object xs).Within (object zs) := by
  intro v hv
  cases hv with
  | object pick hpick hfields =>
    refine Value.Inhabits.object_iff.2 fun name z hz => ?_
    obtain ⟨x, hx, hwithin⟩ := get?_of_withinFields h hz
    exact ⟨pick name, hpick name x hx, hwithin _ (hfields name x hx)⟩

lemma unifyLists_widens (hstep : Widens step) {xs ys zs : List Ty}
    (hxs : ∀ x ∈ xs, x.hasVars = false) (hys : ∀ y ∈ ys, y.hasVars = false)
    (hlength : xs.length = ys.length) (h : unifyLists step xs ys s = .ok zs s') :
    (∀ z ∈ zs, z.hasVars = false) ∧ s'.types = s.types ∧ List.Forall₂ Within xs zs ∧
      List.Forall₂ Within ys zs := by
  induction xs generalizing ys zs s with
  | nil =>
    cases ys with
    | nil =>
      cases h
      exact ⟨fun _ hz => (List.not_mem_nil hz).elim, rfl, .nil, .nil⟩
    | cons y ys => cases hlength
  | cons x xs ih =>
    cases ys with
    | nil => cases hlength
    | cons y ys =>
      simp only [unifyLists, state_bind_eq_ok, state_pure_eq_ok] at h
      obtain ⟨z, t, hz, rest, t', hrest, rfl, rfl⟩ := h
      obtain ⟨hzvars, htypes, hxz, hyz⟩ :=
        hstep (hxs x List.mem_cons_self) (hys y List.mem_cons_self) hz
      obtain ⟨hrvars, hrtypes, hxr, hyr⟩ := ih (fun x hx => hxs x (List.mem_cons_of_mem _ hx))
        (fun y hy => hys y (List.mem_cons_of_mem _ hy)) (Nat.succ.inj hlength) hrest
      refine ⟨?_, hrtypes.trans htypes, .cons hxz hxr, .cons hyz hyr⟩
      intro w hw
      rcases List.mem_cons.1 hw with rfl | hw
      · exact hzvars
      · exact hrvars w hw

lemma measure_within (u v : String) : (measure u).Within (measure v) := by
  intro x hx
  cases hx with
  | measure _ h => exact .measure v h

lemma enum_within (xs ys : List String) : (enum xs).Within (enum ys) := by
  intro x hx
  cases hx with
  | enum _ h => exact .enum ys h

lemma string_within_enum (xs : List String) : string.Within (enum xs) := by
  intro x hx
  cases hx with
  | string h => exact .enum xs h

lemma string_within_entity (tag : String) : string.Within (entity tag) := by
  intro x hx
  cases hx with
  | string h => exact .entity tag h

/-- A type that is made more specific keeps its values. -/
lemma within_of_le {a b : Ty} (h : a ≤ b) : a.Within b := by
  induction h with
  | refl a => exact within_refl a
  | any | openObject | openTuple => exact nofun
  | measure unit => exact measure_within _ unit
  | stringEnum entries => exact string_within_enum entries
  | stringEntity tag => exact string_within_entity tag
  | enum _ _ => exact enum_within _ _
  | array _ ih => exact within_array ih
  | map _ _ _ ihvalue => exact within_map ihvalue
  | tuple hlength _ ih => exact within_tuple (List.forall₂_iff_get.2 ⟨hlength, ih⟩)
  | object hlength hnames _ ih =>
    exact within_object (List.forall₂_iff_get.2
      ⟨hlength, fun i hx hz => ⟨hnames i hx hz, ih i hx hz⟩⟩)

lemma within_withComponents {a b : Ty} {zs : List Ty} (h : Aligned a b)
    (hzs : List.Forall₂ Within b.components zs) : b.Within (a.withComponents zs) := by
  cases h with
  | array x y =>
    rcases hzs with _ | ⟨helem, ⟨⟩⟩
    exact within_array helem
  | map k v l w =>
    rcases hzs with _ | ⟨_, _ | ⟨hvalue, ⟨⟩⟩⟩
    exact within_map hvalue
  | tuple h => exact within_tuple hzs
  | object h => exact within_object (h ▸ forall₂_zip_names hzs)

/-- Two different shapes without variables. -/
lemma unifyShapes_widens (hstep : Widens step) : Widens (unifyShapes step) := by
  intro a b c s s' ha hb h
  cases unifyShapes_outcome h with
  | second hle hs => exact ⟨hb, hs, within_of_le hle, within_refl b⟩
  | first hle hs => exact ⟨ha, hs, within_refl a, within_of_le hle⟩
  | entries _ => exact ⟨rfl, rfl, enum_within _ _, enum_within _ _⟩
  | parts haligned hzs =>
    obtain ⟨hvars, htypes, hx, hy⟩ := unifyLists_widens hstep
      (fun _ => hasVars_of_mem_components ha) (fun _ => hasVars_of_mem_components hb)
      haligned.length_components hzs
    exact ⟨hasVars_withComponents ha hvars, htypes, within_withComponents haligned.left hx,
      within_withComponents haligned hy⟩

/-- Two types without variables are brought together to a type with the values of both, and nothing
is bound. -/
theorem unifyWith_widens (fuel : Nat) : Widens (unifyWith fuel) := by
  induction fuel with
  | zero =>
    intro a b c s s' _ _ h
    cases h
  | succ fuel ih =>
    intro a b c s s' ha hb h
    rw [unifyWith_shapes fuel (ne_var_of_hasVars ha) (ne_var_of_hasVars hb)] at h
    split at h
    · rename_i hab
      subst hab
      cases h
      exact ⟨ha, rfl, within_refl _, within_refl _⟩
    · exact unifyShapes_widens ih ha hb h

end Widens

/-- The types that parameters of builtins are built from. -/
def isFormal : Ty → Bool
  | boolean | string | number | entity _ | measure _ | enum _ | time | date | location | var _ => true
  | array elem => isFormal elem
  | map key value => isFormal key && isFormal value
  | any | openTuple | tuple _ | openObject | object _ | module => false

/-- The values of a bound variable. -/
def meaning (types : Named Ty) (name : String) (v : Value) : Prop :=
  ∃ ty, Named.get? types name = some ty ∧ v.HasType ty

/-- All variables are bound to types without variables. -/
def Closed (types : Named Ty) : Prop :=
  ∀ name ty, Named.get? types name = some ty → ty.hasVars = false

lemma closed_nil : Closed [] := by
  intro name ty h
  cases h

lemma closed_insert {types : Named Ty} (h : Closed types) (name : String) {ty : Ty}
    (hty : ty.hasVars = false) : Closed (Named.insert types name ty) :=
  BindsOnly.insert h name hty

/-- Bindings that come later, with at least the values of the earlier ones. -/
structure Extends (types types' : Named Ty) : Prop where
  closed : Closed types'
  grows : ∀ name v, meaning types name v → meaning types' name v

lemma extends_refl {types : Named Ty} (h : Closed types) : Extends types types :=
  ⟨h, fun _ _ h => h⟩

lemma extends_trans {t₁ t₂ t₃ : Named Ty} (h : Extends t₁ t₂) (h' : Extends t₂ t₃) :
    Extends t₁ t₃ :=
  ⟨h'.closed, fun name v hv => h'.grows name v (h.grows name v hv)⟩

/-- A step brings the type of a parameter together with the type of an argument, so that the
parameter has the values of the argument. -/
def Fits (step : Ty → Ty → Unify Ty) : Prop :=
  ∀ {formal arg c : Ty} {s s' : Bindings}, formal.isFormal = true → arg.hasVars = false →
    Closed s.types → step formal arg s = .ok c s' →
      Extends s.types s'.types ∧ ∀ v : Value, v.HasType arg → v.Inhabits (meaning s'.types) formal

section Fits

variable {step : Ty → Ty → Unify Ty} {s s' : Bindings}

lemma extends_insert {types : Named Ty} {name : String} {ty : Ty} (h : Closed types)
    (hty : ty.hasVars = false)
    (hbound : ∀ bound, Named.get? types name = some bound → bound.Within ty) :
    Extends types (Named.insert types name ty) := by
  refine ⟨closed_insert h name hty, ?_⟩
  rintro other v ⟨t, ht, hv⟩
  by_cases heq : other = name
  · subst heq
    exact ⟨ty, Named.get?_insert_self types other ty, hbound t ht v hv⟩
  · exact ⟨t, (Named.get?_insert_of_ne types ty heq).trans ht, hv⟩

/-- A variable that is bound takes on a type with the values of its type and of the argument; one
that is not bound takes on the type of the argument. -/
lemma unifyVar_fits (hstep : Widens step) {name : String} {arg c : Ty} (harg : arg.hasVars = false)
    (hs : Closed s.types) (h : unifyVar step name arg s = .ok c s') :
    Extends s.types s'.types ∧
      ∀ v : Value, v.HasType arg → v.Inhabits (meaning s'.types) (var name) := by
  simp only [unifyVar, lookup, state_bind_eq_ok, state_pure_eq_ok] at h
  obtain ⟨bound?, t, ⟨u, t', hget, rfl, rfl⟩, h⟩ := h
  cases hget
  cases hbound : Named.get? s.types name with
  | none =>
    simp only [hbound, state_bind_eq_ok, state_pure_eq_ok] at h
    obtain ⟨_, t, hassign, rfl, rfl⟩ := h
    cases hassign
    refine ⟨extends_insert hs harg fun bound hb => ?_, fun v hv => .var ⟨arg, ?_, hv⟩⟩
    · rw [hbound] at hb
      cases hb
    · exact Named.get?_insert_self _ _ _
  | some bound =>
    simp only [hbound, state_bind_eq_ok, state_pure_eq_ok] at h
    obtain ⟨unified, t, hunified, _, t', hassign, rfl, rfl⟩ := h
    cases hassign
    obtain ⟨hvars, htypes, hboundWithin, hargWithin⟩ := hstep (hs name bound hbound) harg hunified
    change Extends s.types (Named.insert t.types name unified) ∧ ∀ v : Value, v.HasType arg →
      v.Inhabits (meaning (Named.insert t.types name unified)) (var name)
    rw [htypes]
    refine ⟨extends_insert hs hvars fun b hb => ?_, fun v hv => .var ⟨unified, ?_, hargWithin v hv⟩⟩
    · rw [hbound] at hb
      cases hb
      exact hboundWithin
    · exact Named.get?_insert_self _ _ _

/-- A parameter has the values of the types that it can be made more specific to. -/
lemma within_of_formal_le {formal arg : Ty} (hformal : formal.isFormal = true) (h : formal ≤ arg) :
    arg.Within formal := by
  induction h with
  | refl a => exact within_refl a
  | any | openObject | openTuple | tuple | object => cases hformal
  | measure unit => exact measure_within unit _
  | stringEnum entries =>
    rintro v ⟨⟩
    exact .string ‹_›
  | stringEntity tag =>
    rintro v ⟨⟩
    exact .string ‹_›
  | enum _ _ => exact enum_within _ _
  | array _ ih => exact within_array (ih hformal)
  | map _ _ _ ihvalue =>
    rw [isFormal, Bool.and_eq_true] at hformal
    exact within_map (ihvalue hformal.2)

/-- A parameter and an argument of different shapes. -/
lemma unifyShapes_fits (hstep : Fits step) {formal arg c : Ty} (hformal : formal.isFormal = true)
    (harg : arg.hasVars = false) (hs : Closed s.types)
    (h : unifyShapes step formal arg s = .ok c s') :
    Extends s.types s'.types ∧
      ∀ v : Value, v.HasType arg → v.Inhabits (meaning s'.types) formal := by
  cases unifyShapes_outcome h with
  | second hle htypes =>
    rw [htypes]
    exact ⟨extends_refl hs, fun v hv => .of_hasType (within_of_formal_le hformal hle v hv)⟩
  | first hle htypes =>
    rw [htypes]
    exact ⟨extends_refl hs, fun v hv => .of_hasType (within_of_le hle v hv)⟩
  | entries _ => exact ⟨extends_refl hs, fun v hv => .of_hasType (enum_within _ _ v hv)⟩
  | parts haligned hzs =>
    cases haligned with
    | array x y =>
      simp only [components, unifyLists_one, state_bind_eq_ok, state_pure_eq_ok] at hzs
      obtain ⟨z, t, hz, -, rfl⟩ := hzs
      rw [isFormal] at hformal
      rw [hasVars] at harg
      obtain ⟨hext, hvalues⟩ := hstep hformal harg hs hz
      refine ⟨hext, fun v hv => ?_⟩
      cases hv with
      | array hitems => exact .array fun item hitem => hvalues item (hitems item hitem)
    | map k v l w =>
      simp only [components, unifyLists_two, state_bind_eq_ok, state_pure_eq_ok] at hzs
      obtain ⟨key, t, hkey, value, t', hvalue, -, rfl⟩ := hzs
      rw [isFormal, Bool.and_eq_true] at hformal
      rw [hasVars, Bool.or_eq_false_iff] at harg
      obtain ⟨hkext, -⟩ := hstep hformal.1 harg.1 hs hkey
      obtain ⟨hext, hvalues⟩ := hstep hformal.2 harg.2 hkext.closed hvalue
      refine ⟨extends_trans hkext hext, fun v hv => ?_⟩
      cases hv with
      | map _ hentries => exact .map _ fun entry hentry => hvalues entry.2 (hentries entry hentry)
    | tuple | object => cases hformal

/-- Bringing a parameter and an argument together binds the variables of the parameter so that it
has the values of the argument. -/
theorem unifyWith_fits (fuel : Nat) : Fits (unifyWith fuel) := by
  induction fuel with
  | zero =>
    intro formal arg c s s' _ _ _ h
    cases h
  | succ fuel ih =>
    intro formal arg c s s' hformal harg hs h
    by_cases hvar : ∃ name, formal = var name
    · obtain ⟨name, rfl⟩ := hvar
      rw [unifyWith_var fuel name (ne_var_of_hasVars harg)] at h
      exact unifyVar_fits (unifyWith_widens fuel) harg hs h
    · rw [unifyWith_shapes fuel (fun name heq => hvar ⟨name, heq⟩) (ne_var_of_hasVars harg)] at h
      split at h
      · rename_i heq
        cases h
        subst heq
        exact ⟨extends_refl hs, fun v hv => .of_hasType hv⟩
      · exact unifyShapes_fits ih hformal harg hs h

end Fits

lemma isStatic_of_mem {items : List Ty} (h : isStaticItems items = true) {item : Ty}
    (hitem : item ∈ items) : item.isStatic = true := by
  induction items with
  | nil => cases hitem
  | cons first rest ih =>
    rw [isStaticItems, Bool.and_eq_true] at h
    rcases List.mem_cons.1 hitem with rfl | hitem
    · exact h.1
    · exact ih h.2 hitem

lemma isStatic_of_mem_fields {fields : List (String × Ty)} (h : isStaticFields fields = true)
    {field : String × Ty} (hfield : field ∈ fields) : field.2.isStatic = true := by
  induction fields with
  | nil => cases hfield
  | cons first rest ih =>
    rw [isStaticFields, Bool.and_eq_true] at h
    rcases List.mem_cons.1 hfield with rfl | hfield
    · exact h.1
    · exact ih h.2 hfield

/-- Substitution leaves no variables. -/
lemma hasVars_resolveWith (types : Named Ty) (fuel : Nat) (ty : Ty) :
    (resolveWith types fuel ty).hasVars = false := by
  induction fuel generalizing ty with
  | zero => rfl
  | succ fuel ih =>
    cases ty with
    | var name =>
      rw [resolveWith]
      split
      · split
        · rfl
        · exact ih _
      · exact ih _
      · rfl
    | array elem => exact ih elem
    | map key value =>
      rw [resolveWith, hasVars, ih key, ih value]
      rfl
    | tuple items =>
      rw [resolveWith, hasVars, hasVarsItems_eq_false]
      intro item hitem
      obtain ⟨old, -, rfl⟩ := List.mem_map.1 hitem
      exact ih old
    | object fields =>
      rw [resolveWith, hasVars, hasVarsFields_eq_false]
      intro field hfield
      obtain ⟨old, -, rfl⟩ := List.mem_map.1 hfield
      exact ih old.2
    | _ => rfl

/-- A variable stands for what it is bound to. -/
lemma resolveWith_var {types : Named Ty} (fuel : Nat) {name : String} {bound : Ty}
    (hbound : Named.get? types name = some bound) (hne : bound ≠ var name) :
    resolveWith types (fuel + 1) (var name) = resolveWith types fuel bound := by
  rw [resolveWith, hbound]
  cases bound with
  | var other => exact if_neg fun heq => hne (congrArg var heq)
  | _ => rfl

/-- A value of a type with bound variables is one of the type that they are replaced in, provided
that the result is known throughout: where substitution stops, the result is not. -/
theorem hasType_resolveWith {types : Named Ty} (hclosed : Closed types) (fuel : Nat) {ty : Ty}
    {v : Value} (hstatic : (resolveWith types fuel ty).isStatic = true)
    (hv : v.Inhabits (meaning types) ty) : v.HasType (resolveWith types fuel ty) := by
  induction fuel generalizing ty v with
  | zero => cases hstatic
  | succ fuel ih =>
    cases hv with
    | boolean b => exact .boolean b
    | number h => exact .number h
    | measure unit h => exact .measure unit h
    | string h => exact .string h
    | entity tag h => exact .entity tag h
    | enum entries h => exact .enum entries h
    | date t => exact .date t
    | time hour minute => exact .time hour minute
    | location x y display => exact .location x y display
    | array h => exact .array fun item hitem => ih hstatic (h item hitem)
    | map key h =>
      rw [resolveWith, isStatic, Bool.and_eq_true] at hstatic
      exact .map _ fun entry hentry => ih hstatic.2 (h entry hentry)
    | tuple hlength h =>
      rw [resolveWith, isStatic] at hstatic
      rw [resolveWith]
      refine .tuple (by rw [List.length_map, hlength]) fun i w ty hw hty => ?_
      rw [List.getElem?_map, Option.map_eq_some_iff] at hty
      obtain ⟨item, hitem, rfl⟩ := hty
      have hmem := List.mem_map_of_mem (f := fun item => resolveWith types fuel item)
        (List.mem_of_getElem? hitem)
      exact ih (isStatic_of_mem hstatic hmem) (h i w item hw hitem)
    | object pick hpick h =>
      rw [resolveWith, isStatic] at hstatic
      rw [resolveWith]
      refine Value.Inhabits.object_iff.2 fun name ty hty => ?_
      have hmem := isStatic_of_mem_fields hstatic (Named.mem_of_get? hty)
      rw [Named.get?_map, Option.map_eq_some_iff] at hty
      obtain ⟨field, hfield, rfl⟩ := hty
      exact ⟨pick name, hpick name field hfield, ih hmem (h name field hfield)⟩
    | @var _ name h =>
      obtain ⟨bound, hbound, hv⟩ := h
      have heq := resolveWith_var fuel hbound (ne_var_of_hasVars (hclosed name bound hbound) name)
      rw [heq] at hstatic ⊢
      exact ih hstatic (.of_hasType hv)

end Ty

end ChannelRules
