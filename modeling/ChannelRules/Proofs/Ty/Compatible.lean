import ChannelRules.Proofs.Ty.Shape
import ChannelRules.Proofs.Ty.Symmetry

/-!
# Arguments stay compatible

Bringing a formal type together with the type of an argument binds the variables of the formal type.
What is bound later only makes bound types more specific, so the formal type stays compatible with
the argument, with its variables replaced by whatever they are bound to later.
-/

namespace ChannelRules

namespace Ty

/-- Two types can be brought together, whatever the bindings are. -/
def Compatible (a b : Ty) : Prop :=
  ∀ fuel, a.size + b.size < fuel → ∀ s, ∃ c s', unifyWith fuel a b s = .ok c s'

section Compatible

variable {a b : Ty}

lemma Compatible.unify (h : Compatible a b) (s : Bindings) : ∃ c s', Ty.unify a b s = .ok c s' := by
  have hbase : a.size + b.size < 2 * (a.size + b.size + boundSize s.types) + 3 := by omega
  exact h _ (lt_of_lt_of_le hbase (Nat.le_self_pow (by decide) _)) s

lemma compatible_of_le (ha : a.hasVars = false) (hb : b.hasVars = false) (h : a ≤ b) :
    Compatible a b := by
  intro fuel hfuel s
  have hsize : a.size < fuel := by omega
  obtain ⟨s', hs'⟩ := unifyWith_takes hsize ha hb h s
  exact ⟨b, s', hs'⟩

lemma compatible_of_ge (ha : a.hasVars = false) (hb : b.hasVars = false) (h : b ≤ a) :
    Compatible a b := by
  intro fuel hfuel s
  have hsize : b.size < fuel := by omega
  obtain ⟨s', hs'⟩ := unifyWith_takes hsize hb ha h s
  refine ⟨a, s', ?_⟩
  rw [unifyWith_symmetric fuel hb ha s, hs']
  rfl

lemma compatible_enum {xs ys zs : List String} (h : unifyEnums xs ys = some zs) :
    Compatible (enum xs) (enum ys) := by
  intro fuel hfuel s
  obtain ⟨fuel, rfl⟩ := Nat.exists_eq_succ_of_ne_zero (Nat.ne_zero_of_lt hfuel)
  rw [Nat.succ_eq_add_one, unifyWith_shapes fuel (ne_var_of_hasVars rfl) (ne_var_of_hasVars rfl)]
  split
  · exact ⟨_, s, rfl⟩
  · simp only [unifyShapes, h]
    exact ⟨_, s, rfl⟩

lemma unifyLists_ok {step : Ty → Ty → Unify Ty} {xs ys : List Ty}
    (h : List.Forall₂ (fun x y => ∀ s, ∃ c s', step x y s = .ok c s') xs ys) (s : Bindings) :
    ∃ zs s', unifyLists step xs ys s = .ok zs s' := by
  induction h generalizing s with
  | nil => exact ⟨[], s, rfl⟩
  | cons hxy _ ih =>
    obtain ⟨z, t, hfirst⟩ := hxy s
    obtain ⟨zs, t', hrest⟩ := ih t
    refine ⟨z :: zs, t', ?_⟩
    simp only [unifyLists, state_bind_eq_ok, state_pure_eq_ok]
    exact ⟨z, t, hfirst, zs, t', hrest, rfl, rfl⟩

lemma compatible_of_components (h : Aligned a b)
    (hparts : List.Forall₂ Compatible a.components b.components) : Compatible a b := by
  intro fuel hfuel s
  obtain ⟨fuel, rfl⟩ := Nat.exists_eq_succ_of_ne_zero (Nat.ne_zero_of_lt hfuel)
  rw [Nat.succ_eq_add_one, unifyWith_shapes fuel h.ne_var.1 h.ne_var.2]
  split
  · exact ⟨a, s, rfl⟩
  · rw [unifyShapes_aligned _ h]
    have hstep : List.Forall₂ (fun x y => ∀ s, ∃ c s', unifyWith fuel x y s = .ok c s')
        a.components b.components := by
      refine List.forall₂_iff_get.2 ⟨h.length_components, fun i hx hy => ?_⟩
      have hxsize := size_lt_of_mem_components (List.get_mem a.components ⟨i, hx⟩)
      have hysize := size_lt_of_mem_components (List.get_mem b.components ⟨i, hy⟩)
      exact hparts.get hx hy fuel (by omega)
    obtain ⟨zs, s', hzs⟩ := unifyLists_ok hstep s
    refine ⟨a.withComponents zs, s', ?_⟩
    simp only [state_bind_eq_ok, state_pure_eq_ok]
    exact ⟨zs, s', hzs, rfl, rfl⟩

end Compatible

section Resolve

variable {types : Named Ty}

lemma resolveWith_le (types : Named Ty) (depth : Nat) {ty : Ty} (hty : ty.hasVars = false) :
    resolveWith types depth ty ≤ ty := by
  induction depth generalizing ty with
  | zero => exact Le.any ty
  | succ depth ih =>
    cases ty with
    | var name => cases hty
    | array elem => exact Le.array (ih hty)
    | map key value =>
      rw [hasVars, Bool.or_eq_false_iff] at hty
      exact Le.map (ih hty.1) (ih hty.2)
    | tuple items =>
      rw [hasVars, hasVarsItems_eq_false] at hty
      refine tuple_le_iff.2 ⟨items, rfl, ?_⟩
      exact List.forall₂_map_left_iff.2 (List.forall₂_same.2 fun item hitem => ih (hty item hitem))
    | object fields =>
      rw [hasVars, hasVarsFields_eq_false] at hty
      refine object_le_iff.2 ⟨fields, rfl, ?_⟩
      exact List.forall₂_map_left_iff.2
        (List.forall₂_same.2 fun field hfield => ⟨rfl, ih (hty field hfield)⟩)
    | _ => exact Le.refl _

lemma components_resolveWith (types : Named Ty) (depth : Nat) {a b : Ty} (h : Aligned a b) :
    Aligned (resolveWith types (depth + 1) a) b ∧
      (resolveWith types (depth + 1) a).components = a.components.map (resolveWith types depth) := by
  cases h with
  | array x y => exact ⟨.array _ _, rfl⟩
  | map k v l w => exact ⟨.map _ _ _ _, rfl⟩
  | tuple h => exact ⟨.tuple (by rw [List.length_map, h]), rfl⟩
  | object h => exact ⟨.object (by simpa [Named.names, Function.comp_def] using h),
      by simp [resolveWith, components, Function.comp_def]⟩

lemma compatible_resolveWith_components (depth : Nat) {a b : Ty} (h : Aligned a b)
    (hparts : List.Forall₂ (fun x y => Compatible (resolveWith types depth x) y)
      a.components b.components) :
    Compatible (resolveWith types (depth + 1) a) b := by
  obtain ⟨haligned, hresolved⟩ := components_resolveWith types depth h
  refine compatible_of_components haligned ?_
  rw [hresolved]
  exact List.forall₂_map_left_iff.2 hparts

/-- What a type stands for can be brought together with every type below it, also where substitution
stops before the end. -/
lemma compatible_resolveWith (depth : Nat) {a b : Ty} (ha : a.hasVars = false) (h : a ≤ b) :
    Compatible (resolveWith types depth b) a := by
  induction depth generalizing a b with
  | zero => exact compatible_of_le rfl ha (Le.any a)
  | succ depth ih =>
    by_cases haligned : Aligned a b
    · have hle := List.forall₂_iff_get.1 (haligned.components_le h)
      refine compatible_resolveWith_components depth haligned.symm ?_
      exact List.forall₂_iff_get.2 ⟨hle.1.symm, fun i hy hx =>
        ih (hasVars_of_mem_components ha (List.get_mem _ _)) (hle.2 i hx hy)⟩
    cases h with
    | refl => exact compatible_of_le (hasVars_resolveWith _ _ _) ha (resolveWith_le _ _ ha)
    | any => exact compatible_of_ge (hasVars_resolveWith _ _ _) rfl (Le.any _)
    | measure unit => exact compatible_of_ge rfl rfl (Le.measure unit)
    | openObject fields => exact compatible_of_ge (hasVars_resolveWith _ _ _) rfl (Le.openObject _)
    | openTuple items => exact compatible_of_ge (hasVars_resolveWith _ _ _) rfl (Le.openTuple _)
    | stringEnum entries => exact compatible_of_ge rfl rfl (Le.stringEnum entries)
    | stringEntity tag => exact compatible_of_ge rfl rfl (Le.stringEntity tag)
    | enum hsub hsame => exact compatible_of_ge rfl rfl (Le.enum hsub hsame)
    | array _ => exact absurd (.array _ _) haligned
    | map _ _ => exact absurd (.map _ _ _ _) haligned
    | tuple hlength _ => exact absurd (.tuple hlength) haligned
    | object hlength hnames h =>
      obtain ⟨_, ⟨⟩, hfields⟩ := object_le_iff.1 (Le.object hlength hnames h)
      exact absurd (.object (names_of_fieldLe hfields)) haligned

end Resolve

/-- Bindings that come later: what was bound before is still bound, and has become more specific. -/
def Grows (types later : Named Ty) : Prop :=
  ∀ name a, Named.get? types name = some a → ∃ b, Named.get? later name = some b ∧ a ≤ b

lemma grows_refl (types : Named Ty) : Grows types types := fun _ a h => ⟨a, h, le_refl a⟩

lemma Grows.trans {t₁ t₂ t₃ : Named Ty} (h : Grows t₁ t₂) (h' : Grows t₂ t₃) : Grows t₁ t₃ := by
  intro name a ha
  obtain ⟨b, hb, hab⟩ := h name a ha
  obtain ⟨c, hc, hbc⟩ := h' name b hb
  exact ⟨c, hc, le_trans hab hbc⟩

lemma grows_insert {types : Named Ty} {name : String} {ty : Ty}
    (h : ∀ a, Named.get? types name = some a → a ≤ ty) :
    Grows types (Named.insert types name ty) := by
  intro other a ha
  by_cases hother : other = name
  · subst hother
    exact ⟨ty, Named.get?_insert_self _ _ _, h a ha⟩
  · exact ⟨a, (Named.get?_insert_of_ne types ty hother).trans ha, le_refl a⟩

/-- With these bindings and all that come later, what a formal type stands for can be brought
together with an argument. -/
def Settled (types : Named Ty) (formal arg : Ty) : Prop :=
  ∀ later, Closed later → Grows types later → ∀ depth,
    Compatible (resolveWith later depth formal) arg

lemma Settled.mono {types later : Named Ty} {formal arg : Ty} (h : Settled types formal arg)
    (hgrows : Grows types later) : Settled later formal arg :=
  fun last hclosed hlast => h last hclosed (hgrows.trans hlast)

lemma settled_of_ge {types : Named Ty} {formal arg : Ty} (harg : arg.hasVars = false)
    (h : arg ≤ formal) : Settled types formal arg :=
  fun _ _ _ depth => compatible_resolveWith depth harg h

lemma hasVars_of_le {a b : Ty} (h : a ≤ b) (hb : b.hasVars = false) : a.hasVars = false := by
  induction h with
  | refl => exact hb
  | array _ ih => exact ih hb
  | map _ _ ihkey ihvalue =>
    rw [hasVars, Bool.or_eq_false_iff] at hb ⊢
    exact ⟨ihkey hb.1, ihvalue hb.2⟩
  | @tuple xs ys hlength _ ih =>
    rw [hasVars, hasVarsItems_eq_false] at hb ⊢
    intro x hx
    obtain ⟨⟨i, hi⟩, rfl⟩ := List.mem_iff_get.1 hx
    have hy : i < ys.length := hlength ▸ hi
    exact ih i hi hy (hb _ (List.get_mem ys ⟨i, hy⟩))
  | @object xs ys hlength _ _ ih =>
    rw [hasVars, hasVarsFields_eq_false] at hb ⊢
    intro x hx
    obtain ⟨⟨i, hi⟩, rfl⟩ := List.mem_iff_get.1 hx
    have hy : i < ys.length := hlength ▸ hi
    exact ih i hi hy (hb _ (List.get_mem ys ⟨i, hy⟩))
  | _ => rfl

lemma settled_of_le {types : Named Ty} {formal arg : Ty} (harg : arg.hasVars = false)
    (h : formal ≤ arg) : Settled types formal arg := by
  intro later _ _ depth
  have hformal := resolveWith_le later depth (hasVars_of_le h harg)
  exact compatible_of_le (hasVars_resolveWith _ _ _) harg (le_trans hformal h)

lemma settled_enum {types : Named Ty} {xs ys zs : List String} (h : unifyEnums xs ys = some zs) :
    Settled types (enum xs) (enum ys) := by
  intro later _ _ depth
  cases depth with
  | zero => exact compatible_of_le rfl rfl (Le.any _)
  | succ depth => exact compatible_enum h

/-- A variable is settled with every type below the one that it is bound to. -/
lemma settled_var {types : Named Ty} {name : String} {bound arg : Ty} (harg : arg.hasVars = false)
    (hbound : Named.get? types name = some bound) (h : arg ≤ bound) :
    Settled types (var name) arg := by
  intro later hclosed hgrows depth
  obtain ⟨ty, hty, hle⟩ := hgrows name bound hbound
  cases depth with
  | zero => exact compatible_of_le rfl harg (Le.any _)
  | succ depth =>
    rw [resolveWith_var depth hty (ne_var_of_hasVars (hclosed name ty hty) name)]
    exact compatible_resolveWith depth harg (le_trans h hle)

lemma settled_components {types : Named Ty} {formal arg : Ty} (harg : arg.hasVars = false)
    (h : Aligned formal arg)
    (hparts : List.Forall₂ (Settled types) formal.components arg.components) :
    Settled types formal arg := by
  intro later hclosed hgrows depth
  cases depth with
  | zero => exact compatible_of_le rfl harg (Le.any _)
  | succ depth =>
    exact compatible_resolveWith_components depth h
      (hparts.imp fun _ _ hpart => hpart later hclosed hgrows depth)

/-- A step settles a formal type with an argument for all later bindings. -/
def Settles (step : Ty → Ty → Unify Ty) : Prop :=
  ∀ {formal arg c : Ty} {s s' : Bindings}, arg.hasVars = false → Closed s.types →
    step formal arg s = .ok c s' →
      Closed s'.types ∧ Grows s.types s'.types ∧ Settled s'.types formal arg

section Settles

variable {step : Ty → Ty → Unify Ty} {s s' : Bindings}

lemma unifyLists_settles (hstep : Settles step) {formals args types : List Ty}
    (hargs : ∀ arg ∈ args, arg.hasVars = false) (hlength : formals.length = args.length)
    (hs : Closed s.types) (h : unifyLists step formals args s = .ok types s') :
    Closed s'.types ∧ Grows s.types s'.types ∧
      List.Forall₂ (Settled s'.types) formals args := by
  induction formals generalizing args types s with
  | nil =>
    cases args with
    | nil =>
      cases h
      exact ⟨hs, grows_refl _, .nil⟩
    | cons arg args => cases hlength
  | cons formal formals ih =>
    cases args with
    | nil => cases hlength
    | cons arg args =>
      rw [List.forall_mem_cons] at hargs
      simp only [unifyLists, state_bind_eq_ok, state_pure_eq_ok] at h
      obtain ⟨ty, t, hty, rest, t', hrest, -, rfl⟩ := h
      obtain ⟨hclosed, hgrows, hsettled⟩ := hstep hargs.1 hs hty
      obtain ⟨hclosed', hgrows', hrestSettled⟩ := ih hargs.2 (Nat.succ.inj hlength) hclosed hrest
      exact ⟨hclosed', hgrows.trans hgrows', .cons (hsettled.mono hgrows') hrestSettled⟩

lemma unifyVar_settles (fuel : Nat) {name : String} {arg c : Ty} (harg : arg.hasVars = false)
    (hs : Closed s.types) (h : unifyVar (unifyWith fuel) name arg s = .ok c s') :
    Closed s'.types ∧ Grows s.types s'.types ∧ Settled s'.types (var name) arg := by
  simp only [unifyVar, lookup, state_bind_eq_ok, state_pure_eq_ok] at h
  obtain ⟨found, t, ⟨u, t', hget, rfl, rfl⟩, h⟩ := h
  cases hget
  cases hbound : Named.get? s.types name with
  | none =>
    simp only [hbound, state_bind_eq_ok, state_pure_eq_ok] at h
    obtain ⟨_, t, hassign, rfl, rfl⟩ := h
    cases hassign
    refine ⟨closed_insert hs name harg, grows_insert fun a ha => ?_,
      settled_var harg (Named.get?_insert_self _ _ _) (le_refl arg)⟩
    rw [hbound] at ha
    cases ha
  | some bound =>
    simp only [hbound, state_bind_eq_ok, state_pure_eq_ok] at h
    obtain ⟨unified, t, hunified, _, t', hassign, rfl, rfl⟩ := h
    cases hassign
    have hvars := hs name bound hbound
    obtain ⟨hunifiedVars, htypes, -, -⟩ := unifyWith_widens fuel hvars harg hunified
    obtain ⟨hboundLe, hargLe, -⟩ := isLUB_pair_iff.1 (unifyWith_joins fuel hvars harg hunified)
    have hget : Named.get? (Named.insert t.types name unified) name = some unified :=
      Named.get?_insert_self _ _ _
    refine ⟨?_, ?_, settled_var harg hget hargLe⟩
    · exact closed_insert (htypes ▸ hs) name hunifiedVars
    · change Grows s.types (Named.insert t.types name unified)
      rw [htypes]
      refine grows_insert fun a ha => ?_
      rw [hbound] at ha
      cases ha
      exact hboundLe

/-- Bringing a formal type together with an argument settles the two. -/
theorem unifyWith_settles (fuel : Nat) : Settles (unifyWith fuel) := by
  induction fuel with
  | zero =>
    intro formal arg c s s' _ _ h
    cases h
  | succ fuel ih =>
    intro formal arg c s s' harg hs h
    have hargVar := ne_var_of_hasVars harg
    by_cases hvar : ∃ name, formal = var name
    · obtain ⟨name, rfl⟩ := hvar
      rw [unifyWith_var fuel name hargVar] at h
      exact unifyVar_settles fuel harg hs h
    rw [unifyWith_shapes fuel (fun name heq => hvar ⟨name, heq⟩) hargVar] at h
    split at h
    · rename_i heq
      cases h
      exact ⟨hs, grows_refl _, settled_of_ge harg (le_of_eq heq.symm)⟩
    cases unifyShapes_outcome h with
    | second hle htypes =>
      rw [htypes]
      exact ⟨hs, grows_refl _, settled_of_le harg hle⟩
    | first hle htypes =>
      rw [htypes]
      exact ⟨hs, grows_refl _, settled_of_ge harg hle⟩
    | entries hentries => exact ⟨hs, grows_refl _, settled_enum hentries⟩
    | parts haligned hzs =>
      obtain ⟨hclosed, hgrows, hparts⟩ := unifyLists_settles ih
        (fun _ => hasVars_of_mem_components harg) haligned.length_components hs hzs
      exact ⟨hclosed, hgrows, settled_components harg haligned hparts⟩

end Settles

end Ty

end ChannelRules
