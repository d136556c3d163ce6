import ChannelRules.Proofs.Sequence
import ChannelRules.Proofs.Ty.Le
import ChannelRules.Ty.Unify

/-!
# One level of unification

Two different types of the same composite form are brought together part by part. What becomes of
any other two types that are no variables can be seen without looking inside them. Proofs about
unification go by these two cases, with lists of parts in place of the composite forms.
-/

namespace ChannelRules

namespace Ty

lemma hasVarsItems_eq_false {items : List Ty} :
    hasVarsItems items = false ↔ ∀ item ∈ items, item.hasVars = false := by
  induction items with
  | nil => simp [hasVarsItems]
  | cons item rest ih => simp [hasVarsItems, ih]

lemma hasVarsFields_eq_false {fields : List (String × Ty)} :
    hasVarsFields fields = false ↔ ∀ field ∈ fields, field.2.hasVars = false := by
  induction fields with
  | nil => simp [hasVarsFields]
  | cons field rest ih => simp [hasVarsFields, ih]

lemma ne_var_of_hasVars {ty : Ty} (h : ty.hasVars = false) (name : String) : ty ≠ var name := by
  rintro rfl
  cases h

lemma size_lt_sizeItems {items : List Ty} {item : Ty} (h : item ∈ items) :
    item.size < sizeItems items := by
  induction items with
  | nil => cases h
  | cons first rest ih =>
    rw [sizeItems]
    rcases List.mem_cons.1 h with rfl | h
    · omega
    · have := ih h
      omega

lemma size_lt_sizeFields {fields : List (String × Ty)} {field : String × Ty} (h : field ∈ fields) :
    field.2.size < sizeFields fields := by
  induction fields with
  | nil => cases h
  | cons first rest ih =>
    rw [sizeFields]
    rcases List.mem_cons.1 h with rfl | h
    · omega
    · have := ih h
      omega

/-- The types directly inside a type. -/
def components : Ty → List Ty
  | array elem => [elem]
  | map key value => [key, value]
  | tuple items => items
  | object fields => fields.map Prod.snd
  | _ => []

/-- A type of the same form with other parts. -/
def withComponents : Ty → List Ty → Ty
  | array _, [elem] => array elem
  | map _ _, [key, value] => map key value
  | tuple _, items => tuple items
  | object fields, items => object ((Named.names fields).zip items)
  | ty, _ => ty

/-- Two types of one composite form, with as many parts. -/
inductive Aligned : Ty → Ty → Prop
  | array (x y : Ty) : Aligned (array x) (array y)
  | map (k v l w : Ty) : Aligned (map k v) (map l w)
  | tuple {xs ys : List Ty} (h : xs.length = ys.length) : Aligned (tuple xs) (tuple ys)
  | object {xs ys : List (String × Ty)} (h : Named.names xs = Named.names ys) :
    Aligned (object xs) (object ys)

section Aligned

variable {a b d : Ty}

lemma Aligned.symm (h : Aligned a b) : Aligned b a := by
  cases h with
  | array x y => exact .array y x
  | map k v l w => exact .map l w k v
  | tuple h => exact .tuple h.symm
  | object h => exact .object h.symm

lemma Aligned.left (h : Aligned a b) : Aligned a a := by
  cases h with
  | array x y => exact .array x x
  | map k v l w => exact .map k v k v
  | tuple h => exact .tuple rfl
  | object h => exact .object rfl

lemma Aligned.ne_var (h : Aligned a b) : (∀ name, a ≠ var name) ∧ ∀ name, b ≠ var name := by
  cases h <;> exact ⟨nofun, nofun⟩

lemma Aligned.length_components (h : Aligned a b) : a.components.length = b.components.length := by
  cases h with
  | array x y => rfl
  | map k v l w => rfl
  | tuple h => exact h
  | object h => simpa [components, Named.names] using congrArg List.length h

lemma Aligned.components_withComponents (h : Aligned a b) {items : List Ty}
    (hlength : items.length = a.components.length) : (a.withComponents items).components = items := by
  cases h with
  | array x y =>
    obtain ⟨item, rfl⟩ := List.length_eq_one_iff.1 hlength
    rfl
  | map k v l w =>
    obtain ⟨key, value, rfl⟩ := List.length_eq_two.1 hlength
    rfl
  | tuple h => rfl
  | object h =>
    refine List.map_snd_zip (le_of_eq ?_)
    simpa [components, Named.names] using hlength

lemma Aligned.withComponents {items : List Ty} (h : Aligned a b)
    (hlength : items.length = a.components.length) : Aligned a (a.withComponents items) := by
  cases h with
  | array x y =>
    obtain ⟨item, rfl⟩ := List.length_eq_one_iff.1 hlength
    exact .array x item
  | map k v l w =>
    obtain ⟨key, value, rfl⟩ := List.length_eq_two.1 hlength
    exact .map k v key value
  | tuple h => exact .tuple hlength.symm
  | object h =>
    refine .object (List.map_fst_zip (le_of_eq ?_)).symm
    simpa [components, Named.names] using hlength.symm

/-- Fields whose types are related one by one to other types are related to the fields of the same
names with these types. -/
lemma forall₂_zip_names {R : Ty → Ty → Prop} {fields : List (String × Ty)} {items : List Ty}
    (h : List.Forall₂ R (fields.map Prod.snd) items) :
    List.Forall₂ (fun x z => x.1 = z.1 ∧ R x.2 z.2) fields ((Named.names fields).zip items) := by
  induction fields generalizing items with
  | nil =>
    cases h
    exact .nil
  | cons field rest ih =>
    cases h with
    | cons hitem hrest => exact .cons ⟨rfl, hitem⟩ (ih hrest)

/-- What is above a composite type has the same form, with parts above the parts. -/
lemma Aligned.le_iff (h : Aligned a b) :
    b ≤ d ↔ ∃ items, d = a.withComponents items ∧ List.Forall₂ (· ≤ ·) b.components items := by
  cases h with
  | array x y =>
    rw [array_le_iff]
    constructor
    · rintro ⟨e, rfl, h⟩
      exact ⟨[e], rfl, .cons h .nil⟩
    · rintro ⟨_, rfl, _ | ⟨h, ⟨⟩⟩⟩
      exact ⟨_, rfl, h⟩
  | map k v l w =>
    rw [map_le_iff]
    constructor
    · rintro ⟨key, value, rfl, hkey, hvalue⟩
      exact ⟨[key, value], rfl, .cons hkey (.cons hvalue .nil)⟩
    · rintro ⟨_, rfl, _ | ⟨hkey, _ | ⟨hvalue, ⟨⟩⟩⟩⟩
      exact ⟨_, _, rfl, hkey, hvalue⟩
  | tuple h => exact tuple_le_iff
  | @object xs ys h =>
    rw [object_le_iff]
    constructor
    · rintro ⟨zs, rfl, hzs⟩
      have htypes : List.Forall₂ (· ≤ ·) (ys.map Prod.snd) (zs.map Prod.snd) :=
        List.forall₂_map_left_iff.2 (List.forall₂_map_right_iff.2 (hzs.imp fun _ _ h => h.2))
      have hfields := List.zip_of_prod (h.trans (names_of_fieldLe hzs)).symm rfl
      exact ⟨zs.map Prod.snd, congrArg Ty.object hfields, htypes⟩
    · rintro ⟨items, rfl, hitems⟩
      exact ⟨_, rfl, h ▸ forall₂_zip_names hitems⟩

lemma Aligned.components_le (h : Aligned a b) (hle : a ≤ b) :
    List.Forall₂ (· ≤ ·) a.components b.components := by
  obtain ⟨items, rfl, hitems⟩ := h.left.le_iff.1 hle
  rwa [h.components_withComponents hitems.length_eq.symm]

end Aligned

lemma size_lt_of_mem_components {part ty : Ty} (h : part ∈ ty.components) :
    part.size < ty.size := by
  cases ty with
  | array elem =>
    cases List.mem_singleton.1 h
    rw [size]
    omega
  | map key value =>
    rw [size]
    rcases List.mem_cons.1 h with rfl | h
    · omega
    · cases List.mem_singleton.1 h
      omega
  | tuple items =>
    have hsize : part.size < sizeItems items := size_lt_sizeItems h
    rw [size]
    omega
  | object fields =>
    obtain ⟨field, hfield, rfl⟩ := List.mem_map.1 h
    have hsize := size_lt_sizeFields hfield
    rw [size]
    omega
  | _ => cases h

lemma hasVars_of_mem_components {part ty : Ty} (hty : ty.hasVars = false)
    (h : part ∈ ty.components) : part.hasVars = false := by
  cases ty with
  | array elem =>
    cases List.mem_singleton.1 h
    exact hty
  | map key value =>
    rw [hasVars, Bool.or_eq_false_iff] at hty
    rcases List.mem_cons.1 h with rfl | h
    · exact hty.1
    · cases List.mem_singleton.1 h
      exact hty.2
  | tuple items => exact hasVarsItems_eq_false.1 hty part h
  | object fields =>
    obtain ⟨field, hfield, rfl⟩ := List.mem_map.1 h
    exact hasVarsFields_eq_false.1 hty field hfield
  | _ => cases h

lemma hasVars_withComponents {ty : Ty} {items : List Ty} (hty : ty.hasVars = false)
    (hitems : ∀ item ∈ items, item.hasVars = false) : (ty.withComponents items).hasVars = false := by
  unfold withComponents
  split
  · rw [hasVars]
    exact hitems _ List.mem_cons_self
  · rw [hasVars, Bool.or_eq_false_iff]
    exact ⟨hitems _ List.mem_cons_self, hitems _ (List.mem_cons_of_mem _ List.mem_cons_self)⟩
  · exact hasVarsItems_eq_false.2 hitems
  · exact hasVarsFields_eq_false.2 fun field hfield => hitems _ (List.of_mem_zip hfield).2
  · exact hty

lemma mem_components_withComponents {part ty : Ty} {items : List Ty}
    (h : part ∈ (ty.withComponents items).components) : part ∈ items ∨ part ∈ ty.components := by
  unfold withComponents at h
  split at h
  · exact .inl h
  · exact .inl h
  · exact .inl h
  · obtain ⟨field, hfield, rfl⟩ := List.mem_map.1 h
    exact .inl (List.of_mem_zip hfield).2
  · exact .inr h

lemma eq_var_of_withComponents {ty : Ty} {items : List Ty} {name : String}
    (h : ty.withComponents items = var name) : ty = var name := by
  unfold withComponents at h
  split at h
  · cases h
  · cases h
  · cases h
  · cases h
  · exact h

/-- What becomes of two types that are not looked into: one of them is above the other, two lists of
entries agree, or the types are apart. -/
inductive Direct : Ty → Ty → Unify Ty → Prop
  | second {a b : Ty} (h : a ≤ b) : Direct a b (pure b)
  | first {a b : Ty} (h : b ≤ a) : Direct a b (pure a)
  | secondNoted {a b : Ty} (h : a ≤ b) : Direct a b (deprecatedString b)
  | firstNoted {a b : Ty} (h : b ≤ a) : Direct a b (deprecatedString a)
  | entries {xs ys zs : List String} (h : unifyEnums xs ys = some zs) :
    Direct (enum xs) (enum ys) (pure (enum zs))
  | apart (a b : Ty) : Direct a b (throw (.cannotUnify a b))

lemma unifyLists_one (step : Ty → Ty → Unify Ty) (x y : Ty) :
    unifyLists step [x] [y] = do return [← step x y] := by
  simp [unifyLists]

lemma unifyLists_two (step : Ty → Ty → Unify Ty) (k v l w : Ty) :
    unifyLists step [k, v] [l, w] = do
      let key ← step k l
      let value ← step v w
      return [key, value] := by
  simp [unifyLists]

lemma unifyFields_eq (step : Ty → Ty → Unify Ty) (xs ys : List (String × Ty)) :
    unifyFields step xs ys = do
      let zs ← unifyLists step (xs.map Prod.snd) (ys.map Prod.snd)
      return (Named.names xs).zip zs := by
  induction xs generalizing ys with
  | nil => simp [unifyFields, unifyLists]
  | cons x xs ih =>
    cases ys with
    | nil => simp [unifyFields, unifyLists]
    | cons y ys => simp [unifyFields, unifyLists, ih, Named.names]

lemma unifyShapes_aligned (step : Ty → Ty → Unify Ty) {a b : Ty} (h : Aligned a b) :
    unifyShapes step a b = do
      let zs ← unifyLists step a.components b.components
      return a.withComponents zs := by
  cases h with
  | array x y => simp [unifyShapes, components, withComponents, unifyLists_one]
  | map k v l w => simp [unifyShapes, components, withComponents, unifyLists_two]
  | tuple h => simp [unifyShapes, components, withComponents, h]
  | object h => simp [unifyShapes, components, withComponents, h, unifyFields_eq]

lemma unifyShapes_aligned_symm (step : Ty → Ty → Unify Ty) {a b : Ty} (h : Aligned a b) :
    unifyShapes step b a = do
      let zs ← unifyLists step b.components a.components
      return a.withComponents zs := by
  rw [unifyShapes_aligned step h.symm]
  cases h with
  | array x y => simp [components, withComponents, unifyLists_one]
  | map k v l w => simp [components, withComponents, unifyLists_two]
  | tuple h => rfl
  | object h => simp only [withComponents, h]

/-- Two types that are no variables are brought together by their parts, or without looking at the
parts. -/
theorem unifyShapes_cases (a b : Ty) :
    (∃ result, Direct a b result ∧ ∀ step, unifyShapes step a b = result) ∨
      Aligned a b := by
  by_cases hany : a = any
  · subst hany
    exact .inl ⟨_, .second (Le.any b), fun _ => rfl⟩
  by_cases hany' : b = any
  · subst hany'
    refine .inl ⟨_, .first (Le.any a), fun step => ?_⟩
    cases a <;> rfl
  cases a <;> cases b <;>
    try first | exact .inl ⟨_, .apart _ _, fun _ => rfl⟩ | contradiction
  case measure.measure u v =>
    left
    by_cases hu : u = ""
    · subst hu
      exact ⟨_, .second (Le.measure v), fun _ => rfl⟩
    by_cases hv : v = ""
    · subst hv
      exact ⟨_, .first (Le.measure u), fun _ => by simp only [unifyShapes, if_neg hu, if_pos]⟩
    · exact ⟨_, .apart _ _, fun _ => by simp only [unifyShapes, if_neg hu, if_neg hv]⟩
  case enum.enum xs ys =>
    left
    cases hentries : unifyEnums xs ys with
    | none => exact ⟨_, .apart _ _, fun _ => by simp only [unifyShapes, hentries]⟩
    | some zs => exact ⟨_, .entries hentries, fun _ => by simp only [unifyShapes, hentries]⟩
  case string.enum entries => exact .inl ⟨_, .secondNoted (Le.stringEnum entries), fun _ => rfl⟩
  case enum.string entries => exact .inl ⟨_, .firstNoted (Le.stringEnum entries), fun _ => rfl⟩
  case string.entity tag => exact .inl ⟨_, .secondNoted (Le.stringEntity tag), fun _ => rfl⟩
  case entity.string tag => exact .inl ⟨_, .firstNoted (Le.stringEntity tag), fun _ => rfl⟩
  case openTuple.tuple items => exact .inl ⟨_, .second (Le.openTuple items), fun _ => rfl⟩
  case tuple.openTuple items => exact .inl ⟨_, .first (Le.openTuple items), fun _ => rfl⟩
  case openObject.object fields => exact .inl ⟨_, .second (Le.openObject fields), fun _ => rfl⟩
  case object.openObject fields => exact .inl ⟨_, .first (Le.openObject fields), fun _ => rfl⟩
  case array.array x y => exact .inr (.array x y)
  case map.map k v l w => exact .inr (.map k v l w)
  case tuple.tuple xs ys =>
    by_cases h : xs.length = ys.length
    · exact .inr (.tuple h)
    · exact .inl ⟨_, .apart _ _, fun step => by simp only [unifyShapes, if_neg h]⟩
  case object.object xs ys =>
    by_cases h : Named.names xs = Named.names ys
    · exact .inr (.object h)
    · exact .inl ⟨_, .apart _ _, fun step => by simp only [unifyShapes, if_neg h]⟩

/-- What two different types that are no variables are brought together to: one of them, which is above
the other, the entries of both, or a type of the same form. -/
inductive Outcome (step : Ty → Ty → Unify Ty) (s : Bindings) : Ty → Ty → Ty → Bindings → Prop
  | second {a b : Ty} {s' : Bindings} (h : a ≤ b) (hs : s'.types = s.types) : Outcome step s a b b s'
  | first {a b : Ty} {s' : Bindings} (h : b ≤ a) (hs : s'.types = s.types) : Outcome step s a b a s'
  | entries {xs ys zs : List String} (h : unifyEnums xs ys = some zs) :
    Outcome step s (enum xs) (enum ys) (enum zs) s
  | parts {a b : Ty} {zs : List Ty} {s' : Bindings} (h : Aligned a b)
    (hzs : unifyLists step a.components b.components s = .ok zs s') :
    Outcome step s a b (a.withComponents zs) s'

theorem unifyShapes_outcome {step : Ty → Ty → Unify Ty} {a b c : Ty} {s s' : Bindings}
    (h : unifyShapes step a b s = .ok c s') : Outcome step s a b c s' := by
  rcases unifyShapes_cases a b with ⟨result, hdirect, hresult⟩ | haligned
  · rw [hresult] at h
    cases hdirect with
    | second hle | secondNoted hle =>
      cases h
      exact .second hle rfl
    | first hle | firstNoted hle =>
      cases h
      exact .first hle rfl
    | entries hentries =>
      cases h
      exact .entries hentries
    | apart => cases h
  · rw [unifyShapes_aligned _ haligned] at h
    simp only [state_bind_eq_ok, state_pure_eq_ok] at h
    obtain ⟨zs, t, hzs, rfl, rfl⟩ := h
    exact .parts haligned hzs

/-- Which of two types are variables. -/
inductive Sides : Ty → Ty → Prop
  | vars (x y : String) : Sides (var x) (var y)
  | left (name : String) {other : Ty} (h : ∀ name, other ≠ var name) : Sides (var name) other
  | right {other : Ty} (name : String) (h : ∀ name, other ≠ var name) : Sides other (var name)
  | shapes {a b : Ty} (ha : ∀ name, a ≠ var name) (hb : ∀ name, b ≠ var name) : Sides a b

lemma sides (a b : Ty) : Sides a b := by
  by_cases ha : ∃ x, a = var x
  · obtain ⟨x, rfl⟩ := ha
    by_cases hb : ∃ y, b = var y
    · obtain ⟨y, rfl⟩ := hb
      exact .vars x y
    · exact .left x fun y heq => hb ⟨y, heq⟩
  · have ha' : ∀ x, a ≠ var x := fun x heq => ha ⟨x, heq⟩
    by_cases hb : ∃ y, b = var y
    · obtain ⟨y, rfl⟩ := hb
      exact .right y ha'
    · exact .shapes ha' fun y heq => hb ⟨y, heq⟩

lemma unifyWith_shapes (fuel : Nat) {a b : Ty} (ha : ∀ name, a ≠ var name)
    (hb : ∀ name, b ≠ var name) : unifyWith (fuel + 1) a b =
      if a = b then return a else unifyShapes (unifyWith fuel) a b := by
  rw [unifyWith]
  · exact ha
  · exact hb
  · intro x _ hx _
    exact ha x hx

lemma unifyWith_var (fuel : Nat) (name : String) {b : Ty} (hb : ∀ name, b ≠ var name) :
    unifyWith (fuel + 1) (var name) b = unifyVar (unifyWith fuel) name b := by
  rw [unifyWith]
  exact hb

lemma unifyWith_vars (fuel : Nat) (x y : String) :
    unifyWith (fuel + 1) (var x) (var y) = unifyVars (unifyWith fuel) x y := rfl

lemma unifyWith_var_right (fuel : Nat) (name : String) {a : Ty} (ha : ∀ name, a ≠ var name) :
    unifyWith (fuel + 1) a (var name) = unifyVar (unifyWith fuel) name a := by
  rw [unifyWith]
  exact ha

end Ty

end ChannelRules
