import ChannelRules.Proofs.Ty.Unify
import Mathlib.Data.Finset.Card
import Mathlib.Logic.Relation

/-!
# Full substitution

If no variable is bound in a circle, then there is one way to replace every variable by its binding, in
which the variables are replaced in turn, and by `Any` if it has no binding. `resolve` does this as
long as it does not get to its limit. A variable with a longer chain of variables behind it becomes
`Any`.
-/

namespace ChannelRules

namespace Ty

open Relation (TransGen)

/-- Induction on a type through the types directly inside it. -/
@[elab_as_elim]
lemma induction_parts {motive : Ty → Prop} (var : ∀ name, motive (.var name))
    (parts : ∀ ty, (∀ name, ty ≠ .var name) → (∀ part ∈ ty.components, motive part) → motive ty)
    (ty : Ty) : motive ty := by
  induction hsize : ty.size using Nat.strong_induction_on generalizing ty with
  | _ size ih =>
    by_cases hvar : ∃ name, ty = .var name
    · obtain ⟨name, rfl⟩ := hvar
      exact var name
    · exact parts ty (fun name heq => hvar ⟨name, heq⟩) fun part hpart =>
        ih part.size (hsize ▸ size_lt_of_mem_components hpart) part rfl

/-- A variable occurs in a type. -/
inductive Mentions (name : String) : Ty → Prop
  | here : Mentions name (var name)
  | part {ty part : Ty} (hpart : part ∈ ty.components) (h : Mentions name part) : Mentions name ty

/-- All variables of a type are among the given ones. -/
def VarsIn (names : Finset String) (ty : Ty) : Prop := ∀ name, Mentions name ty → name ∈ names

lemma varsIn_mono {names more : Finset String} (hsub : names ⊆ more) {ty : Ty}
    (h : VarsIn names ty) : VarsIn more ty := fun name hname => hsub (h name hname)

lemma exists_varsIn_of_mem {α : Type} (f : α → Ty) (items : List α)
    (h : ∀ item ∈ items, ∃ names, VarsIn names (f item)) :
    ∃ names, ∀ item ∈ items, VarsIn names (f item) := by
  induction items with
  | nil => exact ⟨∅, List.forall_mem_nil _⟩
  | cons item rest ih =>
    obtain ⟨hitem, hrest⟩ := List.forall_mem_cons.1 h
    obtain ⟨names, hnames⟩ := hitem
    obtain ⟨others, hothers⟩ := ih hrest
    refine ⟨names ∪ others, List.forall_mem_cons.2 ⟨?_, fun other hother => ?_⟩⟩
    · exact varsIn_mono Finset.subset_union_left hnames
    · exact varsIn_mono Finset.subset_union_right (hothers other hother)

lemma exists_varsIn (ty : Ty) : ∃ names, VarsIn names ty := by
  induction ty using induction_parts with
  | var name =>
    refine ⟨{name}, fun other hother => ?_⟩
    cases hother with
    | here => exact Finset.mem_singleton_self _
    | part hpart _ => cases hpart
  | parts ty hvar ih =>
    obtain ⟨names, hparts⟩ := exists_varsIn_of_mem id ty.components ih
    refine ⟨names, fun other hother => ?_⟩
    cases hother with
    | here => exact absurd rfl (hvar other)
    | part hpart hother => exact hparts _ hpart other hother

/-- A relation that leads to finitely many names and has no circle leads to lower ranks. -/
lemma exists_rank {R : String → String → Prop} (names : Finset String)
    (hnames : ∀ x y, R x y → y ∈ names) (hcircle : ∀ x, ¬ TransGen R x x) :
    ∃ rank : String → ℕ, ∀ x y, R x y → rank y < rank x := by
  classical
  -- From a name that another one leads to, fewer names are reached.
  refine ⟨fun x => (names.filter fun y => TransGen R x y).card, fun x y hxy => ?_⟩
  refine Finset.card_lt_card ⟨fun last hlast => ?_, fun hsub => ?_⟩
  · rw [Finset.mem_filter] at hlast ⊢
    exact ⟨hlast.1, .head hxy hlast.2⟩
  · have hmem := hsub (Finset.mem_filter.2 ⟨hnames x y hxy, .single hxy⟩)
    exact hcircle y (Finset.mem_filter.1 hmem).2

section Acyclic

variable {types : Named Ty}

/-- A variable is bound to a type with another one. -/
def Uses (types : Named Ty) (name other : String) : Prop :=
  ∃ bound, Named.get? types name = some bound ∧ Mentions other bound

/-- No variable is bound in a circle. -/
def Acyclic (types : Named Ty) : Prop := ∀ name, ¬ TransGen (Uses types) name name

lemma Acyclic.exists_rank (h : Acyclic types) :
    ∃ rank : String → ℕ, ∀ name other, Uses types name other → rank other < rank name := by
  obtain ⟨names, hnames⟩ := exists_varsIn_of_mem Prod.snd types fun entry _ => exists_varsIn entry.2
  refine Ty.exists_rank names ?_ h
  rintro name other ⟨bound, hbound, hother⟩
  exact hnames _ (Named.mem_of_get? hbound) other hother

lemma acyclic_of_rank (rank : String → ℕ)
    (hrank : ∀ name other, Uses types name other → rank other < rank name) : Acyclic types := by
  intro name hcircle
  have hlower : ∀ other, TransGen (Uses types) name other → rank other < rank name := by
    intro other h
    induction h with
    | single huses => exact hrank _ _ huses
    | tail _ huses ih => exact (hrank _ _ huses).trans ih
  exact lt_irrefl _ (hlower name hcircle)

lemma Acyclic.ne_self (h : Acyclic types) {name : String} {bound : Ty}
    (hbound : Named.get? types name = some bound) : bound ≠ var name := by
  rintro rfl
  exact h name (.single ⟨_, hbound, .here⟩)

end Acyclic

mutual

/-- Replace the variables of a type. -/
def substitute (bind : String → Ty) : Ty → Ty
  | var name => bind name
  | array elem => array (substitute bind elem)
  | map key value => map (substitute bind key) (substitute bind value)
  | tuple items => tuple (substituteItems bind items)
  | object fields => object (substituteFields bind fields)
  | ty => ty

def substituteItems (bind : String → Ty) : List Ty → List Ty
  | [] => []
  | item :: rest => substitute bind item :: substituteItems bind rest

def substituteFields (bind : String → Ty) : List (String × Ty) → List (String × Ty)
  | [] => []
  | (name, field) :: rest => (name, substitute bind field) :: substituteFields bind rest

end

section Substitute

variable {types : Named Ty} {bind bind' : String → Ty}

lemma substituteItems_eq (items : List Ty) :
    substituteItems bind items = items.map (substitute bind) := by
  induction items with
  | nil => rfl
  | cons item rest ih => rw [substituteItems, ih, List.map_cons]

lemma substituteFields_eq (fields : List (String × Ty)) :
    substituteFields bind fields =
      (Named.names fields).zip ((fields.map Prod.snd).map (substitute bind)) := by
  induction fields with
  | nil => rfl
  | cons field rest ih => rw [substituteFields, ih]; rfl

lemma substitute_parts {ty : Ty} (hvar : ∀ name, ty ≠ var name) :
    ty.substitute bind = ty.withComponents (ty.components.map (substitute bind)) := by
  cases ty with
  | var name => exact absurd rfl (hvar name)
  | tuple items => rw [substitute, substituteItems_eq]; rfl
  | object fields => rw [substitute, substituteFields_eq]; rfl
  | _ => rfl

lemma resolveWith_parts (fuel : ℕ) {ty : Ty} (hvar : ∀ name, ty ≠ var name) :
    resolveWith types (fuel + 1) ty =
      ty.withComponents (ty.components.map (resolveWith types fuel)) := by
  cases ty with
  | var name => exact absurd rfl (hvar name)
  | object fields =>
    rw [resolveWith, withComponents, components, List.map_map, Named.names, List.zip_map']
    rfl
  | _ => rfl

/-- Only the variables of a type matter. -/
lemma substitute_congr {ty : Ty} (h : ∀ name, Mentions name ty → bind name = bind' name) :
    ty.substitute bind = ty.substitute bind' := by
  induction ty using induction_parts with
  | var name => exact h name .here
  | parts ty hvar ih =>
    rw [substitute_parts hvar, substitute_parts hvar]
    have hparts : ∀ part ∈ ty.components, part.substitute bind = part.substitute bind' :=
      fun part hpart => ih part hpart fun name hname => h name (.part hpart hname)
    rw [List.map_congr_left hparts]

lemma withComponents_components (ty : Ty) : ty.withComponents ty.components = ty := by
  cases ty with
  | object fields =>
    rw [withComponents, components, Named.names, List.zip_map', List.map_id']
  | _ => rfl

lemma substitute_of_hasVars {ty : Ty} (h : ty.hasVars = false) : ty.substitute bind = ty := by
  induction ty using induction_parts with
  | var name => cases h
  | parts ty hvar ih =>
    have hparts : ∀ part ∈ ty.components, part.substitute bind = id part :=
      fun part hpart => ih part hpart (hasVars_of_mem_components h hpart)
    rw [substitute_parts hvar, List.map_congr_left hparts, List.map_id, withComponents_components]

/-- Follow the binding of a variable once, with types for the variables in it. -/
def follow (types : Named Ty) (bind : String → Ty) (name : String) : Ty :=
  match Named.get? types name with
  | some bound => bound.substitute bind
  | none => any

/-- Every bound variable stands for its binding, in which the variables are replaced in the same way,
and every other variable for `Any`. -/
def Solves (types : Named Ty) (full : String → Ty) : Prop := ∀ name, full name = follow types full name

lemma follow_congr {name : String} (h : ∀ other, Uses types name other → bind other = bind' other) :
    follow types bind name = follow types bind' name := by
  unfold follow
  cases hget : Named.get? types name with
  | none => rfl
  | some bound => exact substitute_congr fun other hother => h other ⟨bound, hget, hother⟩

lemma Solves.unique {full full' : String → Ty} (hacyclic : Acyclic types) (h : Solves types full)
    (h' : Solves types full') : full' = full := by
  obtain ⟨rank, hrank⟩ := hacyclic.exists_rank
  funext name
  -- The types for a variable are the same once those for the variables of its binding are.
  induction hlevel : rank name using Nat.strong_induction_on generalizing name with
  | _ level ih =>
    rw [h name, h' name]
    exact follow_congr fun other huses => ih _ (hlevel ▸ hrank name other huses) other rfl

/-- Bindings followed a number of times. -/
def rounds (types : Named Ty) (n : ℕ) : String → Ty := (follow types)^[n] fun _ => any

lemma rounds_succ (n : ℕ) : rounds types (n + 1) = follow types (rounds types n) :=
  Function.iterate_succ_apply' _ _ _

/-- More rounds than the rank of a variable make no difference. -/
lemma rounds_eq {rank : String → ℕ}
    (hrank : ∀ name other, Uses types name other → rank other < rank name) {n m : ℕ} {name : String}
    (hn : rank name < n) (hm : rank name < m) : rounds types n name = rounds types m name := by
  induction n generalizing m name with
  | zero => omega
  | succ n ih =>
    cases m with
    | zero => omega
    | succ m =>
      rw [rounds_succ, rounds_succ]
      refine follow_congr fun other huses => ?_
      have hlower := hrank name other huses
      exact ih (by omega) (by omega)

theorem existsUnique_solves (hacyclic : Acyclic types) : ∃! full, Solves types full := by
  obtain ⟨rank, hrank⟩ := hacyclic.exists_rank
  have hsolves : Solves types fun name => rounds types (rank name + 1) name := by
    intro name
    change rounds types (rank name + 1) name = _
    rw [rounds_succ]
    refine follow_congr fun other huses => ?_
    exact rounds_eq hrank (hrank name other huses) (Nat.lt_succ_self _)
  exact ⟨_, hsolves, fun full h => hsolves.unique hacyclic h⟩

/-- A type lies a number of steps below another one. A step leads into a type, or from a variable to
its binding. -/
inductive Below (types : Named Ty) : ℕ → Ty → Ty → Prop
  | here (ty : Ty) : Below types 0 ty ty
  | inside {n : ℕ} {ty next part : Ty} (hnext : next ∈ ty.components) (h : Below types n next part) :
    Below types (n + 1) ty part
  | bound {n : ℕ} {name : String} {bound part : Ty} (hbound : Named.get? types name = some bound)
    (h : Below types n bound part) : Below types (n + 1) (var name) part

/-- If what lies as deep as the limit is `Any` anyway, then resolution is the full substitution. -/
lemma resolveWith_eq_substitute {full : String → Ty} (hacyclic : Acyclic types)
    (hfull : Solves types full) {fuel : ℕ} {ty : Ty}
    (hdeep : ∀ part, Below types fuel ty part → part.substitute full = any) :
    resolveWith types fuel ty = ty.substitute full := by
  induction fuel generalizing ty with
  | zero => exact (hdeep ty (.here ty)).symm
  | succ fuel ih =>
    by_cases hvar : ∃ name, ty = var name
    · obtain ⟨name, rfl⟩ := hvar
      rw [substitute, hfull name, follow]
      cases hget : Named.get? types name with
      | none => rw [resolveWith, hget]
      | some bound =>
        rw [resolveWith_var fuel hget (hacyclic.ne_self hget)]
        exact ih fun part hpart => hdeep part (.bound hget hpart)
    · have hvar : ∀ name, ty ≠ var name := fun name heq => hvar ⟨name, heq⟩
      have hparts : ∀ part ∈ ty.components, resolveWith types fuel part = part.substitute full :=
        fun part hpart => ih fun deeper hdeeper => hdeep deeper (.inside hpart hdeeper)
      rw [resolveWith_parts fuel hvar, substitute_parts hvar, List.map_congr_left hparts]

lemma resolveWith_one_var (types : Named Ty) (name : String) :
    resolveWith types 1 (var name) = any := by
  rw [resolveWith]
  split
  · split <;> rfl
  · rfl
  · rfl

/-- A variable with a chain of variables behind it that is as long as the limit becomes `Any`. -/
lemma resolveWith_chain {name : String} {chain : List String} {fuel : ℕ}
    (hchain : List.IsChain (fun x y => Named.get? types x = some (var y)) (name :: chain))
    (hfuel : fuel ≤ chain.length + 1) : resolveWith types fuel (var name) = any := by
  induction fuel generalizing name chain with
  | zero => rfl
  | succ fuel ih =>
    cases chain with
    | nil =>
      obtain rfl : fuel = 0 := Nat.le_zero.1 (Nat.le_of_succ_le_succ hfuel)
      exact resolveWith_one_var types name
    | cons next rest =>
      rw [List.isChain_cons_cons] at hchain
      rw [resolveWith, hchain.1]
      dsimp only
      split
      · rfl
      · exact ih hchain.2 (Nat.le_of_succ_le_succ hfuel)

/-- Bindings without a circle have one full substitution, and resolution gives it for every type with
nothing below its limit, or nothing that the full substitution does not replace by `Any`. A type of
this kind without variables stays as it is. A variable from which a chain of bindings leads over as many
variables as the limit becomes `Any`. -/
theorem resolve_substitutes {types : Named Ty} (hacyclic : Acyclic types) :
    (∃! full, Solves types full) ∧
      (∀ full, Solves types full → ∀ ty,
        (∀ part, Below types resolveDepth ty part → part.substitute full = any) →
          resolve types ty = ty.substitute full) ∧
      (∀ ty, ty.hasVars = false → (∀ part, Below types resolveDepth ty part → part = any) →
        resolve types ty = ty) ∧
      ∀ name chain, List.IsChain (fun x y => Named.get? types x = some (var y)) (name :: chain) →
        resolveDepth ≤ chain.length + 1 → resolve types (var name) = any := by
  obtain ⟨full, hfull, hunique⟩ := existsUnique_solves hacyclic
  refine ⟨⟨full, hfull, hunique⟩, fun full' hfull' ty => resolveWith_eq_substitute hacyclic hfull',
    fun ty hty hdeep => ?_, fun name chain => resolveWith_chain⟩
  have hresolve : resolve types ty = ty.substitute full :=
    resolveWith_eq_substitute hacyclic hfull fun part hpart => by rw [hdeep part hpart]; rfl
  rw [hresolve, substitute_of_hasVars hty]

end Substitute

/-- The name of a variable, by its place in a chain. -/
def aliasName (k : ℕ) : String := String.ofList (List.replicate (k + 1) 'a')

/-- The first variable is bound to `Number`, and each of the others to the one before it. -/
def aliases : ℕ → Named Ty
  | 0 => [(aliasName 0, number)]
  | n + 1 => (aliasName (n + 1), var (aliasName n)) :: aliases n

lemma length_aliasName (k : ℕ) : (aliasName k).length = k + 1 := by
  simp [aliasName]

lemma get?_aliases_zero (n : ℕ) : Named.get? (aliases n) (aliasName 0) = some number := by
  induction n with
  | zero => exact if_pos rfl
  | succ n ih =>
    have hne : aliasName (n + 1) ≠ aliasName 0 := by
      intro h
      simpa [length_aliasName] using congrArg String.length h
    rw [aliases, Named.get?, if_neg hne, ih]

lemma get?_aliases_succ {n k : ℕ} (hk : k < n) :
    Named.get? (aliases n) (aliasName (k + 1)) = some (var (aliasName k)) := by
  induction n with
  | zero => omega
  | succ n ih =>
    by_cases hkn : k = n
    · subst hkn
      exact if_pos rfl
    · have hne : aliasName (n + 1) ≠ aliasName (k + 1) := by
        intro h
        have hlength := congrArg String.length h
        rw [length_aliasName, length_aliasName] at hlength
        omega
      rw [aliases, Named.get?, if_neg hne, ih (by omega)]

lemma mem_aliases {n : ℕ} {entry : String × Ty} (h : entry ∈ aliases n) :
    entry.2 = number ∨ ∃ k, entry = (aliasName (k + 1), var (aliasName k)) := by
  induction n with
  | zero =>
    rw [List.mem_singleton.1 h]
    exact .inl rfl
  | succ n ih =>
    rcases List.mem_cons.1 h with rfl | h
    · exact .inr ⟨n, rfl⟩
    · exact ih h

lemma acyclic_aliases (n : ℕ) : Acyclic (aliases n) := by
  refine acyclic_of_rank String.length ?_
  rintro name other ⟨bound, hbound, hother⟩
  rcases mem_aliases (Named.mem_of_get? hbound) with hnumber | ⟨k, hentry⟩
  · obtain rfl : bound = number := hnumber
    cases hother with
    | part hpart _ => cases hpart
  · obtain ⟨rfl, rfl⟩ := Prod.mk.inj hentry
    cases hother with
    | here => simp [length_aliasName]
    | part hpart _ => cases hpart

lemma Solves.aliases {full : String → Ty} {n k : ℕ} (h : Solves (aliases n) full) (hk : k ≤ n) :
    full (aliasName k) = number := by
  induction k with
  | zero =>
    rw [h, follow, get?_aliases_zero]
    rfl
  | succ k ih =>
    rw [h, follow, get?_aliases_succ hk]
    exact ih (by omega)

lemma below_aliases {n k m : ℕ} {part : Ty} (hk : k ≤ n)
    (h : Below (aliases n) m (var (aliasName k)) part) : m ≤ k + 1 := by
  induction k generalizing m with
  | zero =>
    cases h with
    | here => omega
    | inside hnext _ => cases hnext
    | bound hbound hbelow =>
      rw [get?_aliases_zero] at hbound
      cases hbound
      cases hbelow with
      | here => omega
      | inside hnext _ => cases hnext
  | succ k ih =>
    cases h with
    | here => omega
    | inside hnext _ => cases hnext
    | bound hbound hbelow =>
      rw [get?_aliases_succ hk] at hbound
      cases hbound
      have hle := ih (by omega) hbelow
      omega

lemma isChain_aliases {n k : ℕ} (hk : k ≤ n) :
    List.IsChain (fun x y => Named.get? (aliases n) x = some (var y))
      (aliasName k :: (List.range k).reverse.map aliasName) := by
  induction k with
  | zero => exact .singleton _
  | succ k ih =>
    rw [List.range_succ, List.reverse_append, List.reverse_singleton, List.singleton_append,
      List.map_cons, List.isChain_cons_cons]
    exact ⟨get?_aliases_succ hk, ih (by omega)⟩

theorem resolve_substitutes_aliases :
    Acyclic (aliases 31) ∧ Acyclic (aliases 32) ∧
      (∀ part, ¬ Below (aliases 31) resolveDepth (array (var (aliasName 30))) part) ∧
      resolve (aliases 31) (array (var (aliasName 30))) = array number ∧
      resolve (aliases 32) (var (aliasName 32)) = any := by
  have hshallow : ∀ part, ¬ Below (aliases 31) resolveDepth (array (var (aliasName 30))) part := by
    intro part h
    cases h with
    | inside hnext hbelow =>
      cases List.mem_singleton.1 hnext
      have hle := below_aliases (by decide) hbelow
      omega
  obtain ⟨⟨full, hfull, -⟩, hresolve, -, -⟩ := resolve_substitutes (acyclic_aliases 31)
  have hlist := hresolve full hfull (array (var (aliasName 30))) fun part h => absurd h (hshallow part)
  rw [substitute, substitute, hfull.aliases (by decide)] at hlist
  have hlong := (resolve_substitutes (acyclic_aliases 32)).2.2.2 (aliasName 32) _
    (isChain_aliases le_rfl) (by simp [resolveDepth])
  exact ⟨acyclic_aliases 31, acyclic_aliases 32, hshallow, hlist, hlong⟩

/-- One alias more than the limit is not followed to the end, and neither are lists in lists. -/
theorem resolve_limited :
    (Acyclic (aliases 32) ∧
      (∀ full, Solves (aliases 32) full → (var (aliasName 32)).substitute full = number) ∧
      resolve (aliases 32) (var (aliasName 32)) = any) ∧
      (array^[33] number).hasVars = false ∧ resolve [] (array^[33] number) = array^[33] any := by
  refine ⟨⟨acyclic_aliases 32, fun full h => h.aliases le_rfl, ?_⟩, by rfl, by rfl⟩
  exact resolveWith_chain (isChain_aliases le_rfl) (by simp [resolveDepth])

end Ty

end ChannelRules
