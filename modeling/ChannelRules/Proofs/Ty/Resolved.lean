import ChannelRules.Proofs.Ty.Substituted

/-!
# Resolution comes to an end

`resolve` goes from a variable to its binding and on from there, and it does not notice where it has
been before. When variables are bound in a circle, only the limit on the steps down ends this. The
calls and their results are given here by rules of their own, in which every call knows the number
of steps that have led to it. Whatever the variables are bound to, a type has one result by these
rules, which is the one that `resolve` gives, and no variable is left in it.
-/

namespace ChannelRules

namespace Ty

/-- A call of resolution for a type, made a number of steps down. -/
structure Visit where
  depth : ℕ
  ty : Ty

namespace Visit

/-- The calls that a call makes itself: for the binding of a variable that is not bound to itself,
and for the parts of a type. A call as deep as the limit makes none. -/
inductive Makes (types : Named Ty) : Visit → Visit → Prop
  | bound {depth : ℕ} {name : String} {bound : Ty} (hdepth : depth < resolveDepth)
      (hbound : Named.get? types name = some bound) (hself : bound ≠ var name) :
      Makes types ⟨depth, var name⟩ ⟨depth + 1, bound⟩
  | part {depth : ℕ} {ty part : Ty} (hdepth : depth < resolveDepth) (hpart : part ∈ ty.components) :
      Makes types ⟨depth, ty⟩ ⟨depth + 1, part⟩

/-- The result of a call, from the results of the calls that it makes. -/
inductive Returns (types : Named Ty) : Visit → Ty → Prop
  | limit {depth : ℕ} {ty : Ty} (hdepth : resolveDepth ≤ depth) : Returns types ⟨depth, ty⟩ any
  | free {depth : ℕ} {name : String} (hdepth : depth < resolveDepth)
      (hfree : Named.get? types name = none) : Returns types ⟨depth, var name⟩ any
  | selfBound {depth : ℕ} {name : String} (hdepth : depth < resolveDepth)
      (hself : Named.get? types name = some (var name)) : Returns types ⟨depth, var name⟩ any
  | bound {depth : ℕ} {name : String} {bound result : Ty} (hdepth : depth < resolveDepth)
      (hbound : Named.get? types name = some bound) (hself : bound ≠ var name)
      (h : Returns types ⟨depth + 1, bound⟩ result) : Returns types ⟨depth, var name⟩ result
  | parts {depth : ℕ} {ty : Ty} {results : List Ty} (hdepth : depth < resolveDepth)
      (hvar : ∀ name, ty ≠ var name) (hlength : ty.components.length = results.length)
      (h : ∀ i hpart hresult, Returns types ⟨depth + 1, ty.components.get ⟨i, hpart⟩⟩
        (results.get ⟨i, hresult⟩)) : Returns types ⟨depth, ty⟩ (ty.withComponents results)

variable {types : Named Ty}

lemma Makes.depth_lt {call next : Visit} (h : call.Makes types next) :
    next.depth = call.depth + 1 ∧ call.depth < resolveDepth := by
  cases h with
  | bound hdepth _ _ => exact ⟨rfl, hdepth⟩
  | part hdepth _ => exact ⟨rfl, hdepth⟩

/-- Every call of a chain is a step deeper than the one before it, so the chain ends at the limit. -/
lemma depth_add_length_le {call : Visit} {chain : List Visit}
    (hchain : List.IsChain (Makes types) (call :: chain)) (hdepth : call.depth ≤ resolveDepth) :
    call.depth + chain.length ≤ resolveDepth := by
  induction chain generalizing call with
  | nil => exact hdepth
  | cons next rest ih =>
    rw [List.isChain_cons_cons] at hchain
    obtain ⟨hnext, hbelow⟩ := hchain.1.depth_lt
    have hrest := ih hchain.2 (by omega)
    rw [List.length_cons]
    omega

/-- Calls for types that always lead to another type of the same kind go down to the limit. -/
lemma exists_chain_to_limit {P : Ty → Prop}
    (hnext : ∀ depth ty, depth < resolveDepth → P ty →
      ∃ next, P next ∧ Makes types ⟨depth, ty⟩ ⟨depth + 1, next⟩)
    {depth : ℕ} (hdepth : depth ≤ resolveDepth) {ty : Ty} (hty : P ty) :
    ∃ chain, List.IsChain (Makes types) (⟨depth, ty⟩ :: chain) ∧
      depth + chain.length = resolveDepth := by
  induction hleft : resolveDepth - depth generalizing depth ty with
  | zero =>
    refine ⟨[], .singleton _, ?_⟩
    rw [List.length_nil]
    omega
  | succ left ih =>
    have hdeeper : depth + 1 ≤ resolveDepth := by omega
    obtain ⟨next, hkind, hmakes⟩ := hnext depth ty hdeeper hty
    obtain ⟨rest, hrest, hlength⟩ := ih hdeeper hkind (by omega)
    refine ⟨⟨depth + 1, next⟩ :: rest, List.isChain_cons_cons.2 ⟨hmakes, hrest⟩, ?_⟩
    rw [List.length_cons]
    omega

lemma resolveWith_selfBound (fuel : ℕ) {name : String}
    (hself : Named.get? types name = some (var name)) :
    resolveWith types (fuel + 1) (var name) = any := by
  rw [resolveWith, hself]
  exact if_pos rfl

/-- A call returns what substitution gives with the steps that are left. -/
lemma returns_resolveWith {fuel depth : ℕ} (hfuel : depth + fuel = resolveDepth) (ty : Ty) :
    Returns types ⟨depth, ty⟩ (resolveWith types fuel ty) := by
  induction fuel generalizing depth ty with
  | zero => exact .limit hfuel.ge
  | succ fuel ih =>
    have hdepth : depth < resolveDepth := by omega
    have hnext : depth + 1 + fuel = resolveDepth := by omega
    by_cases hvar : ∃ name, ty = var name
    · obtain ⟨name, rfl⟩ := hvar
      cases hget : Named.get? types name with
      | none =>
        rw [resolveWith, hget]
        exact .free hdepth hget
      | some bound =>
        by_cases hself : bound = var name
        · subst hself
          rw [resolveWith_selfBound fuel hget]
          exact .selfBound hdepth hget
        · rw [resolveWith_var fuel hget hself]
          exact .bound hdepth hget hself (ih hnext bound)
    · have hvar : ∀ name, ty ≠ var name := fun name heq => hvar ⟨name, heq⟩
      rw [resolveWith_parts fuel hvar]
      refine .parts hdepth hvar (List.length_map _).symm fun i hpart hresult => ?_
      rw [List.get_eq_getElem, List.get_eq_getElem, List.getElem_map]
      exact ih hnext _

/-- A call has no other result. -/
lemma Returns.eq {call : Visit} {result : Ty} (h : call.Returns types result) :
    result = resolveWith types (resolveDepth - call.depth) call.ty := by
  -- Below the limit, a call leaves one step less to the calls that it makes.
  have hleft : ∀ depth, depth < resolveDepth →
      resolveDepth - depth = resolveDepth - (depth + 1) + 1 := fun depth hdepth => by omega
  induction h with
  | limit hdepth =>
    rw [Nat.sub_eq_zero_of_le hdepth]
    rfl
  | free hdepth hfree => rw [hleft _ hdepth, resolveWith, hfree]
  | selfBound hdepth hself => rw [hleft _ hdepth, resolveWith_selfBound _ hself]
  | bound hdepth hbound hself _ ih => rw [hleft _ hdepth, resolveWith_var _ hbound hself, ih]
  | parts hdepth hvar hlength _ ih =>
    rw [hleft _ hdepth, resolveWith_parts _ hvar]
    congr 1
    refine List.ext_get (by rw [List.length_map, hlength]) fun i hresult hpart => ?_
    rw [List.length_map] at hpart
    rw [ih i hpart hresult, List.get_eq_getElem, List.get_eq_getElem, List.getElem_map]

end Visit

lemma not_mentions_of_hasVars {name : String} {ty : Ty} (h : ty.hasVars = false) :
    ¬ Mentions name ty := by
  intro hname
  induction hname with
  | here => cases h
  | part hpart _ ih => exact ih (hasVars_of_mem_components h hpart)

/-- Resolution ends with a type that has no variables, also if variables are bound to themselves, in
a circle or to types that they occur in: a chain of calls in which each call makes the next gets no
deeper than the limit, and by the rules for the calls there is exactly one result. -/
theorem resolve_ends (types : Named Ty) (ty : Ty) :
    (∀ chain, List.IsChain (Visit.Makes types) (⟨0, ty⟩ :: chain) →
        chain.length ≤ resolveDepth) ∧
      (∀ result, Visit.Returns types ⟨0, ty⟩ result ↔ result = resolve types ty) ∧
      (resolve types ty).hasVars = false ∧ ∀ name, ¬ Mentions name (resolve types ty) := by
  have hvars : (resolve types ty).hasVars = false := hasVars_resolveWith types resolveDepth ty
  refine ⟨fun chain hchain => ?_, fun result => ⟨Visit.Returns.eq, ?_⟩, hvars,
    fun name => not_mentions_of_hasVars hvars⟩
  · have hlength := Visit.depth_add_length_le hchain (Nat.zero_le _)
    rwa [Nat.zero_add] at hlength
  · rintro rfl
    exact Visit.returns_resolveWith (Nat.zero_add _) ty

/-- A variable that is bound to itself, and two in a circle with a list on the way. -/
def circles : Named Ty := [("a", var "b"), ("b", array (var "a")), ("c", var "c")]

/-- The calls go round the circle until they get to the limit. -/
theorem resolve_ends_circles :
    (∃ chain, List.IsChain (Visit.Makes circles) (⟨0, tuple [var "a", var "c"]⟩ :: chain) ∧
        chain.length = resolveDepth) ∧
      Visit.Returns circles ⟨0, tuple [var "a", var "c"]⟩ (tuple [array^[10] any, any]) ∧
      (tuple [array^[10] any, any]).hasVars = false ∧
      ∀ name, ¬ Mentions name (tuple [array^[10] any, any]) := by
  have hround : ∃ chain, List.IsChain (Visit.Makes circles) (⟨1, var "a"⟩ :: chain) ∧
      1 + chain.length = resolveDepth := by
    refine Visit.exists_chain_to_limit
      (P := fun ty => ty = var "a" ∨ ty = var "b" ∨ ty = array (var "a")) ?_ (by decide) (.inl rfl)
    rintro depth ty hdepth (rfl | rfl | rfl)
    · exact ⟨var "b", .inr (.inl rfl), .bound hdepth rfl nofun⟩
    · exact ⟨array (var "a"), .inr (.inr rfl), .bound hdepth rfl nofun⟩
    · exact ⟨var "a", .inl rfl, .part hdepth List.mem_cons_self⟩
  obtain ⟨chain, hchain, hlength⟩ := hround
  have hfirst : Visit.Makes circles ⟨0, tuple [var "a", var "c"]⟩ ⟨1, var "a"⟩ :=
    .part (by decide) List.mem_cons_self
  have hresolve : resolve circles (tuple [var "a", var "c"]) = tuple [array^[10] any, any] := by rfl
  obtain ⟨-, hreturns, hvars⟩ := resolve_ends circles (tuple [var "a", var "c"])
  rw [hresolve] at hreturns hvars
  refine ⟨⟨_, List.isChain_cons_cons.2 ⟨hfirst, hchain⟩, ?_⟩, (hreturns _).2 rfl, hvars⟩
  rw [List.length_cons, Nat.add_comm, hlength]

end Ty

end ChannelRules
