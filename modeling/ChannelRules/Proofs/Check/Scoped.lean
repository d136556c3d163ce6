import ChannelRules.Proofs.Check.Layer
import ChannelRules.Proofs.Typed.Scoped

/-!
# Checked rules are well scoped

The checker keeps the names in scope: the parameters of the program and the names that a rule has
introduced so far are those that expressions can read. The rules of a checked program are therefore
well scoped.
-/

namespace ChannelRules

open Typed Typed.Touch

/-- The variables in scope are the given names. -/
def Scope.Shows (scope : Scope) (names : List String) : Prop :=
  ∀ x, x ∈ names ↔
    ∃ ty kind, scope.get? x = some ⟨ty, kind⟩ ∧ (kind = .param ∨ kind = .introduced)

section Scope

variable {scope scope' : Scope} {names : List String} {name : String} {ty : Ty} {kind : NameKind}

lemma Scope.get?_declare {entry : Entry} (h : scope.declare? name entry = some scope') :
    scope.get? name = none ∧ scope'.get? name = some entry ∧
      ∀ x, x ≠ name → scope'.get? x = scope.get? x := by
  unfold declare? at h
  split at h
  · cases h
  · rename_i hhas
    cases h
    refine ⟨Option.not_isSome_iff_eq_none.1 hhas, ?_, fun x hx => ?_⟩
    · simp only [get?, layers, List.findSome?_cons, Named.get?_insert_self]
    · simp only [get?, layers, List.findSome?_cons, Named.get?_insert_of_ne _ _ hx]

lemma Scope.Shows.declare (h : scope.Shows names) (hkind : kind = .param ∨ kind = .introduced)
    (hdeclare : scope.declare? name ⟨ty, kind⟩ = some scope') :
    name ∉ names ∧ scope'.Shows (names ++ [name]) := by
  obtain ⟨hnone, hself, hother⟩ := get?_declare hdeclare
  have hfresh : name ∉ names := by
    intro hmem
    obtain ⟨ty, kind, hget, -⟩ := (h name).1 hmem
    rw [hnone] at hget
    cases hget
  refine ⟨hfresh, fun x => ?_⟩
  rw [List.mem_append, List.mem_singleton]
  by_cases hx : x = name
  · subst hx
    exact ⟨fun _ => ⟨ty, kind, hself, hkind⟩, fun _ => .inr rfl⟩
  · rw [hother x hx, ← h x]
    exact ⟨fun hmem => hmem.resolve_right hx, .inl⟩

/-- Keywords and compute modules are no variables. -/
lemma Scope.Shows.declare_other (h : scope.Shows names)
    (hkind : ¬(kind = .param ∨ kind = .introduced))
    (hdeclare : scope.declare? name ⟨ty, kind⟩ = some scope') : scope'.Shows names := by
  obtain ⟨hnone, hself, hother⟩ := get?_declare hdeclare
  intro x
  by_cases hx : x = name
  · subst hx
    rw [h x, hnone, hself]
    constructor
    · rintro ⟨_, _, hget, -⟩
      cases hget
    · rintro ⟨_, _, hget, hkind'⟩
      cases hget
      exact absurd hkind' hkind
  · rw [h x, hother x hx]

lemma Scope.shows_empty : Scope.empty.Shows [] := by
  intro x
  constructor
  · intro h
    cases h
  · rintro ⟨_, _, hget, -⟩
    cases hget

lemma Scope.Shows.enter (h : scope.Shows names) : scope.enter.Shows names := by
  intro x
  rw [get?_enter]
  exact h x

end Scope

/-- Names are read, by expressions in base units, and introduced in order, after which the variables
in scope are those from before and those that were introduced. -/
structure Scope.Follows (scope : Scope) (names : List String) (touches : List Touch) : Prop where
  order : Scoped names touches
  normal : AllNormal touches
  shows : scope.Shows (names ++ declared touches)

section Follows

variable {scope scope' : Scope} {names : List String}

lemma Scope.follows_nil (h : scope.Shows names) : scope.Follows names [] := by
  refine ⟨trivial, nofun, ?_⟩
  rw [declared_nil, List.append_nil]
  exact h

lemma Scope.Follows.append {xs ys : List Touch} (hx : scope.Follows names xs)
    (hy : scope'.Follows (names ++ declared xs) ys) : scope'.Follows names (xs ++ ys) := by
  refine ⟨scoped_append.2 ⟨hx.order, hy.order⟩, allNormal_append.2 ⟨hx.normal, hy.normal⟩, ?_⟩
  rw [declared_append, ← List.append_assoc]
  exact hy.shows

lemma Scope.follows_declares {name : String} {ty : Ty} {kind : NameKind} (h : scope.Shows names)
    (hkind : kind = .param ∨ kind = .introduced)
    (hdeclare : scope.declare? name ⟨ty, kind⟩ = some scope') :
    scope'.Follows names [.declares name] := by
  obtain ⟨hfresh, hshows⟩ := h.declare hkind hdeclare
  refine ⟨⟨hfresh, trivial⟩, fun expr hexpr => ?_, hshows⟩
  cases List.mem_singleton.1 hexpr

end Follows

namespace Check

variable {α β : Type}

/-- What a check finds reads and introduces names in order. -/
def Introduces (x : Check α) (touches : α → List Touch) : Prop :=
  ∀ {names : List String} {s s' : CheckState} {a : α}, s.scope.Shows names → x s = .ok a s' →
    s'.scope.Follows names (touches a)

lemma expr_introduces (ctx : Context) (e : Source.Expr) :
    (expr ctx e).Introduces fun te => [.reads te] := by
  intro names s s' te hs h
  simp only [expr, state_bind_eq_ok] at h
  obtain ⟨scope, t, hscope, h⟩ := h
  obtain ⟨rfl, rfl⟩ := scope_eq_ok hscope
  obtain ⟨hte, hscope'⟩ := ofNoted_eq_ok h
  have hchecked := checkExpr_checked _ _ e hte
  rw [hscope']
  refine ⟨⟨fun x hx => (hs x).2 (hchecked.mem_vars hx), trivial⟩, fun expr hexpr => ?_, ?_⟩
  · cases List.mem_singleton.1 hexpr
    exact hchecked.normal
  rw [declared_reads, declared_nil, List.append_nil]
  exact hs

lemma forAll_introduces {f : α → Check β} {touches : β → List Touch}
    (hf : ∀ a, (f a).Introduces touches) (items : List α) :
    (forAll f items).Introduces fun bs => bs.flatMap touches := by
  induction items with
  | nil =>
    intro names s s' bs hs h
    cases h
    exact Scope.follows_nil hs
  | cons item rest ih =>
    intro names s s' bs hs h
    simp only [forAll, state_bind_eq_ok, state_pure_eq_ok] at h
    obtain ⟨b, t, hb, others, t', hothers, rfl, rfl⟩ := h
    have hfirst := hf item hs hb
    exact hfirst.append (ih hfirst.shows hothers)

end Check

section Clauses

variable (ctx : Context)

lemma checkBinder_introduces (ty : Ty) (mismatch : Ty → CheckError) (e : Source.Expr) :
    (checkBinder ctx ty mismatch e).Introduces fun found => [found.1.touch] := by
  intro names s s' found hs h
  simp only [checkBinder, state_bind_eq_ok] at h
  obtain ⟨scope, t, hscope, h⟩ := h
  obtain ⟨rfl, rfl⟩ := Check.scope_eq_ok hscope
  cases hfresh : freshName? t.scope e with
  | some name =>
    simp only [hfresh, state_bind_eq_ok, state_pure_eq_ok] at h
    obtain ⟨_, t', hdeclare, rfl, rfl⟩ := h
    exact Scope.follows_declares hs (.inr rfl) (Check.declare_eq_ok hdeclare)
  | none =>
    simp only [hfresh, state_bind_eq_ok, state_pure_eq_ok] at h
    obtain ⟨typed, t', htyped, agreed, t'', hagreed, rfl, rfl⟩ := h
    rw [Check.agree_eq_ok hagreed]
    exact Check.expr_introduces ctx e hs htyped

lemma checkSlot_introduces (channel : ChannelRef) (index : Nat) (ty : Ty) (e : Source.Expr) :
    (checkSlot ctx channel index ty e).Introduces fun found =>
      found.1.toList.map Binder.touch := by
  intro names s s' found hs h
  unfold checkSlot at h
  split at h
  · cases h
    exact Scope.follows_nil hs
  · simp only [state_bind_eq_ok, state_pure_eq_ok] at h
    obtain ⟨binder, t, hbinder, rfl, rfl⟩ := h
    exact checkBinder_introduces ctx ty _ e hs hbinder

lemma checkSlots_introduces (channel : ChannelRef) (types : List Ty) (index : Nat)
    (params : List Source.Expr) : (checkSlots ctx channel index types params).Introduces fun found =>
      ((found.map Prod.fst).filterMap id).map Binder.touch := by
  induction types generalizing index params with
  | nil =>
    intro names s s' found hs h
    cases h
    exact Scope.follows_nil hs
  | cons ty types ih =>
    intro names s s' found hs h
    simp only [checkSlots, state_bind_eq_ok, state_pure_eq_ok] at h
    obtain ⟨slot, t, hslot, slots, t', hslots, rfl, rfl⟩ := h
    have hfirst := checkSlot_introduces ctx channel index ty _ hs hslot
    have hall := hfirst.append (ih (index + 1) params.tail hfirst.shows hslots)
    obtain ⟨binder, agreed⟩ := slot
    cases binder with
    | none => exact hall
    | some binder => exact hall

lemma checkInvocation_introduces (sort : Section) (invocation : Source.Invocation) :
    (checkInvocation ctx sort invocation).Introduces Part.touches := by
  intro names s s' part hs h
  simp only [checkInvocation, state_bind_eq_ok] at h
  obtain ⟨⟨channel, types⟩, t, hresolve, h⟩ := h
  rw [← (Check.ofNoted_eq_ok hresolve).2] at hs
  split at h
  · simp only [state_bind_eq_ok] at h
    obtain ⟨_, _, hthrow, -⟩ := h
    exact absurd hthrow state_throw_ne_ok
  · simp only [state_bind_eq_ok, state_pure_eq_ok] at h
    obtain ⟨slots, t', hslots, rfl, rfl⟩ := h
    exact checkSlots_introduces ctx channel types 0 _ hs hslots

lemma checkText_introduces (e : Source.Expr) :
    (checkText ctx e).Introduces fun te => [.reads te] := by
  intro names s s' te hs h
  simp only [checkText, state_bind_eq_ok] at h
  obtain ⟨typed, t, htyped, h⟩ := h
  split at h
  · cases h
    exact Check.expr_introduces ctx e hs htyped
  · cases h

lemma checkTruth_introduces (e : Source.Expr) :
    (checkTruth ctx e).Introduces fun te => [.reads te] := by
  intro names s s' te hs h
  simp only [checkTruth, state_bind_eq_ok, state_pure_eq_ok] at h
  obtain ⟨typed, t, htyped, agreed, t', hagreed, rfl, rfl⟩ := h
  rw [Check.agree_eq_ok hagreed]
  exact Check.expr_introduces ctx e hs htyped

lemma checkPredicate_introduces (e : Source.Expr) :
    (checkPredicate ctx e).Introduces Predicate.touches := by
  intro names s s' predicate hs h
  unfold checkPredicate at h
  split at h
  · simp only [state_bind_eq_ok, state_pure_eq_ok] at h
    obtain ⟨value, t₁, hvalue, pattern, t₂, hpattern, flags, t₃, hflags, captures, t₄, hcaptures,
      rfl, rfl⟩ := h
    have h₁ := checkText_introduces ctx _ hs hvalue
    have h₂ := h₁.append (checkText_introduces ctx _ h₁.shows hpattern)
    have h₃ := h₂.append (checkText_introduces ctx _ h₂.shows hflags)
    have h₄ := h₃.append (Check.forAll_introduces (checkBinder_introduces ctx _ _) _ h₃.shows hcaptures)
    have htouches : (captures.map Prod.fst).map Binder.touch =
        captures.flatMap fun found => [found.1.touch] := by
      rw [List.map_map, List.map_eq_flatMap]
      rfl
    rw [Predicate.touches, htouches]
    exact h₄
  · simp only [state_bind_eq_ok, state_pure_eq_ok] at h
    obtain ⟨container, t₁, hcontainer, elem, t₂, helem, ⟨element, agreed⟩, t₃, helement, rfl,
      rfl⟩ := h
    have h₁ := Check.expr_introduces ctx _ hs hcontainer
    rw [← (Check.ofNoted_eq_ok helem).2] at h₁
    exact h₁.append (checkBinder_introduces ctx _ _ _ h₁.shows helement)
  · simp only [state_bind_eq_ok, state_pure_eq_ok] at h
    obtain ⟨typed, t, htyped, rfl, rfl⟩ := h
    exact checkTruth_introduces ctx _ hs htyped

lemma checkPart_introduces (sort : Section) (part : Source.Part) :
    (checkPart ctx sort part).Introduces Part.touches := by
  intro names s s' typed hs h
  cases part with
  | invocation i => exact checkInvocation_introduces ctx sort i hs h
  | predicate e =>
    simp only [checkPart, state_bind_eq_ok, state_pure_eq_ok] at h
    obtain ⟨predicate, t, hpredicate, rfl, rfl⟩ := h
    exact checkPredicate_introduces ctx e hs hpredicate
  | binding name e =>
    simp only [checkPart, state_bind_eq_ok, state_pure_eq_ok] at h
    obtain ⟨te, t, hte, _, t', hdeclare, rfl, rfl⟩ := h
    have hexpr := Check.expr_introduces ctx e hs hte
    exact hexpr.append (Scope.follows_declares hexpr.shows (.inr rfl) (Check.declare_eq_ok hdeclare))
  | condition e =>
    simp only [checkPart, state_bind_eq_ok, state_pure_eq_ok] at h
    obtain ⟨te, t, hte, rfl, rfl⟩ := h
    exact checkTruth_introduces ctx e hs hte

lemma checkPart_isInvocation {sort : Section} {part : Source.Part} {typed : Part}
    {s s' : CheckState} (h : checkPart ctx sort part s = .ok typed s') :
    typed.isInvocation = (part.rank == 0) := by
  cases part with
  | invocation i =>
    simp only [checkPart, checkInvocation, state_bind_eq_ok] at h
    obtain ⟨found, t, -, h⟩ := h
    split at h
    · cases h
    · simp only [state_bind_eq_ok, state_pure_eq_ok] at h
      obtain ⟨slots, t', -, rfl, -⟩ := h
      rfl
  | predicate e =>
    simp only [checkPart, state_bind_eq_ok, state_pure_eq_ok] at h
    obtain ⟨predicate, t, -, rfl, -⟩ := h
    rfl
  | binding name e =>
    simp only [checkPart, state_bind_eq_ok, state_pure_eq_ok] at h
    obtain ⟨te, t, -, _, t', -, rfl, -⟩ := h
    rfl
  | condition e =>
    simp only [checkPart, state_bind_eq_ok, state_pure_eq_ok] at h
    obtain ⟨te, t, -, rfl, -⟩ := h
    rfl

/-- In canonical order the invocations come first. -/
lemma arrange_eq_cons {parts : List Source.Part} (h : invocationCount parts = 1) :
    ∃ first rest, PartOrder.canonical.arrange Source.Part.rank parts = first :: rest ∧
      (first.rank == 0) = true ∧ ∀ part ∈ rest, (part.rank == 0) = false := by
  have hlength : (parts.filter fun part => part.rank == 0).length = 1 := by
    rw [← List.countP_eq_length_filter]
    exact h
  obtain ⟨first, hfirst⟩ := List.length_eq_one_iff.1 hlength
  have hmem : first ∈ parts.filter fun part => part.rank == 0 := by
    rw [hfirst]
    exact List.mem_singleton_self first
  have hrange : List.range 4 = [0, 1, 2, 3] := rfl
  refine ⟨first, [1, 2, 3].flatMap fun r => parts.filter fun part => part.rank == r, ?_,
    (List.mem_filter.1 hmem).2, fun part hpart => ?_⟩
  · rw [PartOrder.arrange, byRank, hrange, List.flatMap_cons, hfirst, List.singleton_append]
  · obtain ⟨r, hr, hpart⟩ := List.mem_flatMap.1 hpart
    have hrank : part.rank = r := beq_iff_eq.1 (List.mem_filter.1 hpart).2
    rw [hrank, beq_eq_false_iff_ne]
    rintro rfl
    simp at hr

lemma checkClause_introduces (sort : Section) (parts : List Source.Part) :
    (checkClause ctx sort parts).Introduces fun found => found.flatMap Part.touches := by
  intro names s s' found hs h
  unfold checkClause at h
  split at h
  · cases h
  · exact Check.forAll_introduces (checkPart_introduces ctx sort) _ hs h

lemma forall_forAll {α β : Type} {f : α → Check β} {P : β → Prop} {items : List α}
    (hf : ∀ {a b s s'}, a ∈ items → f a s = .ok b s' → P b) {found : List β}
    {s s' : CheckState} (h : Check.forAll f items s = .ok found s') : ∀ b ∈ found, P b := by
  induction items generalizing found s with
  | nil =>
    cases h
    exact fun _ hb => (List.not_mem_nil hb).elim
  | cons item rest ih =>
    simp only [Check.forAll, state_bind_eq_ok, state_pure_eq_ok] at h
    obtain ⟨b, t, hb, others, t', hothers, rfl, rfl⟩ := h
    intro c hc
    rcases List.mem_cons.1 hc with rfl | hc
    · exact hf List.mem_cons_self hb
    · exact ih (fun ha => hf (List.mem_cons_of_mem _ ha)) hothers c hc

lemma checkClause_startsWithInvocation {sort : Section} {parts : List Source.Part}
    {found : List Part} {s s' : CheckState} (h : checkClause ctx sort parts s = .ok found s') :
    StartsWithInvocation found := by
  unfold checkClause at h
  split at h
  · cases h
  · rename_i hcount
    obtain ⟨first, rest, harrange, hfirst, hrest⟩ := arrange_eq_cons (Decidable.not_not.1 hcount)
    simp only [harrange, Check.forAll, state_bind_eq_ok, state_pure_eq_ok] at h
    obtain ⟨part, t, hpart, others, t', hothers, rfl, rfl⟩ := h
    have hinvocation := (checkPart_isInvocation ctx hpart).trans hfirst
    have hothers := forall_forAll (P := fun part => part.isInvocation = false)
      (fun hmem hpart => (checkPart_isInvocation ctx hpart).trans (hrest _ hmem)) hothers
    cases part with
    | invocation i => exact ⟨i, others, rfl, hothers⟩
    | _ => cases hinvocation

end Clauses

section Actions

variable (ctx : Context)

lemma checkArguments_introduces (channel : ChannelRef) (params : List Source.Expr) (types : List Ty)
    (index : Nat) : (checkArguments ctx channel index params types).Introduces fun found =>
      (found.filterMap id).map .reads := by
  induction params generalizing types index with
  | nil =>
    intro names s s' found hs h
    cases h
    exact Scope.follows_nil hs
  | cons param params ih =>
    intro names s s' found hs h
    cases types with
    | nil =>
      have hnil : checkArguments ctx channel index (param :: params) [] = pure [] := by
        cases param <;> rfl
      rw [hnil] at h
      cases h
      exact Scope.follows_nil hs
    | cons ty types =>
      cases param with
      | null =>
        simp only [checkArguments, state_bind_eq_ok, state_pure_eq_ok] at h
        obtain ⟨rest, t, hrest, rfl, rfl⟩ := h
        have hfollows := ih types (index + 1) hs hrest
        exact hfollows
      | _ =>
        simp only [checkArguments, state_bind_eq_ok, state_pure_eq_ok] at h
        obtain ⟨te, t₁, hte, agreed, t₂, hagreed, rest, t₃, hrest, rfl, rfl⟩ := h
        have hexpr := Check.expr_introduces ctx _ hs hte
        rw [← Check.agree_eq_ok hagreed] at hexpr
        exact hexpr.append (ih types (index + 1) hexpr.shows hrest)

lemma follows_actionOf {channel : ChannelRef} {params : List (Option Expr)} {action : Action}
    {scope : Scope} {names : List String} (h : actionOf channel params = .ok action)
    (hfollows : scope.Follows names ((params.filterMap id).map .reads)) :
    scope.Follows names action.touches := by
  unfold actionOf at h
  split at h
  · split at h
    · cases h
      refine ⟨⟨hfollows.order.1, trivial⟩, fun expr hexpr => ?_, ?_⟩
      · cases List.mem_singleton.1 hexpr
        exact hfollows.normal _ List.mem_cons_self
      have hshows := hfollows.shows
      rw [declared_map_reads] at hshows
      exact hshows
    · cases h
  · cases h
    exact hfollows

lemma checkAction_introduces (part : Source.Part) :
    (checkAction ctx part).Introduces Action.touches := by
  intro names s s' action hs h
  cases part with
  | invocation i =>
    simp only [checkAction, checkActionInvocation, state_bind_eq_ok] at h
    obtain ⟨⟨channel, types⟩, t, hresolve, h⟩ := h
    rw [← (Check.ofNoted_eq_ok hresolve).2] at hs
    split at h
    · simp only [state_bind_eq_ok] at h
      obtain ⟨_, _, hthrow, -⟩ := h
      exact absurd hthrow state_throw_ne_ok
    · simp only [state_bind_eq_ok] at h
      obtain ⟨params, t', hparams, haction⟩ := h
      obtain ⟨haction, hscope⟩ := Check.ofNoted_eq_ok haction
      rw [hscope]
      exact follows_actionOf haction (checkArguments_introduces ctx channel _ types 0 hs hparams)
  | binding name e =>
    simp only [checkAction, checkKeywordWrite, state_bind_eq_ok, state_pure_eq_ok] at h
    obtain ⟨scope, t₁, hscope, ⟨cell, ty⟩, t₂, hcell, te, t₃, hte, agreed, t₄, hagreed, rfl,
      rfl⟩ := h
    obtain ⟨rfl, rfl⟩ := Check.scope_eq_ok hscope
    rw [← (Check.ofNoted_eq_ok hcell).2] at hs
    rw [Check.agree_eq_ok hagreed]
    exact Check.expr_introduces ctx e hs hte
  | predicate e => cases h
  | condition e => cases h

end Actions

section Programs

lemma declareModuleNames_shows {ctx : Context} {module : String} {moduleNames : List String}
    {names : List String} {u : PUnit} {s s' : CheckState} (hs : s.scope.Shows names)
    (h : declareModuleNames ctx module moduleNames s = .ok u s') : s'.scope.Shows names := by
  induction moduleNames generalizing s with
  | nil =>
    cases h
    exact hs
  | cons name rest ih =>
    simp only [declareModuleNames, state_bind_eq_ok] at h
    obtain ⟨_, t, hdeclare, hrest⟩ := h
    exact ih (hs.declare_other (by simp) (Check.declare_eq_ok hdeclare)) hrest

lemma checkTrigger_introduces (ctx : Context) (source : Option (List Source.Part)) :
    (checkTrigger ctx source).Introduces fun trigger =>
      (trigger.getD []).flatMap Part.touches := by
  intro names s s' trigger hs h
  cases source with
  | none =>
    cases h
    exact Scope.follows_nil hs
  | some parts =>
    simp only [checkTrigger, state_bind_eq_ok, state_pure_eq_ok] at h
    obtain ⟨found, t, hfound, rfl, rfl⟩ := h
    exact checkClause_introduces ctx .triggers parts hs hfound

lemma checkTrigger_startsWithInvocation {ctx : Context} {source : Option (List Source.Part)}
    {trigger : Option (List Part)} {s s' : CheckState}
    (h : checkTrigger ctx source s = .ok trigger s') :
    ∀ parts ∈ trigger, StartsWithInvocation parts := by
  intro parts hparts
  cases source with
  | none =>
    cases h
    cases hparts
  | some written =>
    simp only [checkTrigger, state_bind_eq_ok, state_pure_eq_ok] at h
    obtain ⟨found, t, hfound, rfl, rfl⟩ := h
    cases hparts
    exact checkClause_startsWithInvocation ctx hfound

/-- The stages of checking a rule, after the keywords of its compute module are in scope. -/
lemma checkRuleBody_eq_ok {ctx : Context} {modules : Named (List String)} {source : RuleSource}
    {id : Nat} {rule : Rule} {names : List String} {s s' : CheckState} (hs : s.scope.Shows names)
    (h : checkRuleBody ctx modules source id s = .ok rule s') :
    ∃ t, t.scope.Shows names ∧ ∃ t₁ t₂ t₃,
      checkTrigger ctx source.trigger t = .ok rule.trigger t₁ ∧
      Check.forAll (checkClause ctx .queries) source.queries t₁ = .ok rule.queries t₂ ∧
      checkActions ctx source.actions t₂ = .ok rule.actions t₃ := by
  obtain ⟨-, t, t₁, t₂, t₃, houtside, hinside, hstages⟩ := checkRuleBody_stages ctx h
  refine ⟨t, ?_, t₁, t₂, t₃, hstages⟩
  cases hmodule : source.module with
  | none =>
    rw [houtside hmodule]
    exact hs
  | some module =>
    obtain ⟨u, hdeclare⟩ := hinside module hmodule
    exact declareModuleNames_shows hs hdeclare

/-- A checked rule is well scoped, and its expressions are in base units. -/
theorem checkRuleBody_wellScoped {ctx : Context} {modules : Named (List String)}
    {source : RuleSource} {id : Nat} {rule : Rule} {names : List String} {s s' : CheckState}
    (hs : s.scope.Shows names) (h : checkRuleBody ctx modules source id s = .ok rule s') :
    rule.WellScoped names ∧ AllNormal rule.touches := by
  obtain ⟨t, ht, t₁, t₂, t₃, htrigger, hqueries, hactions⟩ := checkRuleBody_eq_ok hs h
  have h₁ := checkTrigger_introduces ctx _ ht htrigger
  have h₂ := h₁.append
    (Check.forAll_introduces (checkClause_introduces ctx .queries) _ h₁.shows hqueries)
  have h₃ := h₂.append (Check.forAll_introduces (checkAction_introduces ctx) _ h₂.shows hactions)
  have hflatten : rule.queries.flatten.flatMap Part.touches =
      rule.queries.flatMap fun parts => parts.flatMap Part.touches := by
    rw [← List.flatMap_id, List.flatMap_assoc]
    rfl
  have hfollows : t₃.scope.Follows names rule.touches := by
    rw [Rule.touches, hflatten]
    exact h₃
  exact ⟨⟨hfollows.order, checkTrigger_startsWithInvocation htrigger,
    forall_forAll (fun _ h => checkClause_startsWithInvocation ctx h) hqueries⟩, hfollows.normal⟩

lemma declareParams_shows {params : List (String × Ty)} {names : List String} {u : PUnit}
    {s s' : CheckState} (hs : s.scope.Shows names) (h : declareParams params s = .ok u s') :
    s'.scope.Shows (names ++ params.map Prod.fst) := by
  induction params generalizing s names with
  | nil =>
    cases h
    rw [List.map_nil, List.append_nil]
    exact hs
  | cons param rest ih =>
    simp only [declareParams, state_bind_eq_ok] at h
    obtain ⟨_, t, hdeclare, hrest⟩ := h
    have hshows := ih (hs.declare (.inl rfl) (Check.declare_eq_ok hdeclare)).2 hrest
    rw [List.append_assoc] at hshows
    exact hshows

lemma declareTopLevel_shows {statements : List Source.Statement} {keywords found : Named Ty}
    {names : List String} {s s' : CheckState} (hs : s.scope.Shows names)
    (h : declareTopLevel keywords statements s = .ok found s') : s'.scope.Shows names := by
  induction statements generalizing s keywords with
  | nil =>
    cases h
    exact hs
  | cons statement rest ih =>
    cases statement with
    | keyword name ty =>
      simp only [declareTopLevel, state_bind_eq_ok] at h
      obtain ⟨_, t, hdeclare, hrest⟩ := h
      exact ih (hs.declare_other (by simp) (Check.declare_eq_ok hdeclare)) hrest
    | computeModule name statements =>
      simp only [declareTopLevel, state_bind_eq_ok] at h
      obtain ⟨_, t, hdeclare, hrest⟩ := h
      exact ih (hs.declare_other (by simp) (Check.declare_eq_ok hdeclare)) hrest
    | rule _ _ _ | command _ _ => exact ih hs h

/-- The variables in scope after the declarations are the parameters. -/
lemma checkDeclarations_shows {program : Source.Program} {declarations : Declarations}
    {s : CheckState} (h : checkDeclarations program ⟨.empty, []⟩ = .ok declarations s) :
    s.scope.Shows (program.params.map Prod.fst) := by
  simp only [checkDeclarations, state_bind_eq_ok, state_pure_eq_ok] at h
  obtain ⟨_, t₁, hparams, topLevel, t₂, htop, shown, t₃, hscope, ⟨_, _⟩, t₄, hmodules, -, rfl⟩ := h
  obtain ⟨rfl, rfl⟩ := Check.scope_eq_ok hscope
  rw [(Check.ofNoted_eq_ok hmodules).2]
  exact declareTopLevel_shows (declareParams_shows Scope.shows_empty hparams) htop

/-- All rules of a checked program are well scoped: at their start they know the parameters. Their
expressions are in base units. -/
theorem checkProgram_wellScoped {kinds : Named KindSchemas} {program : Source.Program}
    {typed : Typed.Program} (h : (checkProgram kinds program).result = .ok typed) :
    ∀ rule ∈ typed.rules,
      rule.WellScoped (typed.params.map Prod.fst) ∧ AllNormal rule.touches := by
  obtain ⟨modules, s, hdeclarations, hparams, hrules⟩ := checkProgram_eq_ok h
  intro rule hrule
  obtain ⟨source, id, t, t', ht, hbody⟩ := hrules rule hrule
  have hshows := (checkDeclarations_shows hdeclarations).enter
  rw [← ht, ← hparams] at hshows
  exact checkRuleBody_wellScoped hshows hbody

end Programs

end ChannelRules
