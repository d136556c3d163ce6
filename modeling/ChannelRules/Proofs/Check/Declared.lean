import ChannelRules.Proofs.Check.Scoped

/-!
# The types of the names that a rule introduces

The checker gives every name that a trigger or query introduces a type: a parameter of an invocation
has the type in the schema of its channel, a group of a pattern is a text, an element has the
element type of its container, and a binding has the type of its expression. The types stay in
scope, so an expression that reads the name has been checked with that type.
-/

namespace ChannelRules

/-- The types of the parameters of a channel. -/
def ChannelRef.schema? (ctx : Context) (channel : ChannelRef) : Option (List Ty) :=
  match channelTypes ctx channel.selector channel.channel channel.sort with
  | .ok (_, types) => some types
  | .error _ => none

namespace Typed

open Touch

def Binder.bind? : Binder → Option (String × Ty)
  | declare name ty => some (name, ty)
  | expect _ => none

def Predicate.binds : Predicate → List (String × Ty)
  | regex _ _ _ captures => captures.filterMap Binder.bind?
  | contains _ element => element.bind?.toList
  | test _ => []

/-- The names that a part introduces, with their types. -/
def Part.binds : Part → List (String × Ty)
  | invocation i => (i.params.filterMap id).filterMap Binder.bind?
  | binding name expr => [(name, expr.ty)]
  | predicate p => p.binds
  | condition _ => []

lemma names_binders (binders : List Binder) :
    (binders.filterMap Binder.bind?).map Prod.fst = declared (binders.map Binder.touch) := by
  rw [declared, List.map_filterMap, List.filterMap_map]
  congr 1
  funext binder
  cases binder <;> rfl

/-- The names with types are the names that a part introduces. -/
lemma Part.names_binds (part : Part) : part.binds.map Prod.fst = declared part.touches := by
  match part with
  | .invocation i => exact names_binders _
  | .binding name expr => rfl
  | .predicate (.regex value pattern flags captures) => exact names_binders captures
  | .predicate (.contains container (.declare name ty)) => rfl
  | .predicate (.contains container (.expect expr)) => rfl
  | .predicate (.test expr) => rfl
  | .condition expr => rfl

end Typed

open Typed

/-- A scope has the names of another one and new names with their types. -/
structure Scope.Grows (scope scope' : Scope) (vars : List (String × Ty)) : Prop where
  new : ∀ var ∈ vars, scope.get? var.1 = none
  get : ∀ name entry, scope'.get? name = some entry ↔
    scope.get? name = some entry ∨ ∃ ty, (name, ty) ∈ vars ∧ entry = ⟨ty, .introduced⟩

section Grows

variable {scope scope' scope'' : Scope}

lemma Scope.Grows.refl (scope : Scope) : scope.Grows scope [] where
  new := fun _ hvar => (List.not_mem_nil hvar).elim
  get := fun name entry => by simp

lemma Scope.Grows.append {xs ys : List (String × Ty)} (hx : scope.Grows scope' xs)
    (hy : scope'.Grows scope'' ys) : scope.Grows scope'' (xs ++ ys) := by
  constructor
  · intro var hvar
    rcases List.mem_append.1 hvar with hvar | hvar
    · exact hx.new var hvar
    · cases hget : scope.get? var.1 with
      | none => rfl
      | some entry =>
        have hkept := (hx.get var.1 entry).2 (.inl hget)
        rw [hy.new var hvar] at hkept
        cases hkept
  · intro name entry
    rw [hy.get, hx.get]
    simp only [List.mem_append, or_and_right, exists_or, or_assoc]

lemma Scope.grows_declare {name : String} {ty : Ty}
    (h : scope.declare? name ⟨ty, .introduced⟩ = some scope') :
    scope.Grows scope' [(name, ty)] := by
  obtain ⟨hnone, hself, hother⟩ := get?_declare h
  constructor
  · intro var hvar
    rw [List.mem_singleton.1 hvar]
    exact hnone
  · intro x entry
    by_cases hx : x = name
    · subst hx
      simp [hself, hnone, eq_comm]
    · simp [hother x hx, hx]

end Grows

/-- What the checker has found out about a part that it has checked in a scope. -/
inductive SoundPart (ctx : Context) (scope : Scope) : Part → Prop
  | invocation {i : Invocation} {types : List Ty} (hschema : i.channel.schema? ctx = some types)
      (hlength : i.params.length = types.length)
      (hslots : ∀ (index : Nat) (name : String) (ty : Ty),
        i.params[index]? = some (some (.declare name ty)) → types[index]? = some ty) :
    SoundPart ctx scope (.invocation i)
  | binding {name : String} {expr : Expr} (hexpr : Checked scope ctx.keywords expr) :
    SoundPart ctx scope (.binding name expr)
  | regex {value pattern flags : Expr} {captures : List Binder}
      (hcaptures : ∀ name ty, .declare name ty ∈ captures → ty = .string) :
    SoundPart ctx scope (.predicate (.regex value pattern flags captures))
  | contains {container : Expr} {element : Binder}
      (hcontainer : Checked scope ctx.keywords container)
      (helement : ∀ name ty, element = .declare name ty → elementType container.ty = .ok ty) :
    SoundPart ctx scope (.predicate (.contains container element))
  | test (expr : Expr) : SoundPart ctx scope (.predicate (.test expr))
  | condition (expr : Expr) : SoundPart ctx scope (.condition expr)

/-- Parts that have been checked one after the other, the first of them in the given scope. -/
inductive SoundParts (ctx : Context) : Scope → List Part → Prop
  | nil (scope : Scope) : SoundParts ctx scope []
  | cons {scope scope' : Scope} {part : Part} {rest : List Part} (hpart : SoundPart ctx scope part)
      (hgrows : scope.Grows scope' part.binds) (hrest : SoundParts ctx scope' rest) :
    SoundParts ctx scope (part :: rest)

section Check

variable {ctx : Context} {s s' : CheckState}

lemma Check.expr_eq_ok {e : Source.Expr} {te : Expr} (h : Check.expr ctx e s = .ok te s') :
    Checked s.scope ctx.keywords te ∧ s'.scope = s.scope := by
  simp only [Check.expr, state_bind_eq_ok] at h
  obtain ⟨scope, t, hscope, h⟩ := h
  obtain ⟨rfl, rfl⟩ := Check.scope_eq_ok hscope
  obtain ⟨hte, hscope'⟩ := Check.ofNoted_eq_ok h
  exact ⟨checkExpr_checked _ _ e hte, hscope'⟩

lemma checkText_scope {e : Source.Expr} {te : Expr} (h : checkText ctx e s = .ok te s') :
    s'.scope = s.scope := by
  simp only [checkText, state_bind_eq_ok] at h
  obtain ⟨typed, t, htyped, h⟩ := h
  split at h
  · cases h
    exact (Check.expr_eq_ok htyped).2
  · cases h

lemma checkTruth_scope {e : Source.Expr} {te : Expr} (h : checkTruth ctx e s = .ok te s') :
    s'.scope = s.scope := by
  simp only [checkTruth, state_bind_eq_ok, state_pure_eq_ok] at h
  obtain ⟨typed, t, htyped, agreed, t', hagreed, rfl, rfl⟩ := h
  rw [Check.agree_eq_ok hagreed]
  exact (Check.expr_eq_ok htyped).2

/-- A place that introduces a name gives it the type of the place. -/
lemma checkBinder_eq_ok {ty agreed : Ty} {mismatch : Ty → CheckError} {e : Source.Expr}
    {binder : Binder} (h : checkBinder ctx ty mismatch e s = .ok (binder, agreed) s') :
    s.scope.Grows s'.scope binder.bind?.toList ∧
      ∀ name given, binder = .declare name given → given = ty := by
  simp only [checkBinder, state_bind_eq_ok] at h
  obtain ⟨scope, t, hscope, h⟩ := h
  obtain ⟨rfl, rfl⟩ := Check.scope_eq_ok hscope
  cases hfresh : freshName? t.scope e with
  | some name =>
    simp only [hfresh, state_bind_eq_ok, state_pure_eq_ok] at h
    obtain ⟨_, t', hdeclare, heq, rfl⟩ := h
    cases heq
    refine ⟨Scope.grows_declare (Check.declare_eq_ok hdeclare), ?_⟩
    rintro name given ⟨⟩
    rfl
  | none =>
    simp only [hfresh, state_bind_eq_ok, state_pure_eq_ok] at h
    obtain ⟨typed, t', htyped, found, t'', hagreed, heq, rfl⟩ := h
    cases heq
    rw [Check.agree_eq_ok hagreed, (Check.expr_eq_ok htyped).2]
    exact ⟨.refl _, fun name given heq => nomatch heq⟩

lemma checkSlot_eq_ok {channel : ChannelRef} {index : Nat} {ty agreed : Ty} {e : Source.Expr}
    {binder : Option Binder} (h : checkSlot ctx channel index ty e s = .ok (binder, agreed) s') :
    s.scope.Grows s'.scope (binder.toList.filterMap Binder.bind?) ∧
      ∀ name given, binder = some (.declare name given) → given = ty := by
  unfold checkSlot at h
  split at h
  · cases h
    exact ⟨.refl _, fun name given heq => nomatch heq⟩
  · simp only [state_bind_eq_ok, state_pure_eq_ok] at h
    obtain ⟨⟨found, _⟩, t, hbinder, heq, rfl⟩ := h
    cases heq
    obtain ⟨hgrows, hty⟩ := checkBinder_eq_ok hbinder
    refine ⟨?_, fun name given heq => hty name given (Option.some.inj heq)⟩
    cases found with
    | declare name given => exact hgrows
    | expect expr => exact hgrows

/-- Each parameter of an invocation that introduces a name has the type of the schema. -/
lemma checkSlots_eq_ok {channel : ChannelRef} {types : List Ty} {index : Nat}
    {params : List Source.Expr} {slots : List (Option Binder × Ty)}
    (h : checkSlots ctx channel index types params s = .ok slots s') :
    s.scope.Grows s'.scope (((slots.map Prod.fst).filterMap id).filterMap Binder.bind?) ∧
      slots.length = types.length ∧
      ∀ (i : Nat) (name : String) (ty : Ty),
        (slots.map Prod.fst)[i]? = some (some (.declare name ty)) → types[i]? = some ty := by
  induction types generalizing index params slots s with
  | nil =>
    cases h
    exact ⟨.refl _, rfl, fun i name ty hslot => by simp at hslot⟩
  | cons ty types ih =>
    simp only [checkSlots, state_bind_eq_ok, state_pure_eq_ok] at h
    obtain ⟨⟨binder, agreed⟩, t, hslot, slots, t', hslots, rfl, rfl⟩ := h
    obtain ⟨hfirst, hty⟩ := checkSlot_eq_ok hslot
    obtain ⟨hrest, hlength, htypes⟩ := ih hslots
    refine ⟨?_, congrArg (· + 1) hlength, ?_⟩
    · cases binder with
      | none => exact hfirst.append hrest
      | some binder =>
        have hbinds : (((((some binder, agreed) :: slots).map Prod.fst).filterMap id).filterMap
            Binder.bind?) = [binder].filterMap Binder.bind? ++
              ((slots.map Prod.fst).filterMap id).filterMap Binder.bind? := by
          rw [← List.filterMap_append]
          rfl
        rw [hbinds]
        exact hfirst.append hrest
    · intro i name given hslot
      cases i with
      | zero => exact congrArg some (hty name given (Option.some.inj hslot)).symm
      | succ i => exact htypes i name given hslot

lemma checkInvocation_sound {sort : Section} {invocation : Source.Invocation} {part : Part}
    (h : checkInvocation ctx sort invocation s = .ok part s') :
    SoundPart ctx s.scope part ∧ s.scope.Grows s'.scope part.binds := by
  simp only [checkInvocation, state_bind_eq_ok] at h
  obtain ⟨⟨channel, types⟩, t, hresolve, h⟩ := h
  obtain ⟨hresolve, hscope⟩ := Check.ofNoted_eq_ok hresolve
  have hschema : channel.schema? ctx = some types := by
    simp only [resolveChannel, Noted.result_ofExcept, bind_eq_ok, pure_eq_ok] at hresolve
    obtain ⟨⟨kind, found⟩, htypes, heq⟩ := hresolve
    cases heq
    rw [ChannelRef.schema?, htypes]
  split at h
  · simp only [state_bind_eq_ok] at h
    obtain ⟨_, _, hthrow, -⟩ := h
    exact absurd hthrow state_throw_ne_ok
  · simp only [state_bind_eq_ok, state_pure_eq_ok] at h
    obtain ⟨slots, t', hslots, rfl, rfl⟩ := h
    obtain ⟨hgrows, hlength, hslots⟩ := checkSlots_eq_ok hslots
    rw [hscope] at hgrows
    exact ⟨.invocation hschema ((List.length_map _).trans hlength) hslots, hgrows⟩

lemma checkCaptures_eq_ok {mismatch : Ty → CheckError} {es : List Source.Expr}
    {found : List (Binder × Ty)}
    (h : Check.forAll (checkBinder ctx .string mismatch) es s = .ok found s') :
    s.scope.Grows s'.scope ((found.map Prod.fst).filterMap Binder.bind?) ∧
      ∀ name ty, .declare name ty ∈ found.map Prod.fst → ty = .string := by
  induction es generalizing found s with
  | nil =>
    cases h
    exact ⟨.refl _, fun _ _ hmem => (List.not_mem_nil hmem).elim⟩
  | cons e rest ih =>
    simp only [Check.forAll, state_bind_eq_ok, state_pure_eq_ok] at h
    obtain ⟨⟨binder, agreed⟩, t, hbinder, others, t', hothers, rfl, rfl⟩ := h
    obtain ⟨hfirst, hty⟩ := checkBinder_eq_ok hbinder
    obtain ⟨hrest, htypes⟩ := ih hothers
    constructor
    · have hall := hfirst.append hrest
      cases binder with
      | declare name given => exact hall
      | expect expr => exact hall
    · intro name ty hmem
      rcases List.mem_cons.1 hmem with heq | hmem
      · exact hty name ty heq.symm
      · exact htypes name ty hmem

lemma checkPredicate_sound {e : Source.Expr} {predicate : Predicate}
    (h : checkPredicate ctx e s = .ok predicate s') :
    SoundPart ctx s.scope (.predicate predicate) ∧ s.scope.Grows s'.scope predicate.binds := by
  unfold checkPredicate at h
  split at h
  · simp only [state_bind_eq_ok, state_pure_eq_ok] at h
    obtain ⟨value, t₁, hvalue, pattern, t₂, hpattern, flags, t₃, hflags, captures, t₄, hcaptures,
      rfl, rfl⟩ := h
    obtain ⟨hgrows, htypes⟩ := checkCaptures_eq_ok hcaptures
    rw [checkText_scope hflags, checkText_scope hpattern, checkText_scope hvalue] at hgrows
    exact ⟨.regex htypes, hgrows⟩
  · simp only [state_bind_eq_ok, state_pure_eq_ok] at h
    obtain ⟨container, t₁, hcontainer, elem, t₂, helem, ⟨element, agreed⟩, t₃, helement, rfl,
      rfl⟩ := h
    obtain ⟨hchecked, hscope⟩ := Check.expr_eq_ok hcontainer
    obtain ⟨helem, hscope'⟩ := Check.ofNoted_eq_ok helem
    obtain ⟨hgrows, hty⟩ := checkBinder_eq_ok helement
    rw [hscope', hscope] at hgrows
    refine ⟨.contains hchecked fun name ty heq => ?_, hgrows⟩
    rw [hty name ty heq]
    exact helem
  · simp only [state_bind_eq_ok, state_pure_eq_ok] at h
    obtain ⟨typed, t, htyped, rfl, rfl⟩ := h
    rw [checkTruth_scope htyped]
    exact ⟨.test typed, .refl _⟩

lemma checkPart_sound {sort : Section} {part : Source.Part} {typed : Part}
    (h : checkPart ctx sort part s = .ok typed s') :
    SoundPart ctx s.scope typed ∧ s.scope.Grows s'.scope typed.binds := by
  cases part with
  | invocation i => exact checkInvocation_sound h
  | predicate e =>
    simp only [checkPart, state_bind_eq_ok, state_pure_eq_ok] at h
    obtain ⟨predicate, t, hpredicate, rfl, rfl⟩ := h
    exact checkPredicate_sound hpredicate
  | binding name e =>
    simp only [checkPart, state_bind_eq_ok, state_pure_eq_ok] at h
    obtain ⟨te, t, hte, _, t', hdeclare, rfl, rfl⟩ := h
    obtain ⟨hchecked, hscope⟩ := Check.expr_eq_ok hte
    have hgrows := Scope.grows_declare (Check.declare_eq_ok hdeclare)
    rw [hscope] at hgrows
    exact ⟨.binding hchecked, hgrows⟩
  | condition e =>
    simp only [checkPart, state_bind_eq_ok, state_pure_eq_ok] at h
    obtain ⟨te, t, hte, rfl, rfl⟩ := h
    rw [checkTruth_scope hte]
    exact ⟨.condition te, .refl _⟩

lemma checkClause_sound {sort : Section} {parts : List Source.Part} {found : List Part}
    (h : checkClause ctx sort parts s = .ok found s') : SoundParts ctx s.scope found := by
  have hparts : ∀ {parts : List Source.Part} {found : List Part} {s : CheckState},
      Check.forAll (checkPart ctx sort) parts s = .ok found s' → SoundParts ctx s.scope found := by
    intro parts
    induction parts with
    | nil =>
      intro found s h
      cases h
      exact .nil _
    | cons part rest ih =>
      intro found s h
      simp only [Check.forAll, state_bind_eq_ok, state_pure_eq_ok] at h
      obtain ⟨typed, t, htyped, others, t', hothers, rfl, rfl⟩ := h
      obtain ⟨hsound, hgrows⟩ := checkPart_sound htyped
      exact .cons hsound hgrows (ih hothers)
  unfold checkClause at h
  split at h
  · cases h
  · exact hparts h

end Check

/-- The trigger of a rule, or one of its queries. -/
def Typed.Rule.clauses (rule : Rule) : List (List Part) := rule.trigger.toList ++ rule.queries

/-- The trigger and the queries of a checked rule are sound. -/
lemma checkRuleBody_sound {ctx : Context} {modules : Named (List String)} {source : RuleSource}
    {id : Nat} {rule : Rule} {names : List String} {s s' : CheckState} (hs : s.scope.Shows names)
    (h : checkRuleBody ctx modules source id s = .ok rule s') :
    ∀ parts ∈ rule.clauses, ∃ scope, SoundParts ctx scope parts := by
  obtain ⟨t, -, t₁, t₂, t₃, htrigger, hqueries, -⟩ := checkRuleBody_eq_ok hs h
  intro parts hparts
  rcases List.mem_append.1 hparts with hparts | hparts
  · cases hsource : source.trigger with
    | none =>
      rw [hsource] at htrigger
      obtain ⟨hnone, -⟩ := state_pure_eq_ok.1 htrigger
      rw [← hnone] at hparts
      cases hparts
    | some written =>
      simp only [hsource, checkTrigger, state_bind_eq_ok, state_pure_eq_ok] at htrigger
      obtain ⟨found, t', hfound, hsome, -⟩ := htrigger
      rw [← hsome, Option.toList_some] at hparts
      rw [List.mem_singleton.1 hparts]
      exact ⟨_, checkClause_sound hfound⟩
  · refine forall_forAll (P := fun parts => ∃ scope, SoundParts ctx scope parts) ?_ hqueries
      parts hparts
    exact fun _ h => ⟨_, checkClause_sound h⟩

/-- The triggers and queries of a checked program are sound. -/
theorem checkProgram_sound {kinds : Named KindSchemas} {program : Source.Program}
    {typed : Typed.Program} (h : (checkProgram kinds program).result = .ok typed) :
    ∀ rule ∈ typed.rules, ∀ parts ∈ rule.clauses,
      ∃ scope, SoundParts ⟨kinds, typed.keywords⟩ scope parts := by
  obtain ⟨modules, s, hdeclarations, -, hrules⟩ := checkProgram_eq_ok h
  intro rule hrule
  obtain ⟨source, id, t, t', ht, hbody⟩ := hrules rule hrule
  have hshows := (checkDeclarations_shows hdeclarations).enter
  rw [← ht] at hshows
  exact checkRuleBody_sound hshows hbody

end ChannelRules
