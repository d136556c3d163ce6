import ChannelRules.Check.Program
import ChannelRules.Proofs.Sequence
import Mathlib.Data.List.Forall2

/-!
# Layers of names

A check looks at the names in scope, brings names into the innermost layer and gives notices. It
does not look at the notices given before, and it leaves the layers around the innermost one alone.
A layer that is opened for a rule therefore takes with it everything that the rule has declared, and
the rules of a program are checked as if each of them came right after the declarations.
-/

namespace ChannelRules

namespace Check

variable {α β : Type}

lemma ofNoted_eq_ok {x : Noted CheckError α} {a : α} {s s' : CheckState}
    (h : ofNoted x s = .ok a s') : x.result = .ok a ∧ s'.scope = s.scope := by
  unfold ofNoted at h
  split at h
  · rename_i b hb
    cases h
    exact ⟨hb, rfl⟩
  · cases h

lemma declare_eq_ok {name : String} {entry : Entry} {u : PUnit} {s s' : CheckState}
    (h : declare name entry s = .ok u s') : s.scope.declare? name entry = some s'.scope := by
  unfold declare at h
  split at h
  · rename_i scope hscope
    cases h
    exact hscope
  · cases h

lemma scope_eq_ok {scope : Scope} {s s' : CheckState} (h : Check.scope s = .ok scope s') :
    scope = s.scope ∧ s' = s := by
  cases h
  exact ⟨rfl, rfl⟩

lemma agree_eq_ok {a b c : Ty} {reason : TypeError → CheckError} {s s' : CheckState}
    (h : agree a b reason s = .ok c s') : s'.scope = s.scope :=
  (ofNoted_eq_ok h).2

lemma run_eq_ok_iff {x : Check α} {scope : Scope} {a : α} :
    (x.run scope).result = .ok a ↔ ∃ s', x ⟨scope, []⟩ = .ok a s' := by
  unfold run
  cases x ⟨scope, []⟩ with
  | ok b s =>
    constructor
    · rintro ⟨⟩
      exact ⟨s, rfl⟩
    · rintro ⟨s', ⟨⟩⟩
      rfl
  | error e s =>
    constructor
    · rintro ⟨⟩
    · rintro ⟨s', ⟨⟩⟩

/-- The end of a check with the given outcome. -/
def ended (s : CheckState) : Except CheckError α → EStateM.Result CheckError CheckState α
  | .ok a => .ok a s
  | .error e => .error e s

/-- A check whose outcome depends on the names in scope only, and that leaves the layers around the
innermost one as they are. -/
def Confined (x : Check α) : Prop :=
  ∀ scope, ∃ outcome scope' added, scope'.outer = scope.outer ∧
    ∀ notices, x ⟨scope, notices⟩ = ended ⟨scope', notices ++ added⟩ outcome

lemma confined_ended (outcome : Except CheckError α) : Confined fun s => ended s outcome :=
  fun scope => ⟨outcome, scope, [], rfl, fun notices => by rw [List.append_nil]⟩

lemma confined_pure (a : α) : Confined (pure a : Check α) := confined_ended (.ok a)

lemma confined_throw (e : CheckError) : Confined (throw e : Check α) := confined_ended (.error e)

lemma Confined.bind {x : Check α} {f : α → Check β} (hx : Confined x) (hf : ∀ a, Confined (f a)) :
    Confined (x >>= f) := by
  intro scope
  obtain ⟨outcome, scope₁, added₁, houter₁, hrun₁⟩ := hx scope
  cases outcome with
  | error e =>
    refine ⟨.error e, scope₁, added₁, houter₁, fun notices => ?_⟩
    change EStateM.bind x f _ = _
    rw [EStateM.bind, hrun₁]
    rfl
  | ok a =>
    obtain ⟨outcome, scope₂, added₂, houter₂, hrun₂⟩ := hf a scope₁
    refine ⟨outcome, scope₂, added₁ ++ added₂, houter₂.trans houter₁, fun notices => ?_⟩
    change EStateM.bind x f _ = _
    rw [EStateM.bind, hrun₁, ← List.append_assoc]
    exact hrun₂ (notices ++ added₁)

lemma confined_scope : Confined scope :=
  fun scope => ⟨.ok scope, scope, [], rfl, fun notices => by rw [List.append_nil]; rfl⟩

lemma confined_ofNoted (x : Noted CheckError α) : Confined (ofNoted x) := by
  intro scope
  refine ⟨x.result, scope, x.notices, rfl, fun notices => ?_⟩
  unfold ofNoted
  cases x.result <;> rfl

lemma confined_declare (name : String) (entry : Entry) : Confined (declare name entry) := by
  intro scope
  cases hdeclare : scope.declare? name entry with
  | none =>
    refine ⟨.error (.duplicateDeclaration name), scope, [], rfl, fun notices => ?_⟩
    rw [declare, hdeclare, List.append_nil]
    rfl
  | some scope' =>
    have houter : scope'.outer = scope.outer := by
      unfold Scope.declare? at hdeclare
      split at hdeclare
      · cases hdeclare
      · cases hdeclare
        rfl
    refine ⟨.ok ⟨⟩, scope', [], houter, fun notices => ?_⟩
    rw [declare, hdeclare, List.append_nil]
    rfl

lemma confined_expr (ctx : Context) (e : Source.Expr) : Confined (expr ctx e) :=
  confined_scope.bind fun _ => confined_ofNoted _

lemma confined_agree (a b : Ty) (reason : TypeError → CheckError) : Confined (agree a b reason) :=
  confined_ofNoted _

lemma confined_forAll {f : α → Check β} (hf : ∀ a, Confined (f a)) (items : List α) :
    Confined (forAll f items) := by
  induction items with
  | nil => exact confined_pure []
  | cons item rest ih => exact (hf item).bind fun b => ih.bind fun bs => confined_pure (b :: bs)

/-- What a confined check finds does not depend on the notices given before. -/
lemma Confined.run_eq_ok_iff {x : Check α} (hx : Confined x) {s : CheckState} {a : α} :
    (x.run s.scope).result = .ok a ↔ ∃ s', x s = .ok a s' := by
  rw [Check.run_eq_ok_iff]
  obtain ⟨outcome, scope', added, -, hrun⟩ := hx s.scope
  have hstate : x s = ended ⟨scope', s.notices ++ added⟩ outcome := hrun s.notices
  rw [hrun, hstate]
  cases outcome with
  | ok b =>
    constructor
    · rintro ⟨s', ⟨⟩⟩
      exact ⟨_, rfl⟩
    · rintro ⟨s', ⟨⟩⟩
      exact ⟨_, rfl⟩
  | error e =>
    constructor
    · rintro ⟨s', ⟨⟩⟩
    · rintro ⟨s', ⟨⟩⟩

/-- A layer of its own takes with it what a check has declared: afterwards the names in scope are
those from before. -/
lemma Confined.inLayer_eq_ok {x : Check α} (hx : Confined x) {s s' : CheckState} {a : α}
    (h : x.inLayer s = .ok a s') :
    (x.run s.scope.enter).result = .ok a ∧ s'.scope = s.scope := by
  obtain ⟨outcome, scope', added, houter, hrun⟩ := hx s.scope.enter
  have hexit : scope'.exit = s.scope := by
    rw [Scope.exit, houter]
    rfl
  rw [inLayer, hrun] at h
  rw [run, hrun]
  cases outcome with
  | ok b =>
    cases h
    exact ⟨rfl, hexit⟩
  | error e => cases h

lemma Confined.exists_inLayer {x : Check α} (hx : Confined x) {s : CheckState} {a : α}
    (h : (x.run s.scope.enter).result = .ok a) : ∃ s', x.inLayer s = .ok a s' := by
  obtain ⟨s', hs'⟩ := hx.run_eq_ok_iff (s := { s with scope := s.scope.enter }) |>.1 h
  refine ⟨{ s' with scope := s'.scope.exit }, ?_⟩
  rw [inLayer, hs']

end Check

section Rules

open Check

variable (ctx : Context)

lemma confined_checkBinder (ty : Ty) (mismatch : Ty → CheckError) (e : Source.Expr) :
    Confined (checkBinder ctx ty mismatch e) := by
  refine confined_scope.bind fun scope => ?_
  split
  · exact (confined_declare _ _).bind fun _ => confined_pure _
  · exact (confined_expr ctx e).bind fun _ => (confined_agree _ _ _).bind fun _ => confined_pure _

lemma confined_checkSlot (channel : ChannelRef) (index : Nat) (ty : Ty) (e : Source.Expr) :
    Confined (checkSlot ctx channel index ty e) := by
  unfold checkSlot
  split
  · exact confined_pure _
  · exact (confined_checkBinder ctx ty _ e).bind fun _ => confined_pure _

lemma confined_checkSlots (channel : ChannelRef) (types : List Ty) (index : Nat)
    (params : List Source.Expr) : Confined (checkSlots ctx channel index types params) := by
  induction types generalizing index params with
  | nil => exact confined_pure []
  | cons ty types ih =>
    exact (confined_checkSlot ctx channel index ty _).bind fun _ =>
      (ih (index + 1) params.tail).bind fun _ => confined_pure _

lemma confined_checkInvocation (sort : Section) (invocation : Source.Invocation) :
    Confined (checkInvocation ctx sort invocation) := by
  refine (confined_ofNoted _).bind fun found => ?_
  have hslots := (confined_checkSlots ctx found.1 found.2 0 invocation.params).bind fun slots =>
    confined_pure (Typed.Part.invocation ⟨found.1, slots.map Prod.fst, slots.map Prod.snd⟩)
  dsimp only
  split
  · exact (confined_throw _).bind fun _ => hslots
  · exact (confined_pure PUnit.unit).bind fun _ => hslots

lemma confined_checkText (e : Source.Expr) : Confined (checkText ctx e) := by
  refine (confined_expr ctx e).bind fun typed => ?_
  split
  · exact confined_pure typed
  · exact confined_throw _

lemma confined_checkTruth (e : Source.Expr) : Confined (checkTruth ctx e) :=
  (confined_expr ctx e).bind fun typed => (confined_agree _ _ _).bind fun _ => confined_pure typed

lemma confined_checkPredicate (e : Source.Expr) : Confined (checkPredicate ctx e) := by
  unfold checkPredicate
  split
  · exact (confined_checkText ctx _).bind fun _ => (confined_checkText ctx _).bind fun _ =>
      (confined_checkText ctx _).bind fun _ =>
        (confined_forAll (confined_checkBinder ctx _ _) _).bind fun _ => confined_pure _
  · exact (confined_expr ctx _).bind fun _ => (confined_ofNoted _).bind fun _ =>
      (confined_checkBinder ctx _ _ _).bind fun _ => confined_pure _
  · exact (confined_checkTruth ctx _).bind fun _ => confined_pure _

lemma confined_checkPart (sort : Section) (part : Source.Part) :
    Confined (checkPart ctx sort part) := by
  cases part with
  | invocation i => exact confined_checkInvocation ctx sort i
  | predicate e => exact (confined_checkPredicate ctx e).bind fun _ => confined_pure _
  | binding name e =>
    exact (confined_expr ctx e).bind fun _ => (confined_declare _ _).bind fun _ => confined_pure _
  | condition e => exact (confined_checkTruth ctx e).bind fun _ => confined_pure _

lemma confined_checkClause (sort : Section) (parts : List Source.Part) :
    Confined (checkClause ctx sort parts) := by
  have hparts := confined_forAll (confined_checkPart ctx sort)
    (PartOrder.canonical.arrange Source.Part.rank parts)
  unfold checkClause
  split
  · exact (confined_throw _).bind fun _ => hparts
  · exact (confined_pure PUnit.unit).bind fun _ => hparts

lemma confined_checkArguments (channel : ChannelRef) (params : List Source.Expr) (types : List Ty)
    (index : Nat) : Confined (checkArguments ctx channel index params types) := by
  induction params generalizing types index with
  | nil => exact confined_pure []
  | cons param params ih =>
    cases types with
    | nil => cases param <;> exact confined_pure []
    | cons ty types =>
      cases param with
      | null => exact (ih types (index + 1)).bind fun _ => confined_pure _
      | _ =>
        exact (confined_expr ctx _).bind fun _ => (confined_agree _ _ _).bind fun _ =>
          (ih types (index + 1)).bind fun _ => confined_pure _

lemma confined_checkActionInvocation (invocation : Source.Invocation) :
    Confined (checkActionInvocation ctx invocation) := by
  refine (confined_ofNoted _).bind fun found => ?_
  have harguments := (confined_checkArguments ctx found.1 invocation.params found.2 0).bind
    fun params => confined_ofNoted (.ofExcept (actionOf found.1 params))
  dsimp only
  split
  · exact (confined_throw _).bind fun _ => harguments
  · exact (confined_pure PUnit.unit).bind fun _ => harguments

lemma confined_checkAction (part : Source.Part) : Confined (checkAction ctx part) := by
  cases part with
  | invocation i => exact confined_checkActionInvocation ctx i
  | binding name e =>
    exact confined_scope.bind fun _ => (confined_ofNoted _).bind fun _ =>
      (confined_expr ctx e).bind fun _ => (confined_agree _ _ _).bind fun _ => confined_pure _
  | predicate e => exact confined_throw _
  | condition e => exact confined_throw _

lemma confined_declareModuleNames (module : String) (names : List String) :
    Confined (declareModuleNames ctx module names) := by
  induction names with
  | nil => exact confined_pure PUnit.unit
  | cons name rest ih => exact (confined_declare _ _).bind fun _ => ih

lemma confined_checkTrigger (source : Option (List Source.Part)) :
    Confined (checkTrigger ctx source) := by
  cases source with
  | none => exact confined_pure none
  | some parts => exact (confined_checkClause ctx .triggers parts).bind fun _ => confined_pure _

lemma confined_checkRuleBody (modules : Named (List String)) (source : RuleSource) (id : Nat) :
    Confined (checkRuleBody ctx modules source id) := by
  have hrest := (confined_checkTrigger ctx source.trigger).bind fun trigger =>
    (confined_forAll (confined_checkClause ctx .queries) source.queries).bind fun queries =>
      (confined_forAll (confined_checkAction ctx) source.actions).bind fun actions =>
        confined_pure (Typed.Rule.mk id source.module trigger queries actions)
  unfold checkRuleBody
  split
  · exact (confined_declareModuleNames ctx _ _).bind fun _ => hrest
  · exact (confined_pure PUnit.unit).bind fun _ => hrest

/-- The stages of checking a rule: the names of its compute module, its trigger, its queries and its
actions. -/
lemma checkRuleBody_stages {modules : Named (List String)} {source : RuleSource} {id : Nat}
    {rule : Typed.Rule} {s s' : CheckState}
    (h : checkRuleBody ctx modules source id s = .ok rule s') :
    rule.module = source.module ∧ ∃ t t₁ t₂ t₃,
      (source.module = none → t = s) ∧
      (∀ module, source.module = some module →
        ∃ u, declareModuleNames ctx module ((Named.get? modules module).getD []) s = .ok u t) ∧
      checkTrigger ctx source.trigger t = .ok rule.trigger t₁ ∧
      Check.forAll (checkClause ctx .queries) source.queries t₁ = .ok rule.queries t₂ ∧
      checkActions ctx source.actions t₂ = .ok rule.actions t₃ := by
  cases hmodule : source.module with
  | none =>
    simp only [checkRuleBody, hmodule, state_bind_eq_ok, state_pure_eq_ok] at h
    obtain ⟨trigger, t₁, htrigger, queries, t₂, hqueries, actions, t₃, hactions, rfl, -⟩ := h
    exact ⟨rfl, s, t₁, t₂, t₃, fun _ => rfl, nofun, htrigger, hqueries, hactions⟩
  | some module =>
    simp only [checkRuleBody, hmodule, state_bind_eq_ok, state_pure_eq_ok] at h
    obtain ⟨u, t, hdeclare, trigger, t₁, htrigger, queries, t₂, hqueries, actions, t₃, hactions,
      rfl, -⟩ := h
    refine ⟨rfl, t, t₁, t₂, t₃, nofun, ?_, htrigger, hqueries, hactions⟩
    rintro _ ⟨⟩
    exact ⟨u, hdeclare⟩

end Rules

section Programs

variable {ctx : Context} {modules : Named (List String)}

/-- Rules are found one after the other exactly if each of them is found right after the
declarations. -/
theorem checkRules_eq_ok_iff {sources : List RuleSource} {id : Nat} {rules : List Typed.Rule}
    {s : CheckState} : (∃ s', checkRules ctx modules id sources s = .ok rules s') ↔
      List.Forall₂ (fun source rule =>
          ((checkRuleBody ctx modules source.1 source.2).run s.scope.enter).result = .ok rule)
        (sources.zipIdx id) rules := by
  -- Every rule starts with the names in scope that the rule before it has started with.
  induction sources generalizing id rules s with
  | nil =>
    rw [List.zipIdx_nil, List.forall₂_nil_left_iff]
    constructor
    · rintro ⟨s', h⟩
      exact (state_pure_eq_ok.1 h).1.symm
    · rintro rfl
      exact ⟨s, rfl⟩
  | cons source rest ih =>
    have hrule := confined_checkRuleBody ctx modules source id
    rw [List.zipIdx_cons, List.forall₂_cons_left_iff]
    constructor
    · rintro ⟨s', h⟩
      simp only [checkRules, state_bind_eq_ok, state_pure_eq_ok] at h
      obtain ⟨rule, t, hfirst, others, t', hothers, rfl, -⟩ := h
      obtain ⟨hfound, hscope⟩ := hrule.inLayer_eq_ok hfirst
      have hrest := ih.1 ⟨t', hothers⟩
      rw [hscope] at hrest
      exact ⟨rule, others, hfound, hrest, rfl⟩
    · rintro ⟨rule, others, hfound, hrest, rfl⟩
      obtain ⟨t, hfirst⟩ := hrule.exists_inLayer hfound
      rw [← (hrule.inLayer_eq_ok hfirst).2] at hrest
      obtain ⟨t', hothers⟩ := ih.2 hrest
      refine ⟨t', ?_⟩
      simp only [checkRules, state_bind_eq_ok, state_pure_eq_ok]
      exact ⟨rule, t, hfirst, others, t', hothers, rfl, rfl⟩

/-- A program is found from its declarations and from its rules, each of which is checked right
after the declarations. -/
theorem checkProgram_eq_ok_iff {kinds : Named KindSchemas} {program : Source.Program}
    {typed : Typed.Program} : (checkProgram kinds program).result = .ok typed ↔
      ∃ declarations s rules, checkDeclarations program ⟨.empty, []⟩ = .ok declarations s ∧
        List.Forall₂ (fun source rule =>
            ((checkRuleBody ⟨kinds, declarations.keywords⟩ declarations.modules source.1
              source.2).run s.scope.enter).result = .ok rule)
          program.rules.zipIdx rules ∧
        typed = ⟨program.name, program.params, declarations.keywords, rules⟩ := by
  rw [checkProgram, Check.run_eq_ok_iff]
  simp only [checkStatements, state_bind_eq_ok, state_pure_eq_ok]
  constructor
  · rintro ⟨_, declarations, s, hdeclarations, rules, s', hrules, rfl, -⟩
    exact ⟨declarations, s, rules, hdeclarations, checkRules_eq_ok_iff.1 ⟨s', hrules⟩, rfl⟩
  · rintro ⟨declarations, s, rules, hdeclarations, hrules, rfl⟩
    obtain ⟨s', hrules⟩ := checkRules_eq_ok_iff.2 hrules
    exact ⟨s', declarations, s, hdeclarations, rules, s', hrules, rfl, rfl⟩

lemma exists_of_mem_forall₂ {α β : Type} {R : α → β → Prop} {as : List α} {bs : List β}
    (h : List.Forall₂ R as bs) {b : β} (hb : b ∈ bs) : ∃ a ∈ as, R a b := by
  induction h with
  | nil => cases hb
  | cons hfirst _ ih =>
    rcases List.mem_cons.1 hb with rfl | hb
    · exact ⟨_, List.mem_cons_self, hfirst⟩
    · obtain ⟨a, ha, hR⟩ := ih hb
      exact ⟨a, List.mem_cons_of_mem _ ha, hR⟩

/-- The rules of a checked program are checked in a layer on top of the declarations. -/
lemma checkProgram_eq_ok {kinds : Named KindSchemas} {program : Source.Program}
    {typed : Typed.Program} (h : (checkProgram kinds program).result = .ok typed) :
    ∃ modules s, checkDeclarations program ⟨.empty, []⟩ = .ok ⟨modules, typed.keywords⟩ s ∧
      typed.params = program.params ∧
      ∀ rule ∈ typed.rules, ∃ source id t t', t.scope = s.scope.enter ∧
        checkRuleBody ⟨kinds, typed.keywords⟩ modules source id t = .ok rule t' := by
  obtain ⟨declarations, s, rules, hdeclarations, hrules, rfl⟩ := checkProgram_eq_ok_iff.1 h
  refine ⟨declarations.modules, s, hdeclarations, rfl, fun rule hrule => ?_⟩
  obtain ⟨source, -, hfound⟩ := exists_of_mem_forall₂ hrules hrule
  obtain ⟨t', ht'⟩ := Check.run_eq_ok_iff.1 hfound
  exact ⟨_, _, _, t', rfl, ht'⟩

end Programs

end ChannelRules
