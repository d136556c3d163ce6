import ChannelRules.Code.Rule
import ChannelRules.Proofs.Code.Expr
import ChannelRules.Proofs.Code.Places
import ChannelRules.Proofs.Named
import ChannelRules.Proofs.Typed.Scoped

/-!
# Compiled rules

The code of a rule follows from the rule and from the names that are known before it. Compiling a
well scoped rule gives that code, unless a pattern expects for a group the text of another group:
then it stops at a variable that is not in scope.
-/

namespace ChannelRules

namespace Typed

open Touch

/-- What becomes of a parameter of an invocation, given the names that are known before it. -/
def slot (names : List String) : Option Binder → Slot
  | none => .unused
  | some (.declare name _) => .assigned name
  | some (.expect expr) =>
    if expr.vars.all names.contains then .input expr.code else .deferred expr

def Invocation.code (names : List String) (i : Invocation) : CompiledInvocation :=
  let slots := i.params.map (slot names)
  ⟨i.channel, slots.map Slot.input?, assignedSlots 0 slots,
    (deferredSlots 0 slots).map fun check => (check.1, check.2.code)⟩

def Binder.capture : Binder → Capture
  | declare name _ => .assign name
  | expect expr => .expect expr.code

variable [PatternEngine]

/-- The source of a pattern, which is read before anything runs if it consists of constants. -/
def patternSource (pattern flags : Expr) : PatternSource :=
  match pattern.constantText?, flags.constantText? with
  | some pattern, some flags => .fixed (buildRegex pattern flags)
  | _, _ => .computed pattern.code flags.code

def Predicate.step : Predicate → Step
  | regex value pattern flags captures =>
    .regex value.code (patternSource pattern flags) (captures.map Binder.capture)
  | contains container (.declare name _) => .each container.code name
  | contains container (.expect element) => .member container.code element.code
  | test expr => .test expr.code

def Part.step (source : EventSource) (names : List String) : Part → Step
  | invocation i => (i.code names).step source
  | binding name expr => .assign name expr.code
  | predicate p => p.step
  | condition expr => .test expr.code

def steps (source : EventSource) : List String → List Part → Filter
  | _, [] => []
  | names, part :: rest => part.step source names :: steps source (names ++ declared part.touches) rest

/-- The code of a trigger or query that starts with an invocation. -/
def clauseCode? (source : EventSource) (names : List String) : List Part → Option CompiledClause
  | .invocation i :: rest => some ⟨i.code names, steps source names (.invocation i :: rest)⟩
  | _ => none

def queriesCode? : List String → List (List Part) → Option (List CompiledClause)
  | _, [] => some []
  | names, parts :: rest => do
    let query ← clauseCode? .query names parts
    let queries ← queriesCode? (names ++ declared (parts.flatMap Part.touches)) rest
    return query :: queries

def triggerCode? (names : List String) : Option (List Part) → Option (Option CompiledClause)
  | none => some none
  | some parts => do
    let trigger ← clauseCode? .trigger names parts
    return some trigger

def Action.code : Action → CompiledOutput
  | invocation channel params => ⟨.channel channel, params.map (Option.map Expr.code)⟩
  | keyword cell expr => ⟨.keyword cell, [some expr.code]⟩

/-- The code of a rule whose trigger and queries have an invocation each. -/
def Rule.code? (names : List String) (rule : Rule) : Option CompiledRule := do
  let trigger ← triggerCode? names rule.trigger
  let names := names ++ declared ((rule.trigger.getD []).flatMap Part.touches)
  let queries ← queriesCode? names rule.queries
  return { id := rule.id
           module := rule.module
           trigger := trigger
           queries := queries
           outputs := rule.actions.map Action.code
           inputKeywords := NameSet.ofNames rule.inputReads
           keywords := NameSet.ofNames rule.reads }

end Typed

/-- The variables in scope are the given names. -/
def Locals.Holds (locals : Locals) (names : List String) : Prop :=
  ∀ x, Named.has locals x = true ↔ x ∈ names

lemma Locals.holds_names (locals : Locals) : locals.Holds (Named.names locals) :=
  Named.has_iff_mem_names locals

/-- Compilation gives the given code and brings the given names into scope if a condition is met;
otherwise it finds a variable that is not in scope. -/
def Compiles {α : Type} (condition : Bool) (a : α) (names : List String) :
    EStateM.Result CompileError Locals α → Prop
  | .ok b locals => condition = true ∧ b = a ∧ locals.Holds names
  | .error e _ => condition = false ∧ ∃ x, e = .unknownVariable x

section Compiles

variable {α β : Type} {names names' names'' : List String} {locals : Locals}

lemma compiles_pure {a : α} (h : locals.Holds names) :
    Compiles true a names ((pure a : Compile α) locals) :=
  ⟨rfl, rfl, h⟩

lemma Compiles.bind {c d : Bool} {x : Compile α} {f : α → Compile β} {a : α} {b : β}
    (hx : Compiles c a names' (x locals))
    (hf : ∀ locals', Locals.Holds locals' names' → Compiles d b names'' (f a locals')) :
    Compiles (c && d) b names'' ((x >>= f) locals) := by
  change Compiles (c && d) b names'' (EStateM.bind x f locals)
  unfold EStateM.bind
  cases hresult : x locals with
  | ok a' locals' =>
    rw [hresult] at hx
    obtain ⟨rfl, rfl, hlocals⟩ := hx
    rw [Bool.true_and]
    exact hf locals' hlocals
  | error e locals' =>
    rw [hresult] at hx
    obtain ⟨rfl, hunknown⟩ := hx
    exact ⟨rfl, hunknown⟩

/-- A first step that cannot fail. -/
lemma Compiles.next {d : Bool} {x : Compile α} {f : α → Compile β} {a : α} {b : β}
    (hx : Compiles true a names' (x locals))
    (hf : ∀ locals', Locals.Holds locals' names' → Compiles d b names'' (f a locals')) :
    Compiles d b names'' ((x >>= f) locals) := by
  have h := hx.bind hf
  rw [Bool.true_and] at h
  exact h

/-- A last step that cannot fail. -/
lemma Compiles.map {c : Bool} {x : Compile α} {f : α → Compile β} {a : α} {b : β}
    (hx : Compiles c a names' (x locals))
    (hf : ∀ locals', Locals.Holds locals' names' → Compiles true b names'' (f a locals')) :
    Compiles c b names'' ((x >>= f) locals) := by
  have h := hx.bind hf
  rw [Bool.and_true] at h
  exact h

lemma Locals.Holds.insert (h : locals.Holds names) (name : String) (ty : Ty) :
    Locals.Holds (Named.insert locals name ty) (names ++ [name]) := by
  intro x
  rw [Named.has_insert, h x, List.mem_append, List.mem_singleton]
  exact or_comm

lemma compiles_declare (h : locals.Holds names) (name : String) (ty : Ty) :
    Compiles true ⟨⟩ (names ++ [name]) (Compile.declare name ty locals) :=
  ⟨rfl, rfl, h.insert name ty⟩

open Typed

/-- An expression is compiled to its code exactly if its variables are in scope. -/
lemma compile_of_holds (h : locals.Holds names) (expr : Expr) :
    (expr.vars.all names.contains = true ∧ expr.compile locals = .ok expr.code) ∨
      (expr.vars.all names.contains = false ∧
        ∃ x, expr.compile locals = .error (.unknownVariable x)) := by
  rw [Expr.compile_eq]
  by_cases hall : ∀ x ∈ expr.vars, x ∈ names
  · left
    refine ⟨?_, guarded_of_forall _ fun x hx => (h x).2 (hall x hx)⟩
    simpa using hall
  · right
    obtain ⟨x, hx⟩ := not_forall.1 hall
    obtain ⟨hx, hmiss⟩ := Classical.not_imp.1 hx
    have hhas : Named.has locals x = false := by
      rw [Bool.eq_false_iff]
      intro hhas
      exact hmiss ((h x).1 hhas)
    obtain ⟨y, -, -, hy⟩ := guarded_of_missing expr.code hx hhas
    refine ⟨?_, y, hy⟩
    rw [Bool.eq_false_iff]
    intro hcontains
    rw [List.all_eq_true] at hcontains
    exact hmiss (by simpa using hcontains x hx)

/-- An expression that reads variables from before. -/
lemma compiles_before {before : Locals} (hbefore : before.Holds names) (h : locals.Holds names')
    (expr : Expr) : Compiles (expr.vars.all names.contains) expr.code names'
      (Compile.ofExcept (expr.compile before) locals) := by
  rcases compile_of_holds hbefore expr with ⟨hall, hcode⟩ | ⟨hall, x, herror⟩
  · rw [hall, hcode]
    exact ⟨rfl, rfl, h⟩
  · rw [hall, herror]
    exact ⟨rfl, x, rfl⟩

lemma compiles_expr (h : locals.Holds names) {expr : Expr} (hvars : ∀ x ∈ expr.vars, x ∈ names) :
    Compiles true expr.code names (Compile.expr expr locals) := by
  have hall : expr.vars.all names.contains = true := by simpa using hvars
  have hcompiles := compiles_before h h expr
  rw [hall] at hcompiles
  exact hcompiles

end Compiles

open Typed Typed.Touch

section Invocations

variable {names names' : List String} {before locals : Locals}

lemma slot_eq_assigned {param : Option Binder} {name : String} :
    slot names param = .assigned name ↔ ∃ ty, param = some (.declare name ty) := by
  match param with
  | none => simp [slot]
  | some (.declare other ty) => simp [slot]
  | some (.expect expr) =>
    rw [slot]
    split <;> simp

lemma slot_eq_deferred {param : Option Binder} {expr : Expr} :
    slot names param = .deferred expr ↔
      param = some (.expect expr) ∧ expr.vars.all names.contains = false := by
  match param with
  | none => simp [slot]
  | some (.declare name ty) => simp [slot]
  | some (.expect other) =>
    rw [slot, Option.some.injEq, Binder.expect.injEq]
    split
    · rename_i hall
      refine iff_of_false nofun ?_
      rintro ⟨rfl, hmiss⟩
      rw [hmiss] at hall
      cases hall
    · rename_i hmiss
      rw [Slot.deferred.injEq]
      refine (and_iff_left_of_imp ?_).symm
      rintro rfl
      exact Bool.eq_false_iff.2 hmiss

lemma compileSlot_compiles (hbefore : before.Holds names) (h : locals.Holds names')
    (param : Option Binder) :
    Compiles true (slot names param) (names' ++ declared (param.toList.map Binder.touch))
      (compileSlot before param locals) := by
  match param with
  | none =>
    rw [Option.toList_none, List.map_nil, declared_nil, List.append_nil]
    exact compiles_pure h
  | some (.declare name ty) => exact (compiles_declare h name ty).map fun _ => compiles_pure
  | some (.expect expr) =>
    have hdeclared : names' ++ declared ([Binder.expect expr].map Binder.touch) = names' :=
      List.append_nil names'
    rw [Option.toList_some, hdeclared]
    rcases compile_of_holds hbefore expr with ⟨hall, hcode⟩ | ⟨hall, x, herror⟩
    · simp only [compileSlot, hcode, slot, hall, if_true]
      exact compiles_pure h
    · simp only [compileSlot, herror, slot, hall, Bool.false_eq_true, if_false]
      exact compiles_pure h

lemma compileSlots_compiles (hbefore : before.Holds names) (h : locals.Holds names')
    (params : List (Option Binder)) :
    Compiles true (params.map (slot names))
      (names' ++ declared ((params.filterMap id).map Binder.touch))
      (compileSlots before params locals) := by
  induction params generalizing locals names' with
  | nil =>
    rw [List.filterMap_nil, List.map_nil, List.map_nil, declared_nil, List.append_nil]
    exact compiles_pure h
  | cons param rest ih =>
    have hdeclared : names' ++ declared (((param :: rest).filterMap id).map Binder.touch) =
        names' ++ declared (param.toList.map Binder.touch) ++
          declared ((rest.filterMap id).map Binder.touch) := by
      cases param <;> simp [← declared_append]
    rw [hdeclared, compileSlots, List.map_cons]
    refine (compileSlot_compiles hbefore h param).bind fun _ h₁ => ?_
    exact (ih h₁).map fun _ => compiles_pure

lemma compileChecks_compiles (h : locals.Holds names) {checks : List (Nat × Expr)}
    (hvars : ∀ check ∈ checks, ∀ x ∈ check.2.vars, x ∈ names) :
    Compiles true (checks.map fun check => (check.1, check.2.code)) names
      (compileChecks checks locals) := by
  induction checks generalizing locals with
  | nil => exact compiles_pure h
  | cons check rest ih =>
    obtain ⟨index, expr⟩ := check
    rw [compileChecks, List.map_cons]
    refine (compiles_expr h (hvars _ List.mem_cons_self)).bind fun _ h₁ => ?_
    exact (ih h₁ fun c hc => hvars c (List.mem_cons_of_mem _ hc)).map fun _ => compiles_pure

lemma mem_deferredSlots {params : List (Option Binder)} {index : Nat} {check : Nat × Expr}
    (h : check ∈ deferredSlots index (params.map (slot names))) :
    some (.expect check.2) ∈ params := by
  obtain ⟨k, -, hk⟩ := mem_deferredSlots_iff.1 h
  obtain ⟨param, hparam, hslot⟩ := Option.map_eq_some_iff.1 (List.getElem?_map.symm.trans hk)
  exact (slot_eq_deferred.1 hslot).1 ▸ List.mem_of_getElem? hparam

/-- What is read after all names of a list are introduced is in scope. -/
lemma mem_of_reads {touches : List Touch} (h : Scoped names touches) {expr : Expr}
    (hexpr : .reads expr ∈ touches) : ∀ x ∈ expr.vars, x ∈ names ++ declared touches := by
  induction touches generalizing names with
  | nil => cases hexpr
  | cons touch rest ih =>
    intro x hx
    cases touch with
    | reads other =>
      rcases List.mem_cons.1 hexpr with heq | hexpr
      · cases heq
        exact List.mem_append_left _ (h.1 x hx)
      · exact ih h.2 hexpr x hx
    | declares name =>
      rcases List.mem_cons.1 hexpr with heq | hexpr
      · cases heq
      · have hmem := ih h.2 hexpr x hx
        rw [List.append_assoc] at hmem
        exact hmem

lemma compileInvocation_compiles (h : locals.Holds names) (i : Invocation)
    (hscoped : Scoped names (Part.invocation i).touches) :
    Compiles true (i.code names) (names ++ declared (Part.invocation i).touches)
      (compileInvocation i locals) := by
  rw [compileInvocation, state_get_bind]
  refine (compileSlots_compiles h h i.params).bind fun _ h₁ => ?_
  refine (compileChecks_compiles h₁ fun check hcheck => ?_).map fun _ => compiles_pure
  refine mem_of_reads hscoped (List.mem_map.2 ⟨.expect check.2, ?_, rfl⟩)
  exact List.mem_filterMap.2 ⟨_, mem_deferredSlots hcheck, rfl⟩

end Invocations

section Predicates

variable {names names' : List String} {before locals : Locals}

/-- The places of a pattern that expect a text read names from before the pattern. -/
def capturesBefore (names : List String) (captures : List Binder) : Bool :=
  (captures.flatMap Binder.exprs).all fun expr => expr.vars.all names.contains

lemma compileCaptures_compiles (hbefore : before.Holds names) (h : locals.Holds names')
    (captures : List Binder) :
    Compiles (capturesBefore names captures) (captures.map Binder.capture)
      (names' ++ declared (captures.map Binder.touch)) (compileCaptures before captures locals) := by
  induction captures generalizing locals names' with
  | nil =>
    rw [List.map_nil, List.map_nil, declared_nil, List.append_nil]
    exact compiles_pure h
  | cons capture rest ih =>
    cases capture with
    | declare name ty =>
      have hdeclared : names' ++ declared ((Binder.declare name ty :: rest).map Binder.touch) =
          names' ++ [name] ++ declared (rest.map Binder.touch) := by
        simp [Binder.touch]
      rw [hdeclared, compileCaptures]
      refine (compiles_declare h name ty).bind fun _ h₁ => ?_
      exact (ih h₁).map fun _ => compiles_pure
    | expect expr =>
      have hcondition : capturesBefore names (.expect expr :: rest) =
          (expr.vars.all names.contains && capturesBefore names rest) := rfl
      rw [hcondition, compileCaptures]
      refine (compiles_before hbefore h expr).bind fun _ h₁ => ?_
      exact (ih h₁).map fun _ => compiles_pure

/-- In a well scoped pattern the names from before are those that the pattern does not introduce. -/
lemma capturesBefore_eq {value pattern flags : Expr} {captures : List Binder}
    (h : Scoped names (captures.map Binder.touch)) :
    capturesBefore names captures =
      (Predicate.regex value pattern flags captures).capturesApart := by
  have hnames : captures.filterMap Binder.name? = declared (captures.map Binder.touch) := by
    rw [declared, List.filterMap_map]
    congr 1
    funext binder
    cases binder <;> rfl
  rw [capturesBefore, Predicate.capturesApart, hnames]
  rw [Bool.eq_iff_iff, List.all_eq_true, List.all_eq_true]
  refine forall₂_congr fun expr hexpr => ?_
  have hreads : .reads expr ∈ captures.map Binder.touch := by
    obtain ⟨binder, hbinder, hmem⟩ := List.mem_flatMap.1 hexpr
    cases binder with
    | declare name ty => cases hmem
    | expect other =>
      rw [List.mem_singleton.1 hmem]
      exact List.mem_map.2 ⟨_, hbinder, rfl⟩
  rw [List.all_eq_true, List.all_eq_true]
  refine forall₂_congr fun x hx => ?_
  have hknown := List.mem_append.1 (mem_of_reads h hreads x hx)
  simp only [List.contains_iff_mem, Bool.not_eq_true', Bool.eq_false_iff, ne_eq]
  exact ⟨fun hmem hdeclared => not_mem_of_scoped h hdeclared hmem, hknown.resolve_right⟩

lemma vars_of_constantText? {expr : Expr} {text : String} (h : expr.constantText? = some text) :
    expr.vars = [] := by
  cases expr with
  | constant ty value => rfl
  | _ => cases h

variable [PatternEngine]

/-- A pattern needs the variables of its text and of its flags. -/
lemma compilePattern_compiles (h : locals.Holds names) (pattern flags : Expr) :
    Compiles (pattern.vars.all names.contains && flags.vars.all names.contains)
      (patternSource pattern flags) names (compilePattern pattern flags locals) := by
  have hcomputed : Compiles (pattern.vars.all names.contains && flags.vars.all names.contains)
      (.computed pattern.code flags.code) names
      ((do return .computed (← Compile.expr pattern) (← Compile.expr flags) :
        Compile PatternSource) locals) := by
    refine (compiles_before h h pattern).bind fun _ h₁ => ?_
    exact (compiles_before h₁ h₁ flags).map fun _ => compiles_pure
  unfold patternSource compilePattern
  match hpattern : pattern.constantText?, hflags : flags.constantText? with
  | some _, some _ =>
    rw [vars_of_constantText? hpattern, vars_of_constantText? hflags]
    exact compiles_pure h
  | some _, none => exact hcomputed
  | none, _ => exact hcomputed

lemma compilePredicate_compiles (h : locals.Holds names) (p : Predicate)
    (hscoped : Scoped names p.touches) :
    Compiles p.capturesApart p.step (names ++ declared p.touches) (compilePredicate p locals) := by
  match p, hscoped with
  | .regex value pattern flags captures, ⟨hvalue, hpattern, hflags, hcaptures⟩ =>
    rw [← capturesBefore_eq hcaptures, compilePredicate]
    refine (compiles_expr h hvalue).bind fun _ h₁ => ?_
    have hconstant : (pattern.vars.all names.contains && flags.vars.all names.contains) = true := by
      simpa using ⟨hpattern, hflags⟩
    have hsource := compilePattern_compiles h₁ pattern flags
    rw [hconstant] at hsource
    refine hsource.bind fun _ h₂ => ?_
    rw [state_get_bind]
    exact (compileCaptures_compiles h₂ h₂ captures).map fun _ => compiles_pure
  | .contains container (.declare name ty), ⟨hcontainer, _⟩ =>
    rw [compilePredicate]
    refine (compiles_expr h hcontainer).bind fun _ h₁ => ?_
    exact (compiles_declare h₁ name ty).map fun _ => compiles_pure
  | .contains container (.expect element), ⟨hcontainer, helement, _⟩ =>
    have hdeclared : names ++ declared (Predicate.contains container (.expect element)).touches =
        names := List.append_nil names
    rw [hdeclared, compilePredicate]
    refine (compiles_expr h hcontainer).bind fun _ h₁ => ?_
    exact (compiles_expr h₁ helement).map fun _ => compiles_pure
  | .test expr, ⟨hexpr, _⟩ =>
    have hdeclared : names ++ declared (Predicate.test expr).touches = names := List.append_nil names
    rw [hdeclared, compilePredicate]
    exact (compiles_expr h hexpr).map fun _ => compiles_pure

end Predicates

end ChannelRules
