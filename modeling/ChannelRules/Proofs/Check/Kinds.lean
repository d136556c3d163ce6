import ChannelRules.Check.Kinds
import ChannelRules.Proofs.Named
import ChannelRules.Proofs.Sequence
import Mathlib.Data.List.Basic
import Mathlib.Tactic.Common

/-!
# The kinds that a check asks for

Only the invocations of a program need schemas of kinds. A check that fails for want of a kind fails
at an invocation of that kind, so the kinds that are collected beforehand are enough. They are not
more than enough either: each of them is the kind of an invocation.
-/

namespace ChannelRules

/-! ## The invocations of a program -/

namespace Source

/-- A clause is a trigger, a query or the actions of a statement or of a statement inside it. -/
inductive Statement.HasClause : Statement → List Part → Prop
  | trigger {trigger : List Part} {queries : List (List Part)} {actions : List Part} :
      HasClause (.rule trigger queries actions) trigger
  | query {trigger query : List Part} {queries : List (List Part)} {actions : List Part}
      (hquery : query ∈ queries) : HasClause (.rule trigger queries actions) query
  | actions {trigger : List Part} {queries : List (List Part)} {actions : List Part} :
      HasClause (.rule trigger queries actions) actions
  | commandQuery {query : List Part} {queries : List (List Part)} {actions : List Part}
      (hquery : query ∈ queries) : HasClause (.command queries actions) query
  | commandActions {queries : List (List Part)} {actions : List Part} :
      HasClause (.command queries actions) actions
  | inside {name : String} {statement : Statement} {statements : List Statement}
      {clause : List Part} (hstatement : statement ∈ statements)
      (hclause : statement.HasClause clause) : HasClause (.computeModule name statements) clause

/-- An invocation occurs in a trigger, a query or the actions of a program. -/
def Program.Invokes (program : Program) (invocation : Invocation) : Prop :=
  ∃ statement ∈ program.statements, ∃ clause,
    statement.HasClause clause ∧ .invocation invocation ∈ clause

lemma Statement.hasClause_rule {trigger : List Part} {queries : List (List Part)}
    {actions clause : List Part} : HasClause (.rule trigger queries actions) clause ↔
      clause = trigger ∨ clause ∈ queries ∨ clause = actions := by
  constructor
  · intro h
    cases h with
    | trigger => exact .inl rfl
    | query hquery => exact .inr (.inl hquery)
    | actions => exact .inr (.inr rfl)
  · rintro (rfl | hquery | rfl)
    · exact .trigger
    · exact .query hquery
    · exact .actions

lemma Statement.hasClause_command {queries : List (List Part)} {actions clause : List Part} :
    HasClause (.command queries actions) clause ↔ clause ∈ queries ∨ clause = actions := by
  constructor
  · intro h
    cases h with
    | commandQuery hquery => exact .inl hquery
    | commandActions => exact .inr rfl
  · rintro (hquery | rfl)
    · exact .commandQuery hquery
    · exact .commandActions

lemma Statement.hasClause_computeModule {name : String} {statements : List Statement}
    {clause : List Part} : HasClause (.computeModule name statements) clause ↔
      ∃ statement ∈ statements, statement.HasClause clause :=
  ⟨fun | .inside hstatement hclause => ⟨_, hstatement, hclause⟩,
    fun ⟨_, hstatement, hclause⟩ => .inside hstatement hclause⟩

mutual

/-- The kinds of a statement are those of the parts of its clauses. -/
lemma Statement.mem_remoteKinds {kind : String} : (statement : Statement) →
    (kind ∈ statement.remoteKinds ↔
      ∃ clause, statement.HasClause clause ∧ ∃ part ∈ clause, kind ∈ part.remoteKinds)
  | computeModule name statements => by
    rw [remoteKinds, mem_remoteKindsAll statements]
    simp only [hasClause_computeModule]
    constructor
    · rintro ⟨statement, hstatement, clause, hclause, hpart⟩
      exact ⟨clause, ⟨statement, hstatement, hclause⟩, hpart⟩
    · rintro ⟨clause, ⟨statement, hstatement, hclause⟩, hpart⟩
      exact ⟨statement, hstatement, clause, hclause, hpart⟩
  | keyword _ _ => ⟨fun h => (List.not_mem_nil h).elim, fun ⟨_, hclause, _⟩ => nomatch hclause⟩
  | rule trigger queries actions => by
    simp only [remoteKinds, hasClause_rule, List.mem_flatMap, List.mem_append, List.mem_flatten]
    grind
  | command queries actions => by
    simp only [remoteKinds, hasClause_command, List.mem_flatMap, List.mem_append, List.mem_flatten]
    grind

lemma Statement.mem_remoteKindsAll {kind : String} : (statements : List Statement) →
    (kind ∈ Statement.remoteKindsAll statements ↔ ∃ statement ∈ statements,
      ∃ clause, statement.HasClause clause ∧ ∃ part ∈ clause, kind ∈ part.remoteKinds)
  | [] => ⟨fun h => (List.not_mem_nil h).elim, fun ⟨_, h, _⟩ => (List.not_mem_nil h).elim⟩
  | statement :: rest => by
    rw [remoteKindsAll, List.mem_append, mem_remoteKinds statement, mem_remoteKindsAll rest]
    simp only [List.mem_cons, or_and_right, exists_or, exists_eq_left]

end

/-- The clauses of a rule are among those of a program that it belongs to. -/
lemma Program.hasClause_of_mem_rules {program : Program} {source : RuleSource}
    (hsource : source ∈ program.rules) {clause : List Part}
    (hclause : clause ∈ source.trigger ∨ clause ∈ source.queries ∨ clause = source.actions) :
    ∃ statement ∈ program.statements, statement.HasClause clause := by
  have hrule : ∀ {module : Option String} {statement : Statement},
      statement.rule? module = some source → statement.HasClause clause := by
    intro module statement h
    cases statement with
    | rule trigger queries actions =>
      cases h
      exact Statement.hasClause_rule.2 (hclause.imp_left fun h => (Option.mem_some_iff.1 h).symm)
    | command queries actions =>
      cases h
      exact Statement.hasClause_command.2 (hclause.resolve_left nofun)
    | computeModule _ _ => cases h
    | keyword _ _ => cases h
  obtain ⟨statement, hstatement, hmem⟩ := List.mem_flatMap.1 hsource
  refine ⟨statement, hstatement, ?_⟩
  cases statement with
  | computeModule name statements =>
    obtain ⟨inner, hinner, h⟩ := List.mem_filterMap.1 hmem
    exact .inside hinner (hrule h)
  | rule _ _ _ => exact hrule (Option.mem_toList.1 hmem)
  | command _ _ => exact hrule (Option.mem_toList.1 hmem)
  | keyword _ _ => cases hmem

end Source

lemma Selector.isRemote_eq_true_iff {selector : Selector} : selector.isRemote = true ↔
    selector ≠ .builtin ∧ (∀ module, selector ≠ .computeModule module) ∧ selector ≠ .any := by
  cases selector <;> simp [isRemote]

lemma Source.Part.mem_remoteKinds {part : Source.Part} {kind : String} :
    kind ∈ part.remoteKinds ↔ ∃ i, part = .invocation i ∧ i.selector.isRemote = true ∧
      i.selector.kind? = some kind := by
  cases part with
  | invocation i =>
    simp only [remoteKinds]
    split <;> simp_all
  | _ => simp [remoteKinds]

/-! ## How checks fail -/

/-- A computation whose failures all have the property `P`. -/
def Noted.Fails {ε α : Type} (x : Noted ε α) (P : ε → Prop) : Prop :=
  ∀ e, x.result = .error e → P e

namespace Noted

variable {ε ε' α β : Type} {P : ε → Prop}

lemma fails_pure (a : α) : Fails (pure a : Noted ε α) P := nofun

lemma Fails.bind {x : Noted ε α} {f : α → Noted ε β} (hx : x.Fails P) (hf : ∀ a, (f a).Fails P) :
    (x >>= f).Fails P := by
  intro e h
  rw [result_bind] at h
  cases hresult : x.result with
  | error e' =>
    rw [hresult] at h
    cases h
    exact hx e hresult
  | ok a =>
    rw [hresult] at h
    exact hf a e h

lemma fails_mapError {x : Noted ε' α} {f : ε' → ε} (hf : ∀ e, P (f e)) : (x.mapError f).Fails P := by
  intro e h
  rw [result_mapError] at h
  cases hresult : x.result with
  | error e' =>
    rw [hresult] at h
    cases h
    exact hf e'
  | ok a =>
    rw [hresult] at h
    cases h

end Noted

/-- A check whose failures all have the property `P`, whatever names are in scope. -/
def Check.Fails {α : Type} (x : Check α) (P : CheckError → Prop) : Prop :=
  ∀ s s' e, x s = .error e s' → P e

namespace Check

variable {α β : Type} {P : CheckError → Prop}

lemma fails_pure (a : α) : Fails (pure a : Check α) P := nofun

lemma fails_throw {e : CheckError} (h : P e) : Fails (throw e : Check α) P := by
  rintro s s' e' ⟨⟩
  exact h

lemma Fails.bind {x : Check α} {f : α → Check β} (hx : Fails x P) (hf : ∀ a, Fails (f a) P) :
    Fails (x >>= f) P := by
  intro s s' e h
  change EStateM.bind x f s = _ at h
  unfold EStateM.bind at h
  split at h
  · rename_i a t _
    exact hf a t s' e h
  · rename_i e' t hx'
    cases h
    exact hx s s' e hx'

lemma fails_ofNoted {x : Noted CheckError α} (hx : x.Fails P) : Fails (ofNoted x) P := by
  intro s s' e h
  unfold ofNoted at h
  split at h
  · cases h
  · rename_i e' he
    cases h
    exact hx e he

lemma fails_scope : Fails scope P := nofun

lemma fails_declare {name : String} {entry : Entry} (h : P (.duplicateDeclaration name)) :
    Fails (declare name entry) P := by
  intro s s' e hfail
  unfold declare at hfail
  split at hfail
  · cases hfail
  · cases hfail
    exact h

lemma fails_agree {a b : Ty} {reason : TypeError → CheckError} (h : ∀ e, P (reason e)) :
    Fails (agree a b reason) P :=
  fails_ofNoted (Noted.fails_mapError h)

lemma fails_forAll {f : α → Check β} {items : List α} (hf : ∀ item ∈ items, Fails (f item) P) :
    Fails (forAll f items) P := by
  induction items with
  | nil => exact fails_pure []
  | cons item rest ih =>
    exact (hf item List.mem_cons_self).bind fun b =>
      (ih fun item hitem => hf item (List.mem_cons_of_mem _ hitem)).bind fun bs =>
        fails_pure (b :: bs)

lemma Fails.inLayer {x : Check α} (hx : Fails x P) : Fails x.inLayer P := by
  intro s s' e h
  unfold Check.inLayer at h
  split at h
  · cases h
  · rename_i e' t hx'
    cases h
    exact hx _ _ e hx'

end Check

/-! ## What checks lack -/

/-- A rejection for any reason, but for want of a kind only if that kind is `lacked`. -/
def CheckError.Lacks (lacked : String → Prop) (e : CheckError) : Prop :=
  ∀ kind, e = .schema (.unknownKind kind) → lacked kind

section Expressions

variable {lacked : String → Prop} {scope : Scope} {keywords : Named Ty}

lemma fails_checkName (name : String) :
    (Noted.ofExcept (checkName scope name)).Fails (CheckError.Lacks lacked) := by
  intro e h
  simp only [Noted.result_ofExcept, checkName] at h
  split at h <;> cases h <;> nofun

lemma fails_checkConstant (value : Value) :
    (checkConstant value).Fails (CheckError.Lacks lacked) :=
  (Noted.fails_mapError fun _ => nofun).bind fun _ => (Noted.fails_mapError fun _ => nofun).bind fun _ =>
    Noted.fails_pure _

lemma fails_checkModuleMember (module name : String) :
    (Noted.ofExcept (checkModuleMember keywords module name)).Fails (CheckError.Lacks lacked) := by
  intro e h
  simp only [Noted.result_ofExcept, checkModuleMember] at h
  split at h <;> cases h
  nofun

lemma fails_memberType (object : Ty) (name : String) :
    (Noted.ofExcept (memberType object name)).Fails (CheckError.Lacks lacked) := by
  intro e h
  simp only [Noted.result_ofExcept, memberType] at h
  repeat' split at h
  all_goals cases h <;> nofun

lemma fails_knownBuiltin (find? : String → Option Builtin) (name : String) :
    (Noted.ofExcept (knownBuiltin find? name)).Fails (CheckError.Lacks lacked) := by
  intro e h
  simp only [Noted.result_ofExcept, knownBuiltin] at h
  split at h <;> cases h
  nofun

lemma fails_checkCall (builtin : Builtin) (args : List Typed.Expr) :
    (checkCall builtin args).Fails (CheckError.Lacks lacked) := by
  refine (Noted.fails_mapError fun failure => ?_).bind fun _ => Noted.fails_pure _
  cases failure <;> nofun

mutual

/-- The check of an expression needs no schemas. -/
lemma fails_checkExpr : (e : Source.Expr) →
    (checkExpr scope keywords e).Fails (CheckError.Lacks lacked)
  | .null => by
    rintro e ⟨⟩
    nofun
  | .var name => fails_checkName name
  | .constant value => by
    cases value with
    | varRef name => exact fails_checkName name
    | _ => exact fails_checkConstant _
  | .member object name => by
    rw [checkExpr]
    split
    · exact fails_checkModuleMember _ name
    · exact (fails_checkExpr object).bind fun _ => (fails_memberType _ name).bind fun _ =>
        Noted.fails_pure _
  | .call function args => by
    rw [checkExpr]
    exact (fails_knownBuiltin _ function).bind fun _ => (fails_checkExprs args).bind fun _ =>
      (fails_checkCall _ _).bind fun _ => Noted.fails_pure _
  | .unary operator arg => by
    rw [checkExpr]
    exact (fails_knownBuiltin _ operator).bind fun _ => (fails_checkExpr arg).bind fun _ =>
      (fails_checkCall _ _).bind fun _ => Noted.fails_pure _
  | .binary operator lhs rhs => by
    rw [checkExpr]
    exact (fails_knownBuiltin _ operator).bind fun _ => (fails_checkExpr lhs).bind fun _ =>
      (fails_checkExpr rhs).bind fun _ => (fails_checkCall _ _).bind fun _ => Noted.fails_pure _
  | .tuple items => by
    rw [checkExpr]
    exact (fails_checkExprs items).bind fun _ => Noted.fails_pure _
  | .array items => by
    rw [checkExpr]
    exact (fails_checkExprs items).bind fun _ => (Noted.fails_mapError fun _ => nofun).bind fun _ =>
      Noted.fails_pure _

lemma fails_checkExprs : (es : List Source.Expr) →
    (checkExprs scope keywords es).Fails (CheckError.Lacks lacked)
  | [] => Noted.fails_pure []
  | e :: rest => by
    rw [checkExprs]
    exact (fails_checkExpr e).bind fun _ => (fails_checkExprs rest).bind fun _ =>
      Noted.fails_pure _

end

end Expressions

section Rules

open Check

variable {lacked : String → Prop} {ctx : Context}

lemma fails_expr (e : Source.Expr) : Fails (Check.expr ctx e) (CheckError.Lacks lacked) :=
  fails_scope.bind fun _ => fails_ofNoted (fails_checkExpr e)

lemma lacks_of_channel {schemas : KindSchemas} {kind name : String} {sort : Section}
    {e : SchemaError} (h : schemas.channel kind sort name = .error e) :
    (CheckError.schema e).Lacks lacked := by
  unfold KindSchemas.channel at h
  split at h <;> cases h
  nofun

/-- Only a remote selector of a kind that is not known lacks that kind. -/
lemma lacks_of_channelTypes {selector : Selector} {name : String} {sort : Section} {e : CheckError}
    (h : channelTypes ctx selector name sort = .error e)
    (hlacked : ∀ kind, selector.isRemote = true → selector.kind? = some kind →
      Named.get? ctx.kinds kind = none → lacked kind) : e.Lacks lacked := by
  unfold channelTypes at h
  split at h
  · cases h
    nofun
  · split at h <;> cases h
    nofun
  · split at h <;> cases h
    nofun
  · rename_i hany hbuiltin hmodule
    split at h
    · cases h
      nofun
    · rename_i kind hkind
      split at h
      · rename_i hnone
        cases h
        rintro _ ⟨⟩
        exact hlacked kind (Selector.isRemote_eq_true_iff.2 ⟨hbuiltin, hmodule, hany⟩) hkind hnone
      · split at h
        · cases h
        · rename_i hchannel
          cases h
          exact lacks_of_channel hchannel

lemma fails_resolveChannel {invocation : Source.Invocation} (sort : Section)
    (h : ∀ kind ∈ (Source.Part.invocation invocation).remoteKinds,
      Named.get? ctx.kinds kind = none → lacked kind) :
    Fails (ofNoted (.ofExcept (resolveChannel ctx invocation sort))) (CheckError.Lacks lacked) := by
  refine fails_ofNoted fun e he => ?_
  rw [Noted.result_ofExcept, resolveChannel] at he
  cases hchannel : channelTypes ctx invocation.selector invocation.channel sort with
  | error e' =>
    rw [hchannel] at he
    cases he
    exact lacks_of_channelTypes hchannel fun kind hremote hkind =>
      h kind (Source.Part.mem_remoteKinds.2 ⟨invocation, rfl, hremote, hkind⟩)
  | ok found =>
    rw [hchannel] at he
    cases he

lemma fails_checkBinder (ty : Ty) {mismatch : Ty → CheckError}
    (h : ∀ ty, (mismatch ty).Lacks lacked) (e : Source.Expr) :
    Fails (checkBinder ctx ty mismatch e) (CheckError.Lacks lacked) := by
  refine fails_scope.bind fun scope => ?_
  split
  · refine (fails_declare fun _ hkind => ?_).bind fun _ => fails_pure _
    cases hkind
  · exact (fails_expr e).bind fun _ => (fails_agree fun _ => h _).bind fun _ => fails_pure _

lemma fails_checkSlots (channel : ChannelRef) (types : List Ty) (index : Nat)
    (params : List Source.Expr) :
    Fails (checkSlots ctx channel index types params) (CheckError.Lacks lacked) := by
  have hslot : ∀ index ty e, Fails (checkSlot ctx channel index ty e) (CheckError.Lacks lacked) := by
    intro index ty e
    unfold checkSlot
    split
    · exact fails_pure _
    · exact (fails_checkBinder ty (fun _ => nofun) e).bind fun _ => fails_pure _
  induction types generalizing index params with
  | nil => exact fails_pure []
  | cons ty types ih =>
    exact (hslot index ty _).bind fun _ => (ih (index + 1) params.tail).bind fun _ => fails_pure _

lemma fails_checkInvocation {invocation : Source.Invocation} (sort : Section)
    (h : ∀ kind ∈ (Source.Part.invocation invocation).remoteKinds,
      Named.get? ctx.kinds kind = none → lacked kind) :
    Fails (checkInvocation ctx sort invocation) (CheckError.Lacks lacked) := by
  refine (fails_resolveChannel sort h).bind fun found => ?_
  have hslots : Fails (do
      let slots ← checkSlots ctx found.1 0 found.2 invocation.params
      return Typed.Part.invocation ⟨found.1, slots.map Prod.fst, slots.map Prod.snd⟩)
      (CheckError.Lacks lacked) :=
    (fails_checkSlots found.1 found.2 0 invocation.params).bind fun _ => fails_pure _
  dsimp only
  split
  · exact (fails_throw nofun).bind fun _ => hslots
  · exact (fails_pure PUnit.unit).bind fun _ => hslots

lemma fails_checkText (e : Source.Expr) : Fails (checkText ctx e) (CheckError.Lacks lacked) := by
  refine (fails_expr e).bind fun typed => ?_
  split
  · exact fails_pure typed
  · exact fails_throw nofun

lemma fails_checkTruth (e : Source.Expr) : Fails (checkTruth ctx e) (CheckError.Lacks lacked) :=
  (fails_expr e).bind fun _ => (fails_agree fun _ => nofun).bind fun _ => fails_pure _

lemma fails_elementType (container : Ty) :
    Fails (ofNoted (.ofExcept (elementType container))) (CheckError.Lacks lacked) := by
  refine fails_ofNoted fun e h => ?_
  simp only [Noted.result_ofExcept, elementType] at h
  repeat' split at h
  all_goals cases h <;> nofun

lemma fails_checkPredicate (e : Source.Expr) :
    Fails (checkPredicate ctx e) (CheckError.Lacks lacked) := by
  unfold checkPredicate
  split
  · exact (fails_checkText _).bind fun _ => (fails_checkText _).bind fun _ =>
      (fails_checkText _).bind fun _ =>
        (fails_forAll fun _ _ => fails_checkBinder _ (fun _ => nofun) _).bind fun _ => fails_pure _
  · exact (fails_expr _).bind fun _ => (fails_elementType _).bind fun _ =>
      (fails_checkBinder _ (fun _ => nofun) _).bind fun _ => fails_pure _
  · exact (fails_checkTruth _).bind fun _ => fails_pure _

lemma fails_checkPart {part : Source.Part} (sort : Section)
    (h : ∀ kind ∈ part.remoteKinds, Named.get? ctx.kinds kind = none → lacked kind) :
    Fails (checkPart ctx sort part) (CheckError.Lacks lacked) := by
  cases part with
  | invocation i => exact fails_checkInvocation sort h
  | predicate e => exact (fails_checkPredicate e).bind fun _ => fails_pure _
  | binding name e =>
    exact (fails_expr e).bind fun _ => (fails_declare nofun).bind fun _ => fails_pure _
  | condition e => exact (fails_checkTruth e).bind fun _ => fails_pure _

lemma fails_checkArguments (channel : ChannelRef) (params : List Source.Expr) (types : List Ty)
    (index : Nat) :
    Fails (checkArguments ctx channel index params types) (CheckError.Lacks lacked) := by
  induction params generalizing types index with
  | nil => exact fails_pure []
  | cons param params ih =>
    cases types with
    | nil => cases param <;> exact fails_pure []
    | cons ty types =>
      cases param with
      | null => exact (ih types (index + 1)).bind fun _ => fails_pure _
      | _ =>
        exact (fails_expr _).bind fun _ => (fails_agree fun _ => nofun).bind fun _ =>
          (ih types (index + 1)).bind fun _ => fails_pure _

lemma fails_actionOf (channel : ChannelRef) (params : List (Option Typed.Expr)) :
    Fails (ofNoted (.ofExcept (actionOf channel params))) (CheckError.Lacks lacked) := by
  refine fails_ofNoted fun e h => ?_
  simp only [Noted.result_ofExcept, actionOf] at h
  repeat' split at h
  all_goals cases h <;> nofun

lemma fails_checkActionInvocation {invocation : Source.Invocation}
    (h : ∀ kind ∈ (Source.Part.invocation invocation).remoteKinds,
      Named.get? ctx.kinds kind = none → lacked kind) :
    Fails (checkActionInvocation ctx invocation) (CheckError.Lacks lacked) := by
  refine (fails_resolveChannel .actions h).bind fun found => ?_
  have harguments : Fails (do
      let params ← checkArguments ctx found.1 0 invocation.params found.2
      ofNoted (.ofExcept (actionOf found.1 params))) (CheckError.Lacks lacked) :=
    (fails_checkArguments found.1 invocation.params found.2 0).bind fun _ => fails_actionOf _ _
  dsimp only
  split
  · exact (fails_throw nofun).bind fun _ => harguments
  · exact (fails_pure PUnit.unit).bind fun _ => harguments

lemma fails_keywordCell (scope : Scope) (name : String) :
    Fails (ofNoted (.ofExcept (keywordCell scope name))) (CheckError.Lacks lacked) := by
  refine fails_ofNoted fun e h => ?_
  simp only [Noted.result_ofExcept, keywordCell] at h
  split at h <;> cases h <;> nofun

lemma fails_checkAction {part : Source.Part}
    (h : ∀ kind ∈ part.remoteKinds, Named.get? ctx.kinds kind = none → lacked kind) :
    Fails (checkAction ctx part) (CheckError.Lacks lacked) := by
  cases part with
  | invocation i => exact fails_checkActionInvocation h
  | binding name e =>
    exact fails_scope.bind fun _ => (fails_keywordCell _ name).bind fun _ =>
      (fails_expr e).bind fun _ => (fails_agree fun _ => nofun).bind fun _ => fails_pure _
  | predicate e => exact fails_throw nofun
  | condition e => exact fails_throw nofun

lemma mem_byRank {P : Type} {rank : P → Nat} {parts : List P} {part : P}
    (h : part ∈ byRank rank parts) : part ∈ parts := by
  obtain ⟨r, -, hmem⟩ := List.mem_flatMap.1 h
  exact (List.mem_filter.1 hmem).1

lemma fails_checkClause {parts : List Source.Part} (sort : Section)
    (h : ∀ part ∈ parts, ∀ kind ∈ part.remoteKinds,
      Named.get? ctx.kinds kind = none → lacked kind) :
    Fails (checkClause ctx sort parts) (CheckError.Lacks lacked) := by
  have hparts : Fails (Check.forAll (checkPart ctx sort)
      (PartOrder.canonical.arrange Source.Part.rank parts)) (CheckError.Lacks lacked) :=
    fails_forAll fun part hpart => fails_checkPart sort (h part (mem_byRank hpart))
  unfold checkClause
  split
  · exact (fails_throw nofun).bind fun _ => hparts
  · exact (fails_pure PUnit.unit).bind fun _ => hparts

lemma fails_declareModuleNames (module : String) (names : List String) :
    Fails (declareModuleNames ctx module names) (CheckError.Lacks lacked) := by
  induction names with
  | nil => exact fails_pure PUnit.unit
  | cons name rest ih => exact (fails_declare nofun).bind fun _ => ih

/-- A rule lacks kinds of the invocations in its own clauses only. -/
lemma fails_checkRule (modules : Named (List String)) {source : RuleSource} (id : Nat)
    (h : ∀ clause, clause ∈ source.trigger ∨ clause ∈ source.queries ∨ clause = source.actions →
      ∀ part ∈ clause, ∀ kind ∈ part.remoteKinds,
        Named.get? ctx.kinds kind = none → lacked kind) :
    Fails (checkRule ctx modules source id) (CheckError.Lacks lacked) := by
  have htrigger : Fails (checkTrigger ctx source.trigger) (CheckError.Lacks lacked) := by
    cases hsource : source.trigger with
    | none => exact fails_pure none
    | some parts =>
      have hparts := h parts (.inl (Option.mem_def.2 hsource))
      exact (fails_checkClause .triggers hparts).bind fun _ => fails_pure _
  have hqueries : Fails (forAll (checkClause ctx .queries) source.queries)
      (CheckError.Lacks lacked) :=
    fails_forAll fun parts hparts => fails_checkClause .queries (h parts (.inr (.inl hparts)))
  have hactions : Fails (checkActions ctx source.actions) (CheckError.Lacks lacked) :=
    fails_forAll fun part hpart => fails_checkAction (h source.actions (.inr (.inr rfl)) part hpart)
  have hrest : Fails (do
      let trigger ← checkTrigger ctx source.trigger
      let queries ← forAll (checkClause ctx .queries) source.queries
      let actions ← checkActions ctx source.actions
      return Typed.Rule.mk id source.module trigger queries actions) (CheckError.Lacks lacked) :=
    htrigger.bind fun _ => hqueries.bind fun _ => hactions.bind fun _ => fails_pure _
  refine Fails.inLayer ?_
  unfold checkRuleBody
  split
  · exact (fails_declareModuleNames _ _).bind fun _ => hrest
  · exact (fails_pure PUnit.unit).bind fun _ => hrest

lemma fails_checkRules (modules : Named (List String)) {sources : List RuleSource} (id : Nat)
    (h : ∀ source ∈ sources, ∀ clause,
      clause ∈ source.trigger ∨ clause ∈ source.queries ∨ clause = source.actions →
        ∀ part ∈ clause, ∀ kind ∈ part.remoteKinds,
          Named.get? ctx.kinds kind = none → lacked kind) :
    Fails (checkRules ctx modules id sources) (CheckError.Lacks lacked) := by
  induction sources generalizing id with
  | nil => exact fails_pure []
  | cons source rest ih =>
    obtain ⟨hfirst, hrest⟩ := List.forall_mem_cons.1 h
    exact (fails_checkRule modules id hfirst).bind fun _ => (ih (id + 1) hrest).bind fun _ =>
      fails_pure _

end Rules

/-! ## Declarations -/

section Declarations

open Check

variable {lacked : String → Prop}

lemma fails_declareParams (params : List (String × Ty)) :
    Fails (declareParams params) (CheckError.Lacks lacked) := by
  induction params with
  | nil => exact fails_pure PUnit.unit
  | cons param rest ih => exact (fails_declare nofun).bind fun _ => ih

lemma fails_declareTopLevel (statements : List Source.Statement) (keywords : Named Ty) :
    Fails (declareTopLevel keywords statements) (CheckError.Lacks lacked) := by
  induction statements generalizing keywords with
  | nil => exact fails_pure keywords
  | cons statement rest ih =>
    cases statement with
    | keyword name ty => exact (fails_declare nofun).bind fun _ => ih _
    | computeModule name _ => exact (fails_declare nofun).bind fun _ => ih _
    | rule _ _ _ => exact ih keywords
    | command _ _ => exact ih keywords

lemma lacks_of_moduleKeywords {scope : Scope} {module : String}
    {statements : List Source.Statement} {names : List String} {keywords : Named Ty}
    {e : CheckError} (h : moduleKeywords scope module names keywords statements = .error e) :
    e.Lacks lacked := by
  induction statements generalizing names keywords with
  | nil => cases h
  | cons statement rest ih =>
    cases statement with
    | keyword name ty =>
      rw [moduleKeywords] at h
      split at h
      · cases h
        nofun
      · exact ih h
    | computeModule nested _ =>
      cases h
      nofun
    | rule _ _ _ => exact ih h
    | command _ _ => exact ih h

lemma lacks_of_allModuleKeywords {scope : Scope} {statements : List Source.Statement}
    {modules : Named (List String)} {keywords : Named Ty} {e : CheckError}
    (h : allModuleKeywords scope modules keywords statements = .error e) : e.Lacks lacked := by
  induction statements generalizing modules keywords with
  | nil => cases h
  | cons statement rest ih =>
    cases statement with
    | computeModule name inner =>
      rw [allModuleKeywords] at h
      cases hmodule : moduleKeywords scope name [] keywords inner with
      | error e' =>
        rw [hmodule] at h
        cases h
        exact lacks_of_moduleKeywords hmodule
      | ok found =>
        rw [hmodule] at h
        exact ih h
    | keyword _ _ => exact ih h
    | rule _ _ _ => exact ih h
    | command _ _ => exact ih h

lemma fails_checkDeclarations (program : Source.Program) :
    Fails (checkDeclarations program) (CheckError.Lacks lacked) :=
  (fails_declareParams _).bind fun _ => (fails_declareTopLevel _ _).bind fun _ =>
    fails_scope.bind fun _ =>
      (fails_ofNoted fun _ h => lacks_of_allModuleKeywords h).bind fun _ => fails_pure _

end Declarations

/-! ## Programs -/

/-- A program that is rejected for want of a kind refers to that kind. -/
theorem checkProgram_lacks {kinds : Named KindSchemas} {program : Source.Program} {kind : String}
    (h : (checkProgram kinds program).result = .error (.schema (.unknownKind kind))) :
    kind ∈ program.remoteKinds ∧ Named.has kinds kind = false := by
  have hall : Check.Fails (checkStatements kinds program) (CheckError.Lacks fun kind =>
      kind ∈ program.remoteKinds ∧ Named.has kinds kind = false) := by
    refine (fails_checkDeclarations program).bind fun declarations => ?_
    refine (fails_checkRules _ 0 fun source hsource clause hclause part hpart kind hkind hnone =>
      ?_).bind fun _ => Check.fails_pure _
    obtain ⟨statement, hstatement, hhas⟩ := Source.Program.hasClause_of_mem_rules hsource hclause
    refine ⟨?_, ?_⟩
    · exact NameSet.mem_ofNames.2 <| (Source.Statement.mem_remoteKindsAll _).2
        ⟨statement, hstatement, clause, hhas, part, hpart, hkind⟩
    · rw [Named.has, hnone]
      rfl
  unfold checkProgram Check.run at h
  split at h
  · cases h
  · rename_i e s hfail
    cases h
    exact hall _ _ _ hfail kind rfl

lemma mem_remoteKinds_iff {program : Source.Program} {kind : String} :
    kind ∈ program.remoteKinds ↔ ∃ invocation, program.Invokes invocation ∧
      invocation.selector.isRemote = true ∧ invocation.selector.kind? = some kind := by
  rw [Source.Program.remoteKinds, NameSet.mem_ofNames, Source.Statement.mem_remoteKindsAll]
  simp only [Source.Part.mem_remoteKinds, Source.Program.Invokes]
  constructor
  · rintro ⟨statement, hstatement, clause, hclause, _, hpart, invocation, rfl, hselector⟩
    exact ⟨invocation, ⟨statement, hstatement, clause, hclause, hpart⟩, hselector⟩
  · rintro ⟨invocation, ⟨statement, hstatement, clause, hclause, hpart⟩, hselector⟩
    exact ⟨statement, hstatement, clause, hclause, _, hpart, invocation, rfl, hselector⟩

/-- The kinds of a program are what its check needs and no more: with the schemas of all of them no
check fails for want of a kind, and each of them is the kind of an invocation of the program that
names neither the builtin device nor a compute module nor any device at all. -/
theorem checkProgram_kindsKnown (kinds : Named KindSchemas) (program : Source.Program) :
    ((∀ kind ∈ program.remoteKinds, Named.has kinds kind = true) →
      ∀ kind, (checkProgram kinds program).result ≠ .error (.schema (.unknownKind kind))) ∧
    ∀ kind, kind ∈ program.remoteKinds ↔ ∃ invocation, program.Invokes invocation ∧
      invocation.selector ≠ .builtin ∧ (∀ module, invocation.selector ≠ .computeModule module) ∧
        invocation.selector ≠ .any ∧ invocation.selector.kind? = some kind := by
  constructor
  · intro hknown kind h
    obtain ⟨hkind, hnone⟩ := checkProgram_lacks h
    rw [hknown kind hkind] at hnone
    cases hnone
  · intro kind
    simp only [mem_remoteKinds_iff, Selector.isRemote_eq_true_iff, and_assoc]

/-- A program that rings a chime inside a compute module when a bell is pressed, where the chime is
known by an attribute and has no channel `ring`. -/
def porch : Source.Program :=
  ⟨"porch", [], [.computeModule "door" [.rule
    [.invocation ⟨.globalName "com.bell", "pressed", []⟩]
    [[.invocation ⟨.attributes [⟨"room", .string "hall"⟩, ⟨"type", .string "chime"⟩], "ring",
      []⟩]]
    [.invocation ⟨.builtin, "notify", []⟩]]]⟩

/-- Both kinds of the porch are known, so it is rejected for another reason. -/
theorem checkProgram_kindsKnown_porch :
    let kinds : Named KindSchemas :=
      [("chime", ⟨[], [], []⟩), ("com.bell", ⟨[("pressed", ⟨[], [], "", "", ""⟩)], [], []⟩)]
    (∀ kind ∈ porch.remoteKinds, Named.has kinds kind = true) ∧
      (∀ kind, (checkProgram kinds porch).result ≠ .error (.schema (.unknownKind kind))) ∧
      "chime" ∈ porch.remoteKinds ∧
      (checkProgram kinds porch).result.isOk = false := by
  intro kinds
  have hknown : ∀ kind ∈ porch.remoteKinds, Named.has kinds kind = true := by decide
  exact ⟨hknown, (checkProgram_kindsKnown kinds porch).1 hknown, by decide, by rfl⟩

/-! ## Fetching -/

lemma fetchKinds_eq_ok {store found : Named KindSchemas} {kinds : List String}
    (h : fetchKinds store kinds = .ok found) : ∀ kind ∈ kinds, Named.has found kind = true := by
  induction kinds generalizing found with
  | nil => exact fun kind hkind => (List.not_mem_nil hkind).elim
  | cons first rest ih =>
    rw [fetchKinds] at h
    split at h
    · cases h
    · rename_i schemas _
      obtain ⟨others, hothers, hfound⟩ := bind_eq_ok.1 h
      cases hfound
      intro kind hkind
      rw [Named.has_insert]
      rcases List.mem_cons.1 hkind with rfl | hkind
      · exact .inl rfl
      · exact .inr (ih hothers kind hkind)

lemma fetchKinds_eq_error {store : Named KindSchemas} {kinds : List String} {e : SchemaError}
    (h : fetchKinds store kinds = .error e) :
    ∃ kind ∈ kinds, e = .unknownKind kind ∧ Named.has store kind = false := by
  induction kinds with
  | nil => cases h
  | cons first rest ih =>
    rw [fetchKinds] at h
    split at h
    · rename_i hnone
      cases h
      refine ⟨first, List.mem_cons_self, rfl, ?_⟩
      rw [Named.has, hnone]
      rfl
    · cases hrest : fetchKinds store rest with
      | error e' =>
        rw [hrest] at h
        cases h
        obtain ⟨kind, hkind, h⟩ := ih hrest
        exact ⟨kind, List.mem_cons_of_mem _ hkind, h⟩
      | ok others =>
        rw [hrest] at h
        cases h

/-- Verification fails for want of a kind only if the store lacks a kind of the program; what is
fetched is all that the check looks up. -/
theorem verify_lacks {store : Named KindSchemas} {program : Source.Program} {kind : String}
    (h : (verify store program).result = .error (.schema (.unknownKind kind))) :
    kind ∈ program.remoteKinds ∧ Named.has store kind = false := by
  simp only [verify, Noted.result_bind, Noted.result_mapError, Noted.result_ofExcept] at h
  cases hfetch : fetchKinds store program.remoteKinds with
  | error e =>
    obtain ⟨missing, hmissing, rfl, hstore⟩ := fetchKinds_eq_error hfetch
    rw [hfetch] at h
    cases h
    exact ⟨hmissing, hstore⟩
  | ok found =>
    rw [hfetch] at h
    obtain ⟨hkind, hnone⟩ := checkProgram_lacks h
    rw [fetchKinds_eq_ok hfetch kind hkind] at hnone
    cases hnone

end ChannelRules
