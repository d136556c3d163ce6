import ChannelRules.Proofs.Check.Keywords

/-!
# What the names of keywords stand for

A keyword can be named in four ways: by its bare name at the top level, by its bare name inside its
compute module, as a member of its module, and as a channel of its module. `Naming` says which cell
a name stands for, without regard to how programs are checked. Where the names in scope agree with
it, a checked expression reads the cells that its names stand for.
-/

namespace ChannelRules

/-- What the names in a rule stand for, as far as they are names of keywords and compute modules. -/
structure Naming where
  /-- The cell of a keyword that has a bare name. -/
  cell? : String → Option String
  isModule : String → Bool

namespace Naming

/-- Inside a compute module its keywords have bare names. -/
def inside (naming : Naming) (module : String) (names : List String) : Naming :=
  { naming with
    cell? := fun name =>
      if name ∈ names then some (moduleCell module name) else naming.cell? name }

/-- The compute module that an expression names. -/
def moduleName? (naming : Naming) : Source.Expr → Option String
  | .var name => if naming.isModule name then some name else none
  | _ => none

mutual

/-- The cells that the names in an expression stand for, from left to right. -/
def reads (naming : Naming) : Source.Expr → List String
  | .null => []
  | .var name => (naming.cell? name).toList
  | .constant (.varRef name) => (naming.cell? name).toList
  | .constant _ => []
  | .member object name =>
    match naming.moduleName? object with
    | some module => [moduleCell module name]
    | none => reads naming object
  | .call _ args => readsAll naming args
  | .unary _ arg => reads naming arg
  | .binary _ lhs rhs => reads naming lhs ++ reads naming rhs
  | .tuple items => readsAll naming items
  | .array items => readsAll naming items

def readsAll (naming : Naming) : List Source.Expr → List String
  | [] => []
  | expr :: rest => reads naming expr ++ readsAll naming rest

end

/-- The cells that the names in a part of a trigger or query stand for. -/
def partReads (naming : Naming) : Source.Part → List String
  | .invocation i => naming.readsAll i.params
  | .binding _ e => naming.reads e
  | .predicate e => naming.reads e
  | .condition e => naming.reads e

/-- The cells that the names in a trigger or query stand for, in the order in which its parts are
handled. -/
def clauseReads (naming : Naming) (parts : List Source.Part) : List String :=
  (PartOrder.canonical.arrange Source.Part.rank parts).flatMap naming.partReads

/-- The cells that the names in the trigger and the queries of a rule stand for. -/
def inputReads (naming : Naming) (source : RuleSource) : List String :=
  (source.trigger.toList ++ source.queries).flatMap naming.clauseReads

/-- An action writes the cell and reads the cells that the names in it stand for. -/
inductive Acts (naming : Naming) : Source.Part → Typed.Action → Prop
  | write {name cell : String} {e : Source.Expr} {expr : Typed.Expr}
      (hcell : naming.cell? name = some cell) (hreads : expr.reads = naming.reads e) :
      Acts naming (.binding name e) (.keyword cell expr)
  | writeMember {module name : String} {e : Source.Expr} {rest : List Source.Expr}
      {expr : Typed.Expr} (hreads : expr.reads = naming.reads e) :
      Acts naming (.invocation ⟨.computeModule module, name, e :: rest⟩)
        (.keyword (moduleCell module name) expr)
  | invoke {i : Source.Invocation} {channel : ChannelRef} {params : List (Option Typed.Expr)}
      (hselector : ∀ module, i.selector ≠ .computeModule module)
      (hreads : (params.filterMap id).flatMap Typed.Expr.reads =
        naming.readsAll (i.params.take params.length)) :
      Acts naming (.invocation i) (.invocation channel params)

lemma readsAll_eq (naming : Naming) (es : List Source.Expr) :
    naming.readsAll es = es.flatMap naming.reads := by
  induction es with
  | nil => rfl
  | cons e rest ih => rw [readsAll, ih, List.flatMap_cons]

lemma readsAll_singleton (naming : Naming) (e : Source.Expr) :
    naming.readsAll [e] = naming.reads e := by
  rw [readsAll_eq, List.flatMap_singleton]

lemma inside_cons (naming : Naming) (module name : String) (names : List String) :
    (naming.inside module [name]).inside module names = naming.inside module (name :: names) := by
  unfold inside
  congr 1
  funext x
  by_cases hname : x = name
  · simp [hname]
  · simp [hname]

end Naming

namespace Source.Program

/-- What names stand for outside of all compute modules. -/
def outside (program : Program) : Naming where
  cell? name := if name ∈ program.keywords.map Prod.fst then some name else none
  isModule name := decide (name ∈ program.modules.map Prod.fst)

/-- What names stand for in the rules of a compute module, or in the rules outside of all of
them. -/
def naming (program : Program) : Option String → Naming
  | none => program.outside
  | some module =>
    program.outside.inside module
      (((Named.get? program.modules module).getD []).map Prod.fst)

end Source.Program

namespace Typed

/-- The keywords in an expression have the types of their cells. -/
def Expr.KeywordsTyped (keywords : Named Ty) (expr : Expr) : Prop :=
  ∀ ty cell, .keyword ty cell ∈ expr.subexprs → Named.get? keywords cell = some ty

/-- A keyword that is written has a cell, whose type the written expression agrees with. -/
def Action.KeywordTyped (keywords : Named Ty) : Action → Prop
  | invocation _ _ => True
  | keyword cell expr =>
    ∃ ty, Named.get? keywords cell = some ty ∧ ∃ joined, (Ty.agree ty expr.ty).result = .ok joined

def Rule.exprs (rule : Rule) : List Expr :=
  rule.inputParts.flatMap Part.exprs ++ rule.actions.flatMap Action.exprs

namespace Expr

lemma filterMap_subexprsAll (exprs : List Expr) :
    (subexprsAll exprs).filterMap cell? = exprs.flatMap reads := by
  induction exprs with
  | nil => rfl
  | cons expr rest ih => rw [subexprsAll, List.filterMap_append, ih, List.flatMap_cons, reads]

@[simp] lemma reads_member (ty : Ty) (object : Expr) (name : String) :
    (member ty object name).reads = object.reads := rfl

@[simp] lemma reads_call (ty : Ty) (op : Op) (args : List Expr) :
    (call ty op args).reads = args.flatMap reads := filterMap_subexprsAll args

@[simp] lemma reads_unary (ty : Ty) (op : Op) (arg : Expr) :
    (unary ty op arg).reads = arg.reads := rfl

@[simp] lemma reads_tuple (ty : Ty) (items : List Expr) :
    (tuple ty items).reads = items.flatMap reads := filterMap_subexprsAll items

@[simp] lemma reads_array (ty : Ty) (items : List Expr) :
    (array ty items).reads = items.flatMap reads := filterMap_subexprsAll items

@[simp] lemma reads_binary (ty : Ty) (op : Op) (lhs rhs : Expr) :
    (binary ty op lhs rhs).reads = lhs.reads ++ rhs.reads := List.filterMap_append

end Expr

end Typed

open Typed (Expr Part Action Rule Predicate Binder)

/-- A naming agrees with the names in scope, and keywords in scope have the types of their cells. -/
structure Naming.Holds (naming : Naming) (keywords : Named Ty) (scope : Scope) : Prop where
  keyword : ∀ name cell, naming.cell? name = some cell ↔
    ∃ ty, scope.get? name = some ⟨ty, .keyword cell⟩
  typed : ∀ name ty cell, scope.get? name = some ⟨ty, .keyword cell⟩ →
    Named.get? keywords cell = some ty
  module : ∀ name, naming.isModule name = true ↔ ∃ ty, scope.get? name = some ⟨ty, .module⟩

section Exprs

variable {naming : Naming} {keywords : Named Ty} {scope : Scope}

lemma moduleName?_eq (h : naming.Holds keywords scope) (e : Source.Expr) :
    moduleName? scope e = naming.moduleName? e := by
  cases e with
  | var name =>
    rw [Naming.moduleName?, moduleName?]
    split
    · rename_i ty hget
      rw [if_pos ((h.module name).2 ⟨ty, hget⟩)]
    · rename_i hnot
      rw [if_neg]
      intro hmodule
      obtain ⟨ty, hget⟩ := (h.module name).1 hmodule
      exact hnot ty hget
  | _ => rfl

lemma Naming.Holds.cell?_eq_none (h : naming.Holds keywords scope) {name : String}
    (hnone : ∀ ty cell, scope.get? name ≠ some ⟨ty, .keyword cell⟩) : naming.cell? name = none := by
  rw [Option.eq_none_iff_forall_ne_some]
  intro cell hcell
  obtain ⟨ty, hget⟩ := (h.keyword name cell).1 hcell
  exact hnone ty cell hget

lemma checkName_reads (h : naming.Holds keywords scope) {name : String} {te : Expr}
    (hte : checkName scope name = .ok te) : te.reads = (naming.cell? name).toList := by
  unfold checkName at hte
  split at hte
  · cases hte
  · rename_i ty cell hget
    cases hte
    rw [(h.keyword name cell).2 ⟨ty, hget⟩]
    rfl
  · cases hte
  · rename_i ty hget
    cases hte
    rw [h.cell?_eq_none (by simp [hget])]
    rfl
  · rename_i ty hget
    cases hte
    rw [h.cell?_eq_none (by simp [hget])]
    rfl

lemma checkConstant_reads {value : Value} {te : Expr}
    (h : (checkConstant value).result = .ok te) : te.reads = [] := by
  simp only [checkConstant, Noted.result_bind, bind_eq_ok, Noted.result_pure, Except.ok.injEq] at h
  obtain ⟨normal, -, ty, -, rfl⟩ := h
  rfl

lemma checkModuleMember_reads {module name : String} {te : Expr}
    (h : checkModuleMember keywords module name = .ok te) :
    te.reads = [moduleCell module name] := by
  unfold checkModuleMember at h
  split at h
  · cases h
    rfl
  · cases h

mutual

/-- A checked expression reads the cells that its names stand for. -/
theorem checkExpr_reads (h : naming.Holds keywords scope) :
    (e : Source.Expr) → {te : Expr} → (checkExpr scope keywords e).result = .ok te →
      te.reads = naming.reads e
  | .null, _, hte => nomatch hte
  | .var name, _, hte => checkName_reads h hte
  | .constant value, _, hte => by
    cases value with
    | varRef name => exact checkName_reads h hte
    | _ => exact checkConstant_reads hte
  | .member object name, _, hte => by
    rw [checkExpr, moduleName?_eq h] at hte
    rw [Naming.reads]
    cases hmodule : naming.moduleName? object with
    | some module =>
      rw [hmodule] at hte
      exact checkModuleMember_reads hte
    | none =>
      simp only [hmodule, Noted.result_bind, Noted.result_ofExcept, bind_eq_ok, Noted.result_pure,
        Except.ok.injEq] at hte
      obtain ⟨typed, hobject, ty, -, rfl⟩ := hte
      rw [Expr.reads_member, checkExpr_reads h object hobject]
  | .call function args, _, hte => by
    simp only [checkExpr, Noted.result_bind, Noted.result_ofExcept, bind_eq_ok, Noted.result_pure,
      Except.ok.injEq] at hte
    obtain ⟨builtin, -, typed, hargs, ⟨op, ty⟩, -, rfl⟩ := hte
    rw [Expr.reads_call, Naming.reads, checkExprs_reads h args hargs]
  | .unary operator arg, _, hte => by
    simp only [checkExpr, Noted.result_bind, Noted.result_ofExcept, bind_eq_ok, Noted.result_pure,
      Except.ok.injEq] at hte
    obtain ⟨builtin, -, typed, harg, ⟨op, ty⟩, -, rfl⟩ := hte
    rw [Expr.reads_unary, Naming.reads, checkExpr_reads h arg harg]
  | .binary operator lhs rhs, _, hte => by
    simp only [checkExpr, Noted.result_bind, Noted.result_ofExcept, bind_eq_ok, Noted.result_pure,
      Except.ok.injEq] at hte
    obtain ⟨builtin, -, left, hlhs, right, hrhs, ⟨op, ty⟩, -, rfl⟩ := hte
    rw [Expr.reads_binary, Naming.reads, checkExpr_reads h lhs hlhs, checkExpr_reads h rhs hrhs]
  | .tuple items, _, hte => by
    simp only [checkExpr, Noted.result_bind, bind_eq_ok, Noted.result_pure, Except.ok.injEq] at hte
    obtain ⟨typed, hitems, rfl⟩ := hte
    rw [Expr.reads_tuple, Naming.reads, checkExprs_reads h items hitems]
  | .array items, _, hte => by
    simp only [checkExpr, Noted.result_bind, bind_eq_ok, Noted.result_pure, Except.ok.injEq] at hte
    obtain ⟨typed, hitems, elem, -, rfl⟩ := hte
    rw [Expr.reads_array, Naming.reads, checkExprs_reads h items hitems]

theorem checkExprs_reads (h : naming.Holds keywords scope) :
    (es : List Source.Expr) → {tes : List Expr} → (checkExprs scope keywords es).result = .ok tes →
      tes.flatMap Expr.reads = naming.readsAll es
  | [], _, htes => by
    cases htes
    rfl
  | e :: rest, _, htes => by
    simp only [checkExprs, Noted.result_bind, bind_eq_ok, Noted.result_pure, Except.ok.injEq]
      at htes
    obtain ⟨te, he, tes, hrest, rfl⟩ := htes
    rw [List.flatMap_cons, Naming.readsAll, checkExpr_reads h e he, checkExprs_reads h rest hrest]

end

lemma Checked.keywordsTyped (h : naming.Holds keywords scope) {te : Expr}
    (hte : Checked scope keywords te) : te.KeywordsTyped keywords := by
  intro ty cell hnode
  cases hte.of_mem_subexprs hnode with
  | keyword hget => exact h.typed _ ty cell hget
  | moduleKeyword hget => exact hget

end Exprs

end ChannelRules
