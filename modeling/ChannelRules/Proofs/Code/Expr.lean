import ChannelRules.Code.Expr
import ChannelRules.Proofs.Sequence
import ChannelRules.Typed.Visit

/-!
# Compiled expressions

Compiling an expression checks that its variables are in scope and does nothing else with the scope.
`Typed.Expr.code` is the code without the check, and `compile_eq` says that compiling gives that
code, or names the first variable that is not in scope.
-/

namespace ChannelRules

/-- A result that needs some variables, or the first of them that is not in scope. -/
def guarded {α : Type} (locals : Locals) (names : List String) (a : α) : Except CompileError α :=
  match names.find? fun name => !Named.has locals name with
  | none => .ok a
  | some name => .error (.unknownVariable name)

section Guarded

variable {α β : Type} {locals : Locals}

lemma guarded_bind (xs ys : List String) (a : α) (f : α → β) :
    (guarded locals xs a >>= fun a => guarded locals ys (f a)) =
      guarded locals (xs ++ ys) (f a) := by
  unfold guarded
  rw [List.find?_append]
  cases xs.find? fun name => !Named.has locals name with
  | none => rfl
  | some name => rfl

lemma guarded_map (xs : List String) (a : α) (f : α → β) :
    (guarded locals xs a >>= fun a => .ok (f a)) = guarded locals xs (f a) := by
  have h := @guarded_bind α β locals xs [] a f
  rw [List.append_nil] at h
  exact h

lemma guarded_eq_ok {xs : List String} {a b : α} :
    guarded locals xs a = .ok b ↔ (∀ x ∈ xs, Named.has locals x = true) ∧ a = b := by
  unfold guarded
  cases h : xs.find? fun name => !Named.has locals name with
  | none =>
    have hall := List.find?_eq_none.1 h
    constructor
    · intro hab
      refine ⟨fun x hx => ?_, Except.ok.inj hab⟩
      have hx := hall x hx
      simpa using hx
    · rintro ⟨-, rfl⟩
      rfl
  | some name =>
    have hname := List.find?_some h
    have hmem := List.mem_of_find?_eq_some h
    constructor
    · intro hab
      cases hab
    · rintro ⟨hall, -⟩
      rw [hall name hmem] at hname
      cases hname

lemma guarded_of_forall {xs : List String} (a : α) (h : ∀ x ∈ xs, Named.has locals x = true) :
    guarded locals xs a = .ok a :=
  guarded_eq_ok.2 ⟨h, rfl⟩

/-- A variable out of scope is named in the error. -/
lemma guarded_of_missing {xs : List String} (a : α) {x : String} (hx : x ∈ xs)
    (hmiss : Named.has locals x = false) :
    ∃ y ∈ xs, Named.has locals y = false ∧ guarded locals xs a = .error (.unknownVariable y) := by
  unfold guarded
  cases h : xs.find? fun name => !Named.has locals name with
  | none =>
    have hx := List.find?_eq_none.1 h x hx
    simp [hmiss] at hx
  | some name =>
    have hname := List.find?_some h
    exact ⟨name, List.mem_of_find?_eq_some h, by simpa using hname, rfl⟩

end Guarded

namespace Typed.Expr

lemma subexprs_subset {expr : Expr} {exprs : List Expr} (h : expr ∈ exprs) :
    expr.subexprs ⊆ subexprsAll exprs := by
  induction exprs with
  | nil => cases h
  | cons first rest ih =>
    rw [subexprsAll]
    rcases List.mem_cons.1 h with rfl | h
    · exact List.subset_append_left _ _
    · exact List.subset_append_of_subset_right _ (ih h)

/-- Whether an expression is a variable or a keyword. -/
def isName : Expr → Bool
  | var _ _ => true
  | keyword _ _ => true
  | _ => false

/-- The variables and keywords of an expression, from left to right. -/
def names (expr : Expr) : List Expr := expr.subexprs.filter isName

def namesAll (exprs : List Expr) : List Expr := (subexprsAll exprs).filter isName

@[simp] lemma names_constant (ty : Ty) (value : Value) : (constant ty value).names = [] := rfl

@[simp] lemma names_var (ty : Ty) (name : String) : (var ty name).names = [var ty name] := rfl

@[simp] lemma names_member (ty : Ty) (object : Expr) (name : String) :
    (member ty object name).names = object.names := rfl

@[simp] lemma names_call (ty : Ty) (op : Op) (args : List Expr) :
    (call ty op args).names = namesAll args := rfl

@[simp] lemma names_unary (ty : Ty) (op : Op) (arg : Expr) :
    (unary ty op arg).names = arg.names := rfl

@[simp] lemma names_binary (ty : Ty) (op : Op) (lhs rhs : Expr) :
    (binary ty op lhs rhs).names = lhs.names ++ rhs.names := by
  unfold names
  rw [← List.filter_append]
  rfl

@[simp] lemma names_tuple (ty : Ty) (items : List Expr) :
    (tuple ty items).names = namesAll items := rfl

@[simp] lemma names_array (ty : Ty) (items : List Expr) :
    (array ty items).names = namesAll items := rfl

@[simp] lemma namesAll_nil : namesAll [] = [] := rfl

@[simp] lemma namesAll_cons (expr : Expr) (rest : List Expr) :
    namesAll (expr :: rest) = expr.names ++ namesAll rest := by
  unfold namesAll names
  rw [← List.filter_append]
  rfl

lemma filterMap_filter_isName {p : Expr → Option String} (hp : ∀ e, isName e = false → p e = none)
    (exprs : List Expr) : (exprs.filter isName).filterMap p = exprs.filterMap p := by
  rw [List.filterMap_filter]
  congr 1
  funext expr
  cases hname : isName expr with
  | true => rfl
  | false => exact (hp expr hname).symm

lemma vars_eq (expr : Expr) : expr.vars = expr.names.filterMap varName? := by
  refine (filterMap_filter_isName (fun e h => ?_) _).symm
  cases e with
  | var _ _ => cases h
  | _ => rfl

lemma reads_eq (expr : Expr) : expr.reads = expr.names.filterMap cell? := by
  refine (filterMap_filter_isName (fun e h => ?_) _).symm
  cases e with
  | keyword _ _ => cases h
  | _ => rfl

/-- The variables of some expressions. -/
def varsAll (exprs : List Expr) : List String := (namesAll exprs).filterMap varName?

@[simp] lemma vars_constant (ty : Ty) (value : Value) : (constant ty value).vars = [] := rfl

@[simp] lemma vars_var (ty : Ty) (name : String) : (var ty name).vars = [name] := rfl

@[simp] lemma vars_keyword (ty : Ty) (cell : String) : (keyword ty cell).vars = [] := rfl

@[simp] lemma vars_member (ty : Ty) (object : Expr) (name : String) :
    (member ty object name).vars = object.vars := rfl

@[simp] lemma vars_call (ty : Ty) (op : Op) (args : List Expr) :
    (call ty op args).vars = varsAll args := vars_eq _

@[simp] lemma vars_unary (ty : Ty) (op : Op) (arg : Expr) : (unary ty op arg).vars = arg.vars := rfl

@[simp] lemma vars_binary (ty : Ty) (op : Op) (lhs rhs : Expr) :
    (binary ty op lhs rhs).vars = lhs.vars ++ rhs.vars := by
  rw [vars_eq, names_binary, List.filterMap_append, ← vars_eq, ← vars_eq]

@[simp] lemma vars_tuple (ty : Ty) (items : List Expr) :
    (tuple ty items).vars = varsAll items := vars_eq _

@[simp] lemma vars_array (ty : Ty) (items : List Expr) :
    (array ty items).vars = varsAll items := vars_eq _

@[simp] lemma varsAll_nil : varsAll [] = [] := rfl

@[simp] lemma varsAll_cons (expr : Expr) (rest : List Expr) :
    varsAll (expr :: rest) = expr.vars ++ varsAll rest := by
  rw [varsAll, namesAll_cons, List.filterMap_append, ← vars_eq, ← varsAll]

mutual

/-- The code of an expression whose variables are in scope. -/
def code : Expr → Code
  | constant _ value => .constant value.toRuntime
  | var _ name => .var name
  | keyword _ cell => .keyword cell
  | member _ object name => .member object.code name
  | call _ op args => .call op (codeAll args)
  | unary _ op arg => .call op [arg.code]
  | binary _ op lhs rhs => binaryCode op lhs.code rhs.code
  | tuple _ items => .items (codeAll items)
  | array _ items => .items (codeAll items)

def codeAll : List Expr → List Code
  | [] => []
  | expr :: rest => expr.code :: codeAll rest

end

mutual

/-- Compiling an expression gives its code, provided that its variables are in scope. -/
theorem compile_eq (locals : Locals) :
    (expr : Expr) → expr.compile locals = guarded locals expr.vars expr.code
  | constant _ _ => rfl
  | var _ name => by
    cases h : Named.has locals name <;> simp [compile, guarded, h, code]
  | keyword _ _ => rfl
  | member _ object name => by
    rw [compile, compile_eq locals object, vars_member, code]
    exact guarded_map _ _ fun object => Code.member object name
  | call _ op args => by
    rw [compile, compileAll_eq locals args, vars_call, code]
    exact guarded_map _ _ fun args => Code.call op args
  | unary _ op arg => by
    rw [compile, compile_eq locals arg, vars_unary, code]
    exact guarded_map _ _ fun arg => Code.call op [arg]
  | binary _ op lhs rhs => by
    rw [compile, compile_eq locals lhs, compile_eq locals rhs, vars_binary, code]
    have hr : ∀ l : Code, (guarded locals rhs.vars rhs.code >>= fun r => pure (binaryCode op l r)) =
        guarded locals rhs.vars (binaryCode op l rhs.code) := fun l => guarded_map _ _ _
    simp only [hr]
    exact guarded_bind _ _ _ fun l => binaryCode op l rhs.code
  | tuple _ items => by
    rw [compile, compileAll_eq locals items, vars_tuple, code]
    exact guarded_map _ _ fun items => Code.items items
  | array _ items => by
    rw [compile, compileAll_eq locals items, vars_array, code]
    exact guarded_map _ _ fun items => Code.items items

theorem compileAll_eq (locals : Locals) :
    (exprs : List Expr) → compileAll locals exprs = guarded locals (varsAll exprs) (codeAll exprs)
  | [] => rfl
  | expr :: rest => by
    rw [compileAll, compile_eq locals expr, compileAll_eq locals rest, varsAll_cons, codeAll]
    have hr : ∀ c : Code, (guarded locals (varsAll rest) (codeAll rest) >>= fun r => pure (c :: r)) =
        guarded locals (varsAll rest) (c :: codeAll rest) := fun c => guarded_map _ _ _
    simp only [hr]
    exact guarded_bind _ _ _ fun c => c :: codeAll rest

end

lemma compile_eq_ok {locals : Locals} {expr : Expr} {c : Code} :
    expr.compile locals = .ok c ↔
      (∀ x ∈ expr.vars, Named.has locals x = true) ∧ expr.code = c := by
  rw [compile_eq, guarded_eq_ok]

end Typed.Expr

end ChannelRules
