import ChannelRules.Fold
import ChannelRules.Pattern.Machine
import ChannelRules.Proofs.Check.Expr
import ChannelRules.Proofs.Code.Expr
import ChannelRules.Proofs.Eval
import ChannelRules.Proofs.Value.Forms

/-!
# Folding an expression

A folded expression reads the same keyword cells and, except for the names that are replaced by
constants, the same variables. In every environment that gives those names the values of their
constants its code is the same computation: from the same world it makes the same draws in the same
order, and ends in the same world with the same outcome. Folding a checked expression without such
names therefore changes neither how compiling it fails nor what its code does.
-/

namespace ChannelRules

namespace Typed

def OnlyConstants (constants : Named Expr) : Prop :=
  ∀ name expr, Named.get? constants name = some expr → ∃ ty value, expr = .constant ty value

/-- An environment gives every name the value of its constant. -/
def Agrees (constants : Named Expr) (env : Env) : Prop :=
  ∀ name ty value, Named.get? constants name = some (.constant ty value) →
    env.readVar name = .ok value.toRuntime

namespace Expr

/-- Expressions are constants, with these values. -/
def Constants : List Expr → List Value → Prop :=
  List.Forall₂ fun expr value => ∃ ty, expr = .constant ty value

section Constants

variable {args : List Expr} {values : List Value}

lemma constant?_eq_some {expr : Expr} {value : Value} (h : expr.constant? = some value) :
    ∃ ty, expr = .constant ty value := by
  cases expr with
  | constant ty v =>
    cases h
    exact ⟨ty, rfl⟩
  | _ => cases h

lemma constants_of_mapM (h : args.mapM constant? = some values) : Constants args values := by
  induction args generalizing values with
  | nil =>
    cases h
    exact .nil
  | cons arg rest ih =>
    simp only [List.mapM_cons, Option.bind_eq_bind, Option.bind_eq_some_iff, Option.pure_def,
      Option.some.injEq] at h
    obtain ⟨value, harg, others, hrest, rfl⟩ := h
    exact .cons (constant?_eq_some harg) (ih hrest)

lemma namesAll_constants (h : Constants args values) : namesAll args = [] := by
  induction h with
  | nil => rfl
  | cons harg _ ih =>
    obtain ⟨ty, rfl⟩ := harg
    rw [namesAll_cons, ih, names_constant, List.nil_append]

lemma foldArray_cases (items : List Expr) (ty : Ty) :
    (∃ values, Constants items values ∧ foldArray items ty = .constant ty (.array values)) ∨
      foldArray items ty = .array ty items := by
  unfold foldArray
  split
  · rename_i values hvalues
    exact .inl ⟨values, constants_of_mapM hvalues, rfl⟩
  · exact .inr rfl

lemma foldMember_cases (object : Expr) (name : String) (ty : Ty) :
    (∃ ty' fields field, object = .constant ty' (.object fields) ∧
      Named.get? fields name = some field ∧ foldMember object name ty = .constant ty field) ∨
      foldMember object name ty = .member ty object name := by
  unfold foldMember
  split
  · rename_i ty' fields
    split
    · rename_i field hfield
      exact .inl ⟨ty', fields, field, rfl, hfield, rfl⟩
    · exact .inr rfl
  · exact .inr rfl

lemma names_foldMember (object : Expr) (name : String) (ty : Ty) :
    (foldMember object name ty).names = object.names := by
  rcases foldMember_cases object name ty with ⟨ty', fields, field, rfl, -, h⟩ | h <;> rw [h] <;> rfl

lemma names_foldArray (items : List Expr) (ty : Ty) :
    (foldArray items ty).names = namesAll items := by
  rcases foldArray_cases items ty with ⟨values, hvalues, h⟩ | h
  · rw [h, names_constant, namesAll_constants hvalues]
  · rw [h, names_array]

lemma names_foldConstant (ty : Ty) (value : Value) : (foldConstant ty value).names = [] := by
  unfold foldConstant
  split <;> rfl

end Constants

lemma onlyConstants_nil : OnlyConstants [] := fun _ _ h => nomatch h

lemma agrees_nil (env : Env) : Agrees [] env := fun _ _ _ h => nomatch h

lemma normal_of_mem {expr sub : Expr} (h : expr.Normal) (hsub : sub.subexprs ⊆ expr.subexprs) :
    sub.Normal :=
  fun node hnode => h node (hsub hnode)

lemma normal_all {expr : Expr} {exprs : List Expr} (h : expr.Normal)
    (hsub : subexprsAll exprs ⊆ expr.subexprs) : ∀ sub ∈ exprs, sub.Normal :=
  fun _ hmem => normal_of_mem h (List.Subset.trans (subexprs_subset hmem) hsub)

lemma foldConstant_of_normal {ty : Ty} {value : Value} (h : (constant ty value).Normal) :
    foldConstant ty value = .constant ty value := by
  unfold foldConstant
  rw [h (constant ty value) List.mem_cons_self value rfl]

/-- Whether a name is kept when the others are replaced by constants. -/
def isKept (constants : Named Expr) : Expr → Bool
  | var _ name => !Named.has constants name
  | _ => true

variable [PatternEngine]

section Calls

variable {op : Op} {args : List Expr} {values : List Value} {ty : Ty} {folded : Expr}

/-- A use of a builtin is folded when its operands are constants and the calculation succeeds. -/
lemma foldCall_eq_some (h : foldCall op args ty = some folded) :
    ∃ calculation values value, op.native = .calculation calculation ∧ Constants args values ∧
      calculation.run (values.map Value.toRuntime) = .ok value ∧
      folded = .constant ty (value.fromRuntime ty) := by
  unfold foldCall at h
  split at h
  · rename_i calculation hnative
    split at h
    · rename_i values hvalues
      split at h
      · rename_i value hrun
        cases h
        exact ⟨calculation, values, value, hnative, constants_of_mapM hvalues, hrun, rfl⟩
      · cases h
    · cases h
  · cases h

lemma names_foldCall {other : Expr} (hother : other.names = namesAll args) :
    ((foldCall op args ty).getD other).names = namesAll args := by
  cases h : foldCall op args ty with
  | none => exact hother
  | some folded =>
    obtain ⟨calculation, values, value, -, hconstants, -, rfl⟩ := foldCall_eq_some h
    rw [Option.getD_some, names_constant, namesAll_constants hconstants]

lemma runAll_constants (h : Constants args values) (env : Env) :
    Code.runAll env (codeAll args) = pure (values.map Value.toRuntime) := by
  induction h with
  | nil => rfl
  | cons harg _ ih =>
    obtain ⟨ty, rfl⟩ := harg
    rw [codeAll, code, Code.runAll, Code.run, ih]
    rfl

lemma run_foldCall (h : foldCall op args ty = some folded) (env : Env) :
    folded.code.run env = (Code.call op (codeAll args)).run env := by
  obtain ⟨calculation, values, value, hnative, hconstants, hrun, rfl⟩ := foldCall_eq_some h
  have hvalue : (value.fromRuntime ty).toRuntime = value := by
    rw [Value.toRuntime_fromRuntime]
    exact Value.isRuntime_run hrun
  rw [code, Code.run, hvalue, Code.run, runAll_constants hconstants env, pure_bind, Op.run, hnative,
    Native.run, hrun, Eval.ofExcept_ok]

lemma run_conjunction (a b : Value) (env : Env) :
    (Code.connective false (.constant a) (.constant b)).run env =
      Eval.ofExcept (Calculation.and.run [a, b]) := by
  have ha : boolArgument [a, b] 0 "&&" = a.truth := rfl
  have hb : boolArgument [a, b] 1 "&&" = b.truth := rfl
  simp only [Code.run, Calculation.run, ha, hb, pure_bind]
  rcases a.truth with e | _ | _
  · rfl
  · rcases b.truth with e | _ <;> rfl
  · rcases b.truth with e | _ <;> rfl

lemma run_disjunction (a b : Value) (env : Env) :
    (Code.connective true (.constant a) (.constant b)).run env =
      Eval.ofExcept (Calculation.or.run [a, b]) := by
  have ha : boolArgument [a, b] 0 "||" = a.truth := rfl
  have hb : boolArgument [a, b] 1 "||" = b.truth := rfl
  simp only [Code.run, Calculation.run, ha, hb, pure_bind]
  rcases a.truth with e | _ | _
  · rfl
  · rcases b.truth with e | _ <;> rfl
  · rcases b.truth with e | _ <;> rfl

/-- With constant operands a connective gives what its calculation gives. -/
lemma run_binaryCode_constant (op : Op) (a b : Value) (env : Env) :
    (binaryCode op (.constant a) (.constant b)).run env =
      (Code.call op [.constant a, .constant b]).run env := by
  have hcall : (Code.call op [.constant a, .constant b]).run env = op.run env [a, b] := by
    simp only [Code.run, Code.runAll, pure_bind]
  rw [hcall, Op.run]
  unfold binaryCode
  split
  · rename_i hnative
    rw [hnative, run_conjunction]
    rfl
  · rename_i hnative
    rw [hnative, run_disjunction]
    rfl
  · rfl

lemma run_binaryCode_congr (op : Op) {l l' r r' : Code} {env : Env} (hl : l'.run env = l.run env)
    (hr : r'.run env = r.run env) : (binaryCode op l' r').run env = (binaryCode op l r).run env := by
  unfold binaryCode
  split
  · rw [Code.run, Code.run, hl, hr]
  · rw [Code.run, Code.run, hl, hr]
  · simp only [Code.run, Code.runAll, hl, hr]

lemma run_foldCall_binary {lhs rhs : Expr} (h : foldCall op [lhs, rhs] ty = some folded)
    (env : Env) : folded.code.run env = (binaryCode op lhs.code rhs.code).run env := by
  obtain ⟨calculation, values, value, -, hconstants, -, -⟩ := foldCall_eq_some h
  cases hconstants with
  | cons hl hrest =>
    cases hrest with
    | cons hr _ =>
      obtain ⟨tl, rfl⟩ := hl
      obtain ⟨tr, rfl⟩ := hr
      rw [run_foldCall h env]
      exact (run_binaryCode_constant op _ _ env).symm

lemma run_foldMember (object : Expr) (name : String) (ty : Ty) (env : Env) :
    (foldMember object name ty).code.run env = (Expr.member ty object name).code.run env := by
  rcases foldMember_cases object name ty with ⟨ty', fields, field, rfl, hfield, h⟩ | h
  · have hget : Named.get? (fields.map fun entry => (entry.1, entry.2.toRuntime)) name =
        some field.toRuntime := by
      rw [Named.get?_map, hfield]
      rfl
    rw [h, code, code, code, Code.run, Code.run, Code.run, pure_bind, Value.toRuntime_object,
      Value.member, hget, Eval.ofExcept_ok]
  · rw [h]

lemma run_foldArray (items : List Expr) (ty : Ty) (env : Env) :
    (foldArray items ty).code.run env = (Expr.array ty items).code.run env := by
  rcases foldArray_cases items ty with ⟨values, hvalues, h⟩ | h
  · rw [h, code, code, Code.run, Code.run, runAll_constants hvalues env, Value.toRuntime_array,
      pure_bind]
  · rw [h]

end Calls

mutual

/-- A folded expression keeps its names, except for those that are replaced. -/
theorem names_fold {constants : Named Expr} (h : OnlyConstants constants) :
    (expr : Expr) → (expr.fold constants).names = expr.names.filter (isKept constants)
  | constant ty value => by rw [fold, names_foldConstant, names_constant, List.filter_nil]
  | var ty name => by
    rw [fold, names_var]
    cases hget : Named.get? constants name with
    | none => simp [isKept, Named.has, hget]
    | some expr =>
      obtain ⟨ty', value, rfl⟩ := h name expr hget
      simp [isKept, Named.has, hget]
  | keyword ty cell => rfl
  | member ty object name => by rw [fold, names_foldMember, names_fold h object, names_member]
  | call ty op args => by
    rw [fold, names_foldCall (names_call ty op _), namesAll_foldAll h args, names_call]
  | unary ty op arg => by
    have hother : ∀ e : Expr, (unary ty op e).names = namesAll [e] := fun e => by simp
    rw [fold, names_foldCall (hother _), namesAll_cons, namesAll_nil, List.append_nil,
      names_fold h arg, names_unary]
  | binary ty op lhs rhs => by
    have hother : ∀ l r : Expr, (binary ty op l r).names = namesAll [l, r] := fun l r => by simp
    rw [fold, names_foldCall (hother _ _), namesAll_cons, namesAll_cons, namesAll_nil,
      List.append_nil, names_fold h lhs, names_fold h rhs, names_binary, List.filter_append]
  | tuple ty items => by rw [fold, names_tuple, namesAll_foldAll h items, names_tuple]
  | array ty items => by rw [fold, names_foldArray, namesAll_foldAll h items, names_array]

theorem namesAll_foldAll {constants : Named Expr} (h : OnlyConstants constants) :
    (exprs : List Expr) →
      namesAll (foldAll constants exprs) = (namesAll exprs).filter (isKept constants)
  | [] => rfl
  | expr :: rest => by
    rw [foldAll, namesAll_cons, namesAll_cons, names_fold h expr, namesAll_foldAll h rest,
      List.filter_append]

end

lemma vars_fold {constants : Named Expr} (h : OnlyConstants constants) (expr : Expr) :
    (expr.fold constants).vars = expr.vars.filter fun x => !Named.has constants x := by
  rw [vars_eq, names_fold h, vars_eq, List.filterMap_filter, List.filter_filterMap]
  congr 1
  funext name
  cases name with
  | var ty x => by_cases hx : Named.has constants x = true <;> simp [isKept, varName?, Option.filter, hx]
  | _ => rfl

lemma reads_fold {constants : Named Expr} (h : OnlyConstants constants) (expr : Expr) :
    (expr.fold constants).reads = expr.reads := by
  rw [reads_eq, names_fold h, reads_eq, List.filterMap_filter]
  congr 1
  funext name
  cases name with
  | var ty x => simp [cell?]
  | _ => rfl

mutual

/-- In an environment that agrees with the constants, a folded expression runs like the
expression. -/
theorem run_fold {constants : Named Expr} {env : Env} (honly : OnlyConstants constants)
    (h : Agrees constants env) :
    (expr : Expr) → expr.Normal → (expr.fold constants).code.run env = expr.code.run env
  | constant ty value, hn => by rw [fold, foldConstant_of_normal hn]
  | var ty name, _ => by
    rw [fold]
    cases hget : Named.get? constants name with
    | none => rfl
    | some expr =>
      obtain ⟨ty', value, rfl⟩ := honly name expr hget
      rw [Option.getD_some, code, Code.run, code, Code.run, h name ty' value hget,
        Eval.ofExcept_ok]
  | keyword ty cell, _ => rfl
  | member ty object name, hn => by
    have ih := run_fold honly h object (normal_of_mem hn (List.subset_cons_self _ _))
    rw [fold, run_foldMember, code, code, Code.run, Code.run, ih]
  | call ty op args, hn => by
    have ih := runAll_foldAll honly h args (normal_all hn (List.subset_cons_self _ _))
    have hcall : (Code.call op (codeAll (foldAll constants args))).run env =
        (Code.call op (codeAll args)).run env := by rw [Code.run, Code.run, ih]
    rw [fold]
    cases hfold : foldCall op (foldAll constants args) ty with
    | none => exact hcall
    | some folded =>
      rw [Option.getD_some, run_foldCall hfold env]
      exact hcall
  | unary ty op arg, hn => by
    have ih := run_fold honly h arg (normal_of_mem hn (List.subset_cons_self _ _))
    have hcall : (Code.call op [(arg.fold constants).code]).run env =
        (Code.call op [arg.code]).run env := by
      simp only [Code.run, Code.runAll, ih]
    rw [fold]
    cases hfold : foldCall op [arg.fold constants] ty with
    | none => exact hcall
    | some folded =>
      rw [Option.getD_some, run_foldCall hfold env]
      exact hcall
  | binary ty op lhs rhs, hn => by
    have hl := run_fold honly h lhs (normal_of_mem hn
      (List.subset_cons_of_subset _ (List.subset_append_left _ _)))
    have hr := run_fold honly h rhs (normal_of_mem hn
      (List.subset_cons_of_subset _ (List.subset_append_right _ _)))
    have hcall := run_binaryCode_congr op hl hr
    rw [fold]
    cases hfold : foldCall op [lhs.fold constants, rhs.fold constants] ty with
    | none => exact hcall
    | some folded =>
      rw [Option.getD_some, run_foldCall_binary hfold env]
      exact hcall
  | tuple ty items, hn => by
    have ih := runAll_foldAll honly h items (normal_all hn (List.subset_cons_self _ _))
    rw [fold, code, code, Code.run, Code.run, ih]
  | array ty items, hn => by
    have ih := runAll_foldAll honly h items (normal_all hn (List.subset_cons_self _ _))
    rw [fold, run_foldArray, code, code, Code.run, Code.run, ih]

theorem runAll_foldAll {constants : Named Expr} {env : Env} (honly : OnlyConstants constants)
    (h : Agrees constants env) :
    (exprs : List Expr) → (∀ expr ∈ exprs, expr.Normal) →
      Code.runAll env (codeAll (foldAll constants exprs)) = Code.runAll env (codeAll exprs)
  | [], _ => rfl
  | expr :: rest, hn => by
    have hfirst := run_fold honly h expr (hn expr List.mem_cons_self)
    have hrest := runAll_foldAll honly h rest fun e he => hn e (List.mem_cons_of_mem _ he)
    rw [foldAll, codeAll, codeAll, Code.runAll, Code.runAll, hfirst, hrest]

end

end Expr

end Typed

/-- Folding a checked expression changes neither the error of compiling it nor what its code does:
compiling the folded expression fails in the same way, or both pieces of code are the same
computation in every environment. From a world in which each draw brings the same, they give the same
value or the same error, after the same draws. -/
theorem compile_fold_run [PatternEngine] {scope : Scope} {keywords : Named Ty} {e : Source.Expr}
    {te : Typed.Expr} (h : (checkExpr scope keywords e).result = .ok te) (locals : Locals)
    (env : Env) :
    ((te.fold []).compile locals).map (fun code => code.run env) =
      (te.compile locals).map (fun code => code.run env) := by
  have hvars : (te.fold []).vars = te.vars := by
    rw [Typed.Expr.vars_fold Typed.Expr.onlyConstants_nil]
    exact List.filter_eq_self.2 fun _ _ => rfl
  have hnormal := (checkExpr_checked scope keywords e h).normal
  have hrun := Typed.Expr.run_fold Typed.Expr.onlyConstants_nil (Typed.Expr.agrees_nil env) te
    hnormal
  rw [Typed.Expr.compile_eq, Typed.Expr.compile_eq, hvars]
  unfold guarded
  split
  · exact congrArg Except.ok hrun
  · rfl

/-- Two lengths in different units are added before the code runs. Whether two draws of the clock are
equal is found out by each run, which asks the clock twice. -/
theorem compile_fold_run_lengths :
    (∃ te, (checkExpr .empty [] (.binary "+" (.constant (.measure 2.0 "km"))
        (.constant (.measure 500.0 "m")))).result = .ok te ∧
      ((te.fold []).compile []).map (fun code => code.run (.ofSettings .default)) =
        (te.compile []).map (fun code => code.run (.ofSettings .default))) ∧
    ∃ te code, (checkExpr .empty [] (.binary "=" (.call "now" []) (.call "now" []))).result = .ok te ∧
      (te.fold []).compile [] = .ok code ∧ ∀ w, code.run (.ofSettings .default) w =
        .ok (.boolean ((Value.date (w.draws w.drawn).now).alike (.date (w.draws (w.drawn + 1)).now)))
          { w with drawn := w.drawn + 2 } := by
  have hlengths : (checkExpr .empty [] (.binary "+" (.constant (.measure 2.0 "km"))
      (.constant (.measure 500.0 "m")))).result =
    .ok (.binary (.measure "m") ⟨"+", 1, .calculation .add⟩
      (.constant (.measure "m") (.measure (2.0 * 1000.0) "m"))
      (.constant (.measure "m") (.measure (500.0 * 1.0) "m"))) := rfl
  have hclock : (checkExpr .empty [] (.binary "=" (.call "now" []) (.call "now" []))).result =
    .ok (.binary .boolean ⟨"=", 0, .calculation .equal⟩
      (.call .date ⟨"now", 0, .draw .now⟩ []) (.call .date ⟨"now", 0, .draw .now⟩ [])) := rfl
  have hsame := compile_fold_run hclock [] (.ofSettings .default)
  refine ⟨⟨_, hlengths, compile_fold_run hlengths [] _⟩, _, _, hclock, rfl, fun w => ?_⟩
  exact congrFun (Except.ok.inj hsame) w

end ChannelRules
