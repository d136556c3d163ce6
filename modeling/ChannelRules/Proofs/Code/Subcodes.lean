import ChannelRules.Code.Clause
import ChannelRules.Proofs.Builtin.Bound
import ChannelRules.Proofs.Code.Expr

/-!
# What stands in code

All variables, keywords and operations of compiled code come from the expression. Code fails and
writes in no other way than these do, and so do the conditions that are made of it.
-/

namespace ChannelRules

namespace Code

mutual

def subcodes : Code → List Code
  | constant value => [constant value]
  | var name => [var name]
  | keyword cell => [keyword cell]
  | member object name => member object name :: subcodes object
  | call op args => call op args :: subcodesAll args
  | connective decisive lhs rhs => connective decisive lhs rhs :: (subcodes lhs ++ subcodes rhs)
  | items codes => items codes :: subcodesAll codes

def subcodesAll : List Code → List Code
  | [] => []
  | code :: rest => subcodes code ++ subcodesAll rest

end

/-- Code stands for an expression that is the same variable, keyword or operation. -/
def StandsFor (code : Code) (expr : Typed.Expr) : Prop :=
  match code with
  | var name => expr.varName? = some name
  | keyword cell => expr.cell? = some cell
  | call op _ => expr.op? = some op
  | _ => True

end Code

namespace Typed.Expr

/-- Each of some code stands for an expression among the given ones. -/
def Covers (exprs : List Expr) (codes : List Code) : Prop :=
  ∀ sub ∈ codes, ∃ node ∈ exprs, sub.StandsFor node

lemma Covers.cons {exprs : List Expr} {expr : Expr} {codes : List Code} {code : Code}
    (hcode : code.StandsFor expr) (h : Covers exprs codes) :
    Covers (expr :: exprs) (code :: codes) := by
  intro sub hsub
  rcases List.mem_cons.1 hsub with rfl | hsub
  · exact ⟨expr, List.mem_cons_self, hcode⟩
  · obtain ⟨node, hnode, hstands⟩ := h sub hsub
    exact ⟨node, List.mem_cons_of_mem _ hnode, hstands⟩

lemma Covers.append {xs ys : List Expr} {codes codes' : List Code} (h : Covers xs codes)
    (h' : Covers ys codes') : Covers (xs ++ ys) (codes ++ codes') := by
  intro sub hsub
  rcases List.mem_append.1 hsub with hsub | hsub
  · obtain ⟨node, hnode, hstands⟩ := h sub hsub
    exact ⟨node, List.mem_append_left _ hnode, hstands⟩
  · obtain ⟨node, hnode, hstands⟩ := h' sub hsub
    exact ⟨node, List.mem_append_right _ hnode, hstands⟩

lemma covers_binaryCode {ty : Ty} {op : Op} {lhs rhs : Expr} {l r : Code}
    (hl : Covers lhs.subexprs l.subcodes) (hr : Covers rhs.subexprs r.subcodes) :
    Covers (binary ty op lhs rhs).subexprs (binaryCode op l r).subcodes := by
  unfold binaryCode
  split
  · exact .cons trivial (hl.append hr)
  · exact .cons trivial (hl.append hr)
  · rw [Code.subcodes, Code.subcodesAll, Code.subcodesAll, Code.subcodesAll, List.append_nil]
    exact .cons rfl (hl.append hr)

mutual

/-- What stands in the code of an expression stands in the expression. -/
theorem covers_code : (expr : Expr) → Covers expr.subexprs expr.code.subcodes
  | constant _ _ => .cons trivial nofun
  | var _ _ => .cons rfl nofun
  | keyword _ _ => .cons rfl nofun
  | member _ object _ => .cons trivial (covers_code object)
  | call _ _ args => .cons rfl (covers_codeAll args)
  | unary _ _ arg => by
    rw [code, Code.subcodes, Code.subcodesAll, Code.subcodesAll, List.append_nil]
    exact .cons rfl (covers_code arg)
  | binary _ _ lhs rhs => covers_binaryCode (covers_code lhs) (covers_code rhs)
  | tuple _ items => .cons trivial (covers_codeAll items)
  | array _ items => .cons trivial (covers_codeAll items)

theorem covers_codeAll : (exprs : List Expr) →
    Covers (subexprsAll exprs) (Code.subcodesAll (codeAll exprs))
  | [] => nofun
  | expr :: rest => (covers_code expr).append (covers_codeAll rest)

end

end Typed.Expr

namespace Code

open Eval (Ensures ensures_pure ensures_throw ensures_ofExcept)

variable {I : Named Value → Prop} {E : RuntimeError → Prop} {env : Env}

/-- A part of code that fails as given only: variables and keywords that are not there, and the text
of an event. -/
def Supplied (I : Named Value → Prop) (E : RuntimeError → Prop) (env : Env) : Code → Prop
  | var name => Gives (fun _ => True) E (env.readVar name)
  | keyword cell => E (.unknownKeyword cell)
  | call op _ => op.native = .rendering .eventText →
    ∀ hint, Ensures I (fun _ => True) E (env.formatEvent hint)
  | _ => True

lemma readKeyword_ensures {cell : String} (h : E (.unknownKeyword cell)) :
    Ensures I (fun _ => True) E (Eval.readKeyword cell) := by
  intro w hw
  unfold Eval.readKeyword
  cases Named.get? w.cells cell with
  | none => exact ⟨hw, h⟩
  | some value => exact ⟨hw, trivial⟩

section Run

variable (hinner : ∀ e, RuntimeError.isOuter e = false → E e)
include hinner

lemma truth_gives (value : Value) : Gives (fun _ => True) E value.truth := by
  unfold Value.truth
  split
  · trivial
  · exact hinner _ rfl

lemma textual_gives (value : Value) : Gives (fun _ => True) E value.textual := by
  unfold Value.textual
  split
  · trivial
  · exact hinner _ rfl

lemma member_gives (object : Value) (name : String) :
    Gives (fun _ => True) E (object.member name) := by
  unfold Value.member
  split
  · split
    · trivial
    · exact hinner _ rfl
  · exact hinner _ rfl

end Run

variable [PatternEngine]

mutual

/-- Code is as good as the parts of it. -/
theorem run_ensures (hinner : ∀ e, RuntimeError.isOuter e = false → E e) :
    (code : Code) → (∀ sub ∈ code.subcodes, sub.Supplied I E env) →
    Ensures I (fun _ => True) E (code.run env)
  | constant _, _ => by
    rw [run]
    exact ensures_pure trivial
  | var name, h => by
    rw [run]
    exact ensures_ofExcept (h (var name) List.mem_cons_self)
  | keyword cell, h => by
    rw [run]
    exact readKeyword_ensures (h (keyword cell) List.mem_cons_self)
  | member object name, h => by
    have hobject := run_ensures hinner object fun sub hsub => h sub (List.mem_cons_of_mem _ hsub)
    rw [run]
    exact hobject.bind fun value _ => ensures_ofExcept (member_gives hinner value name)
  | call op args, h => by
    have hargs := runAll_ensures hinner args fun sub hsub => h sub (List.mem_cons_of_mem _ hsub)
    rw [run]
    exact hargs.bind fun values _ => op.run_ensures values hinner (h (call op args) List.mem_cons_self)
  | connective decisive lhs rhs, h => by
    have hoperands : ∀ sub ∈ lhs.subcodes ++ rhs.subcodes, sub.Supplied I E env :=
      fun sub hsub => h sub (List.mem_cons_of_mem _ hsub)
    rw [List.forall_mem_append] at hoperands
    have hlhs := run_ensures hinner lhs hoperands.1
    have hrhs := run_ensures hinner rhs hoperands.2
    rw [run]
    refine hlhs.bind fun left _ => (ensures_ofExcept (truth_gives hinner left)).bind fun b _ => ?_
    split
    · exact ensures_pure trivial
    · exact hrhs.bind fun right _ =>
        (ensures_ofExcept (truth_gives hinner right)).bind fun _ _ => ensures_pure trivial
  | items codes, h => by
    have hcodes := runAll_ensures hinner codes fun sub hsub => h sub (List.mem_cons_of_mem _ hsub)
    rw [run]
    exact hcodes.bind fun _ _ => ensures_pure trivial

theorem runAll_ensures (hinner : ∀ e, RuntimeError.isOuter e = false → E e) :
    (codes : List Code) → (∀ sub ∈ subcodesAll codes, sub.Supplied I E env) →
    Ensures I (fun _ => True) E (runAll env codes)
  | [], _ => by
    rw [runAll]
    exact ensures_pure trivial
  | code :: rest, h => by
    rw [subcodesAll, List.forall_mem_append] at h
    have hcode := run_ensures hinner code h.1
    have hrest := runAll_ensures hinner rest h.2
    rw [runAll]
    exact hcode.bind fun _ _ => hrest.bind fun _ _ => ensures_pure trivial

end

end Code

/-- Inputs are as good as the code of each. -/
lemma CompiledInvocation.runInputs_ensures [PatternEngine] {I : Named Value → Prop}
    {E : RuntimeError → Prop} {env : Env} {inputs : List (Option Code)}
    (h : ∀ code, some code ∈ inputs → Eval.Ensures I (fun _ => True) E (code.run env)) :
    Eval.Ensures I (fun _ => True) E (runInputs env inputs) := by
  induction inputs with
  | nil => exact Eval.ensures_pure trivial
  | cons input rest ih =>
    have hinput : Eval.Ensures I (fun _ => True) E (Code.runOptional env input) := by
      cases input with
      | none => exact Eval.ensures_pure trivial
      | some code => exact (h code List.mem_cons_self).bind fun _ _ => Eval.ensures_pure trivial
    have hrest := ih fun code hcode => h code (List.mem_cons_of_mem _ hcode)
    rw [runInputs]
    exact hinput.bind fun _ _ => hrest.bind fun _ _ => Eval.ensures_pure trivial

namespace Step

open Eval (Ensures ensures_pure ensures_throw ensures_ofExcept)

variable {I : Named Value → Prop} {E : RuntimeError → Prop} {env : Env}

lemma elements_gives (hinner : ∀ e, RuntimeError.isOuter e = false → E e) (container : Value) :
    Gives (fun _ => True) E (elements container) := by
  unfold elements
  split
  · trivial
  · trivial
  · exact hinner _ rfl

variable [PatternEngine]

lemma checkValues_ensures {frame : Frame} {checks : List (Nat × Code)}
    (h : ∀ check ∈ checks, Gives (fun _ => True) E (frame.get check.1) ∧
      Ensures I (fun _ => True) E (check.2.run env)) :
    Ensures I (fun _ => True) E (checkValues frame env checks) := by
  induction checks with
  | nil => exact ensures_pure trivial
  | cons check rest ih =>
    obtain ⟨hvalue, hexpected⟩ := h check List.mem_cons_self
    rw [checkValues]
    refine hexpected.bind fun expected _ => (ensures_ofExcept hvalue).bind fun value _ => ?_
    split
    · exact ih fun check hcheck => h check (List.mem_cons_of_mem _ hcheck)
    · exact ensures_pure trivial

variable (hinner : ∀ e, RuntimeError.isOuter e = false → E e)
include hinner

lemma condition_ensures {code : Code} (h : Ensures I (fun _ => True) E (code.run env)) :
    Ensures I (fun _ => True) E (do Eval.ofExcept (← code.run env).truth) :=
  h.bind fun value _ => ensures_ofExcept (Code.truth_gives hinner value)

lemma computed_ensures {pattern flags : Code}
    (hpattern : Ensures I (fun _ => True) E (pattern.run env))
    (hflags : Ensures I (fun _ => True) E (flags.run env)) :
    Ensures I (fun _ => True) E ((PatternSource.computed pattern flags).read env) := by
  refine hpattern.bind fun p _ => hflags.bind fun f _ => ?_
  refine (ensures_ofExcept (Code.textual_gives hinner p)).bind fun p _ => ?_
  refine (ensures_ofExcept (Code.textual_gives hinner f)).bind fun f _ => ?_
  exact ensures_ofExcept ((buildRegex_inner p f).mono (fun _ h => h) hinner)

lemma hasElement_ensures {container element : Code}
    (hcontainer : Ensures I (fun _ => True) E (container.run env))
    (helement : Ensures I (fun _ => True) E (element.run env)) :
    Ensures I (fun _ => True) E (hasElement container element env) := by
  rw [hasElement]
  refine hcontainer.bind fun value _ => ?_
  split
  · exact helement.bind fun _ _ => ensures_pure trivial
  · exact helement.bind fun _ _ => ensures_pure trivial
  · exact ensures_throw (hinner _ rfl)

end Step

namespace Typed.Expr

/-- The code of an expression is as good as the variables and operations of the expression. -/
theorem code_ensures [PatternEngine] {I : Named Value → Prop} {E : RuntimeError → Prop} {env : Env}
    (hinner : ∀ e, RuntimeError.isOuter e = false → E e) (hkeyword : ∀ cell, E (.unknownKeyword cell))
    {expr : Expr} (hvars : ∀ x ∈ expr.vars, Gives (fun _ => True) E (env.readVar x))
    (hops : ∀ op ∈ expr.ops, op.native = .rendering .eventText →
      ∀ hint, Eval.Ensures I (fun _ => True) E (env.formatEvent hint)) :
    Eval.Ensures I (fun _ => True) E (expr.code.run env) := by
  refine expr.code.run_ensures hinner fun sub hsub => ?_
  obtain ⟨node, hnode, hstands⟩ := expr.covers_code sub hsub
  cases sub with
  | var name => exact hvars name (List.mem_filterMap.2 ⟨node, hnode, hstands⟩)
  | keyword cell => exact hkeyword cell
  | call op args => exact hops op (List.mem_filterMap.2 ⟨node, hnode, hstands⟩)
  | _ => trivial

end Typed.Expr

end ChannelRules
