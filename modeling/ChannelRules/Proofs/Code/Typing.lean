import ChannelRules.Pattern.Machine
import ChannelRules.Proofs.Builtin.Table
import ChannelRules.Proofs.Check.Expr
import ChannelRules.Proofs.Code.Expr
import ChannelRules.Proofs.Value.Literal

/-!
# Type soundness of expressions

The code of a checked expression gives a value of the expression's type, or a failure that no type
rules out, when its variables and keywords have values of their types.
-/

namespace ChannelRules

open Typed (Expr)
open Value (Accepted HasType)
open Eval (ensures_pure ensures_ofExcept ensures_readKeyword ensures_writeKeyword)

lemma forall₂_accepted {vars : String → Value → Prop} {values : List Value}
    {types formals : List Ty} (hvalues : List.Forall₂ HasType values types)
    (h : List.Forall₂ (fun ty formal => ∀ v : Value, v.HasType ty → v.Accepted vars formal)
      types formals) : List.Forall₂ (Accepted vars) values formals := by
  induction hvalues generalizing formals with
  | nil =>
    cases h
    exact .nil
  | cons hv _ ih =>
    cases h with
    | cons hformal hrest => exact .cons (hformal _ hv) (ih hrest)

/-- A use of a sound builtin gives a value of the type that was found for it. -/
lemma Builtin.run_safe [PatternEngine] {builtin : Builtin} {types : List Ty} {resolution : Resolution}
    (hsound : builtin.Sound) (hproper : ∀ overload ∈ builtin.overloads, overload.Proper)
    (hresolve : (builtin.resolve types).result = .ok resolution)
    (htypes : ∀ ty ∈ types, ty.hasVars = false) (hresult : resolution.result.isStatic = true)
    {values : List Value} (hvalues : List.Forall₂ HasType values types) {I : Named Value → Prop}
    {env : Env} (hformat : env.FormattersKeep I) :
    Safely I env (fun v => v.HasType resolution.result) (resolution.op.run env values) := by
  obtain ⟨overload, hmem, formals, hformals, hattempt, hnative⟩ := resolveFrom_eq_ok hresolve
  obtain ⟨vars, haccepts, hinhabits⟩ :=
    Overload.attempt_accepts (hproper overload hmem) hformals htypes hresult hattempt
  rw [← hvalues.length_eq] at hformals
  have hrun := hsound overload hmem I env hformat vars values formals hformals
    (forall₂_accepted hvalues haccepts)
  rw [Op.run, hnative]
  exact hrun.mono hinhabits fun _ he => he

/-- The connectives, which code treats in its own way, take two truth values and give one. -/
lemma Builtin.connective_signature : ∀ builtin ∈ binaryOperators, ∀ overload ∈ builtin.overloads,
    overload.native = .calculation .and ∨ overload.native = .calculation .or →
      overload.params = [.boolean, .boolean] ∧ overload.rest = none ∧
        overload.result = .boolean := by
  decide

lemma Builtin.resolve_connective {builtin : Builtin} {lhs rhs : Ty} {resolution : Resolution}
    (hbuiltin : builtin ∈ binaryOperators)
    (hresolve : (builtin.resolve [lhs, rhs]).result = .ok resolution)
    (hlhs : lhs.hasVars = false) (hrhs : rhs.hasVars = false)
    (hresult : resolution.result.isStatic = true)
    (hnative : resolution.op.native = .calculation .and ∨
      resolution.op.native = .calculation .or) :
    (∀ v : Value, v.HasType lhs → ∃ b, v = .boolean b) ∧
      (∀ v : Value, v.HasType rhs → ∃ b, v = .boolean b) ∧
      ∀ b, (Value.boolean b).HasType resolution.result := by
  obtain ⟨overload, hmem, formals, hformals, hattempt, hchosen⟩ := resolveFrom_eq_ok hresolve
  rw [hchosen] at hnative
  obtain ⟨hparams, hrest, hbool⟩ := connective_signature builtin hbuiltin overload hmem hnative
  have hproper := all_proper builtin
    (List.mem_append_left _ (List.mem_append_left _ hbuiltin)) overload hmem
  obtain ⟨vars, haccepts, hinhabits⟩ := Overload.attempt_accepts hproper hformals
    (by simp [hlhs, hrhs]) hresult hattempt
  have hboth : formals = [.boolean, .boolean] := by
    unfold Overload.formals? at hformals
    rw [hrest, hparams] at hformals
    exact (Option.some.inj hformals).symm
  rw [hboth] at haccepts
  rw [hbool] at hinhabits
  cases haccepts with
  | cons hl haccepts =>
    cases haccepts with
    | cons hr _ =>
      refine ⟨fun v hv => ?_, fun v hv => ?_, fun b => hinhabits _ (.boolean b)⟩
      · exact inhabits_boolean.1 (inhabits_of_accepted rfl (hl v hv))
      · exact inhabits_boolean.1 (inhabits_of_accepted rfl (hr v hv))

/-- What an expression takes for granted: its types are known throughout, its constants stand for
themselves, and its variables have values of their types. So have its keywords in all cells with a
property, and formatters write no other cells. -/
structure Typed.Expr.Supplied (expr : Expr) (I : Named Value → Prop) (env : Env) : Prop where
  static : ∀ node ∈ expr.subexprs, node.ty.isStatic = true
  literal : ∀ ty value, .constant ty value ∈ expr.subexprs → value.mentionsName = false
  var : ∀ ty name, .var ty name ∈ expr.subexprs → ∃ v, env.readVar name = .ok v ∧ v.HasType ty
  keyword : ∀ ty cell, .keyword ty cell ∈ expr.subexprs → ∀ cells, I cells →
    ∃ v, Named.get? cells cell = some v ∧ v.HasType ty
  formatters : env.FormattersKeep I

section Supplied

variable {expr : Expr} {I : Named Value → Prop} {env : Env}

lemma Typed.Expr.Supplied.of_subset {sub : Expr} (h : expr.Supplied I env)
    (hsub : sub.subexprs ⊆ expr.subexprs) : sub.Supplied I env where
  static node hnode := h.static node (hsub hnode)
  literal ty value hnode := h.literal ty value (hsub hnode)
  var ty name hnode := h.var ty name (hsub hnode)
  keyword ty cell hnode := h.keyword ty cell (hsub hnode)
  formatters := h.formatters

lemma Typed.Expr.Supplied.all {exprs : List Expr} (h : expr.Supplied I env)
    (hsub : Expr.subexprsAll exprs ⊆ expr.subexprs) : ∀ sub ∈ exprs, sub.Supplied I env :=
  fun _ hmem => h.of_subset (List.Subset.trans (Expr.subexprs_subset hmem) hsub)

lemma Typed.Expr.mem_subexprs_self (expr : Expr) : expr ∈ expr.subexprs := by
  cases expr <;> exact List.mem_cons_self

lemma Typed.Expr.Supplied.isStatic (h : expr.Supplied I env) : expr.ty.isStatic = true :=
  h.static expr expr.mem_subexprs_self

lemma Typed.Expr.Supplied.hasVars (h : expr.Supplied I env) : expr.ty.hasVars = false :=
  Ty.hasVars_of_isStatic _ h.isStatic

end Supplied

lemma exists_type_of_mem {values : List Value} {types : List Ty}
    (h : List.Forall₂ HasType values types) {v : Value} (hv : v ∈ values) :
    ∃ ty ∈ types, v.HasType ty := by
  induction h with
  | nil => cases hv
  | cons hfirst _ ih =>
    rcases List.mem_cons.1 hv with rfl | hv
    · exact ⟨_, List.mem_cons_self, hfirst⟩
    · obtain ⟨ty, hty, hinhabits⟩ := ih hv
      exact ⟨ty, List.mem_cons_of_mem _ hty, hinhabits⟩

section Run

variable [PatternEngine] {I : Named Value → Prop} {env : Env}

lemma runAll_safe {exprs : List Expr}
    (h : ∀ expr ∈ exprs, Safely I env (fun v => v.HasType expr.ty) (expr.code.run env)) :
    Safely I env (fun values => List.Forall₂ HasType values (exprs.map Expr.ty))
      (Code.runAll env (Expr.codeAll exprs)) := by
  induction exprs with
  | nil => exact ensures_pure .nil
  | cons expr rest ih =>
    rw [Expr.codeAll, Code.runAll]
    refine (h expr List.mem_cons_self).bind fun v hv => ?_
    refine (ih fun e he => h e (List.mem_cons_of_mem _ he)).bind fun values hvalues => ?_
    exact ensures_pure (.cons hv hvalues)

lemma member_safe {ty ty' : Ty} {name : String} {object : Value} (hstatic : ty.isStatic = true)
    (hty : memberType ty name = .ok ty') (h : object.HasType ty) :
    Gives (fun v => v.HasType ty') (RuntimeError.Excused env) (object.member name) := by
  unfold memberType at hty
  split at hty
  · rename_i fields
    split at hty
    · rename_i field hfield
      cases hty
      cases h with
      | object pick hpick hfields =>
        rw [Value.member, hpick name _ hfield]
        exact hfields name _ hfield
    · cases hty
  · cases hstatic
  · cases hstatic
  · cases hty

lemma connective_safe {decisive : Bool} {l r : Code} {lhs rhs result : Ty}
    (hl : Safely I env (fun v => v.HasType lhs) (l.run env))
    (hr : Safely I env (fun v => v.HasType rhs) (r.run env))
    (hlhs : ∀ v : Value, v.HasType lhs → ∃ b, v = .boolean b)
    (hrhs : ∀ v : Value, v.HasType rhs → ∃ b, v = .boolean b)
    (hresult : ∀ b, (Value.boolean b).HasType result) :
    Safely I env (fun v => v.HasType result) ((Code.connective decisive l r).run env) := by
  rw [Code.run]
  refine hl.bind fun left hleft => ?_
  obtain ⟨a, rfl⟩ := hlhs left hleft
  have ha : (Value.boolean a).truth = .ok a := rfl
  rw [ha, Eval.ofExcept_ok, pure_bind]
  split
  · exact ensures_pure (hresult a)
  · refine hr.bind fun right hright => ?_
    obtain ⟨b, rfl⟩ := hrhs right hright
    have hb : (Value.boolean b).truth = .ok b := rfl
    rw [hb, Eval.ofExcept_ok, pure_bind]
    exact ensures_pure (hresult b)

lemma binaryCode_safe {builtin : Builtin} {lhs rhs : Expr} {resolution : Resolution}
    (hbuiltin : builtin ∈ Builtin.binaryOperators)
    (hresolve : (builtin.resolve [lhs.ty, rhs.ty]).result = .ok resolution)
    (hlhs : lhs.ty.hasVars = false) (hrhs : rhs.ty.hasVars = false)
    (hresult : resolution.result.isStatic = true) (hformat : env.FormattersKeep I)
    (hl : Safely I env (fun v => v.HasType lhs.ty) (lhs.code.run env))
    (hr : Safely I env (fun v => v.HasType rhs.ty) (rhs.code.run env)) :
    Safely I env (fun v => v.HasType resolution.result)
      ((Expr.binaryCode resolution.op lhs.code rhs.code).run env) := by
  unfold Expr.binaryCode
  split
  · rename_i hnative
    obtain ⟨hleft, hright, hbool⟩ :=
      Builtin.resolve_connective hbuiltin hresolve hlhs hrhs hresult (.inl hnative)
    exact connective_safe hl hr hleft hright hbool
  · rename_i hnative
    obtain ⟨hleft, hright, hbool⟩ :=
      Builtin.resolve_connective hbuiltin hresolve hlhs hrhs hresult (.inr hnative)
    exact connective_safe hl hr hleft hright hbool
  · have hargs : ∀ expr ∈ [lhs, rhs],
        Safely I env (fun v => v.HasType expr.ty) (expr.code.run env) := by
      simp only [List.forall_mem_cons, List.not_mem_nil, IsEmpty.forall_iff, implies_true, and_true]
      exact ⟨hl, hr⟩
    have htypes : ∀ ty ∈ [lhs.ty, rhs.ty], ty.hasVars = false := by simp [hlhs, hrhs]
    have hproper := Builtin.all_proper builtin
      (List.mem_append_left _ (List.mem_append_left _ hbuiltin))
    refine (runAll_safe hargs).bind fun values hvalues => ?_
    exact Builtin.run_safe (Builtin.binaryOperators_sound builtin hbuiltin) hproper hresolve htypes
      hresult hvalues hformat

/-- The code of a checked expression keeps the type of the expression. -/
theorem code_safe {scope : Scope} {keywords : Named Ty} {te : Expr} (h : Checked scope keywords te)
    (hsupplied : te.Supplied I env) :
    Safely I env (fun v => v.HasType te.ty) (te.code.run env) := by
  induction h with
  | constant _ hty =>
    have hname := hsupplied.literal _ _ List.mem_cons_self
    exact ensures_pure (Value.hasType_typeOf _ hname hty)
  | var _ _ =>
    obtain ⟨v, hread, hv⟩ := hsupplied.var _ _ List.mem_cons_self
    rw [Expr.code, Code.run, hread]
    exact ensures_pure hv
  | keyword _ | moduleKeyword _ =>
    rw [Expr.code, Code.run]
    exact ensures_readKeyword (hsupplied.keyword _ _ List.mem_cons_self)
  | member _ hty ih =>
    have hobject := hsupplied.of_subset (List.subset_cons_self _ _)
    rw [Expr.code, Code.run]
    exact (ih hobject).bind fun v hv => ensures_ofExcept (member_safe hobject.isStatic hty hv)
  | @call builtin args resolution hbuiltin _ hresolve ih =>
    have hargs := hsupplied.all (List.subset_cons_self _ _)
    have htypes : ∀ ty ∈ args.map Expr.ty, ty.hasVars = false := by
      intro ty hty
      obtain ⟨arg, harg, rfl⟩ := List.mem_map.1 hty
      exact (hargs arg harg).hasVars
    have hproper := Builtin.all_proper builtin (List.mem_append_right _ hbuiltin)
    rw [Expr.code, Code.run]
    refine (runAll_safe fun arg harg => ih arg harg (hargs arg harg)).bind
      fun values hvalues => ?_
    exact Builtin.run_safe (Builtin.functions_sound builtin hbuiltin) hproper hresolve htypes
      hsupplied.isStatic hvalues hsupplied.formatters
  | @unary builtin arg resolution hbuiltin _ hresolve ih =>
    have harg := hsupplied.of_subset (List.subset_cons_self _ _)
    have hargs : ∀ expr ∈ [arg], Safely I env (fun v => v.HasType expr.ty) (expr.code.run env) := by
      simp only [List.mem_singleton, forall_eq]
      exact ih harg
    have htypes : ∀ ty ∈ [arg.ty], ty.hasVars = false := by simp [harg.hasVars]
    have hproper := Builtin.all_proper builtin
      (List.mem_append_left _ (List.mem_append_right _ hbuiltin))
    rw [Expr.code, Code.run]
    refine (runAll_safe hargs).bind fun values hvalues => ?_
    exact Builtin.run_safe (Builtin.unaryOperators_sound builtin hbuiltin) hproper hresolve htypes
      hsupplied.isStatic hvalues hsupplied.formatters
  | binary hbuiltin _ _ hresolve ihl ihr =>
    have hlhs := hsupplied.of_subset
      (List.subset_cons_of_subset _ (List.subset_append_left _ _))
    have hrhs := hsupplied.of_subset
      (List.subset_cons_of_subset _ (List.subset_append_right _ _))
    exact binaryCode_safe hbuiltin hresolve hlhs.hasVars hrhs.hasVars hsupplied.isStatic
      hsupplied.formatters (ihl hlhs) (ihr hrhs)
  | @tuple items _ ih =>
    have hitems := hsupplied.all (List.subset_cons_self _ _)
    rw [Expr.code, Code.run]
    refine (runAll_safe fun item hitem => ih item hitem (hitems item hitem)).bind
      fun values hvalues => ensures_pure (.tuple hvalues.length_eq fun i v ty hv hty => ?_)
    obtain ⟨hi, rfl⟩ := List.getElem?_eq_some_iff.1 hv
    obtain ⟨hj, rfl⟩ := List.getElem?_eq_some_iff.1 hty
    exact hvalues.get hi hj
  | @array items elem _ hjoin ih =>
    have hitems := hsupplied.all (List.subset_cons_self _ _)
    have hwithin : ∀ ty ∈ items.map Expr.ty, ty.Within elem := by
      refine (Ty.join_widens (fun ty hty => ?_) hjoin).2
      obtain ⟨item, hitem, rfl⟩ := List.mem_map.1 hty
      exact (hitems item hitem).hasVars
    rw [Expr.code, Code.run]
    refine (runAll_safe fun item hitem => ih item hitem (hitems item hitem)).bind
      fun values hvalues => ensures_pure (.array fun v hv => ?_)
    obtain ⟨ty, hty, hinhabits⟩ := exists_type_of_mem hvalues hv
    exact hwithin ty hty v hinhabits

end Run

/-- The code of a checked expression gives a value of the expression's type, or fails in a way that
no type rules out: never because a value is of the wrong type or because a name is not known. -/
theorem run_hasType [PatternEngine] {scope : Scope} {keywords : Named Ty} {e : Source.Expr}
    {te : Expr} (h : (checkExpr scope keywords e).result = .ok te) {I : Named Value → Prop} {env : Env}
    (hsupplied : te.Supplied I env) {locals : Locals} {code : Code}
    (hcode : te.compile locals = .ok code) {w : World} (hw : I w.cells) :
    (∃ v w', code.run env w = .ok v w' ∧ v.HasType te.ty) ∨
      ∃ error w', code.run env w = .error error w' ∧ error.Excused env := by
  obtain ⟨-, rfl⟩ := Expr.compile_eq_ok.1 hcode
  have hsafe := code_safe (checkExpr_checked scope keywords e h) hsupplied w hw
  cases hrun : te.code.run env w with
  | ok v w' =>
    rw [hrun] at hsafe
    exact .inl ⟨v, w', rfl, hsafe.2⟩
  | error error w' =>
    rw [hrun] at hsafe
    exact .inr ⟨error, w', rfl, hsafe.2⟩

/-- A sum divided by a keyword, next to a formatter that counts its uses in another keyword. -/
theorem run_hasType_quotient :
    ∃ te I env code w,
      (checkExpr ⟨[("k", ⟨.number, .keyword "k"⟩), ("x", ⟨.number, .introduced⟩)], []⟩ []
        (.binary "/" (.call "sum" [.array [.var "x", .constant (.number 1.0)]]) (.var "k"))).result =
          .ok te ∧ te.Supplied I env ∧ te.compile [("x", .number)] = .ok code ∧ I w.cells ∧
      ((∃ v w', code.run env w = .ok v w' ∧ v.HasType te.ty) ∨
        ∃ error w', code.run env w = .error error w' ∧ error.Excused env) := by
  let te : Expr := .binary .number ⟨"/", 0, .calculation .divide⟩
    (.call .number ⟨"sum", 0, .calculation .sum⟩
      [.array (.array .number) [.var .number "x", .constant .number (.number 1.0)]])
    (.keyword .number "k")
  let counting : Formatter := fun _ _ view => do
    view.writeKeyword "uses" (.number 1.0)
    return [.text "used"]
  let env : Env := { Env.ofSettings .default with
    writable := true, locals := [("x", .number 2.0)], formatters := [("com.xkcd", counting)] }
  let I : Named Value → Prop := fun cells => Named.get? cells "k" = some (.number 4.0)
  let w : World := ⟨[("k", .number 4.0)], fun _ => ⟨⟨0, 0⟩, 0.5, 0⟩, 0⟩
  have h : (checkExpr ⟨[("k", ⟨.number, .keyword "k"⟩), ("x", ⟨.number, .introduced⟩)], []⟩ []
      (.binary "/" (.call "sum" [.array [.var "x", .constant (.number 1.0)]]) (.var "k"))).result =
    .ok te := rfl
  have hcode : te.compile [("x", .number)] = .ok te.code := rfl
  have hsupplied : te.Supplied I env := by
    constructor
    · simp [te, Expr.subexprs, Expr.subexprsAll, Expr.ty, Ty.isStatic]
    · simp [te, Expr.subexprs, Expr.subexprsAll, Value.mentionsName]
    · intro ty name hnode
      simp only [te, Expr.subexprs, Expr.subexprsAll, List.mem_cons, List.append_nil,
        List.mem_append, List.not_mem_nil, reduceCtorEq, Expr.var.injEq, false_or, or_false] at hnode
      obtain ⟨rfl, rfl⟩ := hnode
      exact ⟨.number 2.0, rfl, .number rfl⟩
    · intro ty cell hnode cells hcells
      simp only [te, Expr.subexprs, Expr.subexprsAll, List.mem_cons, List.append_nil,
        List.mem_append, List.not_mem_nil, reduceCtorEq, Expr.keyword.injEq, false_or,
        or_false] at hnode
      obtain ⟨rfl, rfl⟩ := hnode
      exact ⟨.number 4.0, hcells, .number rfl⟩
    · intro entry hentry frame hint view
      cases List.mem_singleton.1 hentry
      have hwrite : Eval.Keeps I (view.writeKeyword "uses" (.number 1.0)) :=
        ensures_writeKeyword (fun cells hcells =>
          (Named.get?_insert_of_ne cells _ (by decide)).trans hcells) trivial
      exact hwrite.bind fun _ _ => ensures_pure trivial
  exact ⟨te, I, env, te.code, w, h, hsupplied, hcode, rfl, run_hasType h hsupplied hcode rfl⟩

end ChannelRules
