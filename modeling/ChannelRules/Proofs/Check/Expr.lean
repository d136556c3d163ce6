import ChannelRules.Check.Expr
import ChannelRules.Proofs.Value.Forms
import ChannelRules.Typed.Visit

/-!
# What a checked expression is

`Checked` lists the forms of an expression that the checker gives, each with what the checker has
found out about it. Statements about checked expressions go by induction on it. All constants of a
checked expression are in base units.
-/

namespace ChannelRules

open Typed (Expr)

/-- Expressions as the checker leaves them. -/
inductive Checked (scope : Scope) (keywords : Named Ty) : Expr → Prop
  | constant {source value : Value} {ty : Ty} (hnormal : source.normalize = .ok value)
      (hty : value.typeOf.result = .ok ty) : Checked scope keywords (.constant ty value)
  | var {name : String} {ty : Ty} {kind : NameKind} (hget : scope.get? name = some ⟨ty, kind⟩)
      (hkind : kind = .param ∨ kind = .introduced) : Checked scope keywords (.var ty name)
  | keyword {name cell : String} {ty : Ty} (hget : scope.get? name = some ⟨ty, .keyword cell⟩) :
      Checked scope keywords (.keyword ty cell)
  | moduleKeyword {module name : String} {ty : Ty}
      (hget : Named.get? keywords (moduleCell module name) = some ty) :
      Checked scope keywords (.keyword ty (moduleCell module name))
  | member {object : Expr} {name : String} {ty : Ty} (hobject : Checked scope keywords object)
      (hty : memberType object.ty name = .ok ty) : Checked scope keywords (.member ty object name)
  | call {builtin : Builtin} {args : List Expr} {resolution : Resolution}
      (hbuiltin : builtin ∈ Builtin.functions) (hargs : ∀ arg ∈ args, Checked scope keywords arg)
      (hresolve : (builtin.resolve (args.map Expr.ty)).result = .ok resolution) :
      Checked scope keywords (.call resolution.result resolution.op args)
  | unary {builtin : Builtin} {arg : Expr} {resolution : Resolution}
      (hbuiltin : builtin ∈ Builtin.unaryOperators) (harg : Checked scope keywords arg)
      (hresolve : (builtin.resolve [arg.ty]).result = .ok resolution) :
      Checked scope keywords (.unary resolution.result resolution.op arg)
  | binary {builtin : Builtin} {lhs rhs : Expr} {resolution : Resolution}
      (hbuiltin : builtin ∈ Builtin.binaryOperators) (hlhs : Checked scope keywords lhs)
      (hrhs : Checked scope keywords rhs)
      (hresolve : (builtin.resolve [lhs.ty, rhs.ty]).result = .ok resolution) :
      Checked scope keywords (.binary resolution.result resolution.op lhs rhs)
  | tuple {items : List Expr} (hitems : ∀ item ∈ items, Checked scope keywords item) :
      Checked scope keywords (.tuple (.tuple (items.map Expr.ty)) items)
  | array {items : List Expr} {elem : Ty} (hitems : ∀ item ∈ items, Checked scope keywords item)
      (hjoin : (Ty.join (items.map Expr.ty)).result = .ok elem) :
      Checked scope keywords (.array (.array elem) items)

lemma knownBuiltin_mem {table : List Builtin} {name : String} {builtin : Builtin}
    (h : knownBuiltin (Builtin.find? table) name = .ok builtin) : builtin ∈ table := by
  unfold knownBuiltin at h
  split at h
  · rename_i found hfound
    cases h
    exact List.mem_of_find?_eq_some hfound
  · cases h

lemma checkCall_eq_ok {builtin : Builtin} {args : List Expr} {op : Op} {ty : Ty}
    (h : (checkCall builtin args).result = .ok (op, ty)) :
    ∃ resolution, (builtin.resolve (args.map Expr.ty)).result = .ok resolution ∧
      op = resolution.op ∧ ty = resolution.result := by
  simp only [checkCall, Noted.result_bind, Noted.result_mapError, bind_eq_ok, mapError_eq_ok,
    Noted.result_pure, Except.ok.injEq, Prod.mk.injEq] at h
  obtain ⟨resolution, hresolve, rfl, rfl⟩ := h
  exact ⟨resolution, hresolve, rfl, rfl⟩

section

variable {scope : Scope} {keywords : Named Ty}

lemma checkName_checked {name : String} {te : Expr} (h : checkName scope name = .ok te) :
    Checked scope keywords te := by
  unfold checkName at h
  split at h
  · cases h
  · rename_i ty cell hget
    cases h
    exact .keyword hget
  · cases h
  · rename_i ty hget
    cases h
    exact .var hget (.inl rfl)
  · rename_i ty hget
    cases h
    exact .var hget (.inr rfl)

lemma checkConstant_checked {value : Value} {te : Expr}
    (h : (checkConstant value).result = .ok te) : Checked scope keywords te := by
  simp only [checkConstant, Noted.result_bind, Noted.result_mapError, Noted.result_ofExcept,
    bind_eq_ok, mapError_eq_ok, Noted.result_pure, Except.ok.injEq] at h
  obtain ⟨normal, hnormal, ty, hty, rfl⟩ := h
  exact .constant hnormal hty

lemma checkModuleMember_checked {module name : String} {te : Expr}
    (h : checkModuleMember keywords module name = .ok te) : Checked scope keywords te := by
  unfold checkModuleMember at h
  split at h
  · rename_i ty hget
    cases h
    exact .moduleKeyword hget
  · cases h

end

mutual

/-- What the checker gives is a checked expression. -/
theorem checkExpr_checked (scope : Scope) (keywords : Named Ty) :
    (e : Source.Expr) → {te : Expr} → (checkExpr scope keywords e).result = .ok te →
      Checked scope keywords te
  | .null, _, h => nomatch h
  | .var name, _, h => checkName_checked h
  | .constant value, _, h => by
    cases value with
    | varRef name => exact checkName_checked h
    | _ => exact checkConstant_checked h
  | .member object name, _, h => by
    rw [checkExpr] at h
    split at h
    · exact checkModuleMember_checked h
    · simp only [Noted.result_bind, Noted.result_ofExcept, bind_eq_ok, Noted.result_pure,
        Except.ok.injEq] at h
      obtain ⟨typed, hobject, ty, hty, rfl⟩ := h
      exact .member (checkExpr_checked scope keywords object hobject) hty
  | .call function args, _, h => by
    simp only [checkExpr, Noted.result_bind, Noted.result_ofExcept, bind_eq_ok, Noted.result_pure,
      Except.ok.injEq] at h
    obtain ⟨builtin, hbuiltin, typed, hargs, ⟨op, ty⟩, hcall, rfl⟩ := h
    obtain ⟨resolution, hresolve, rfl, rfl⟩ := checkCall_eq_ok hcall
    exact .call (knownBuiltin_mem hbuiltin) (checkExprs_checked scope keywords args hargs) hresolve
  | .unary operator arg, _, h => by
    simp only [checkExpr, Noted.result_bind, Noted.result_ofExcept, bind_eq_ok, Noted.result_pure,
      Except.ok.injEq] at h
    obtain ⟨builtin, hbuiltin, typed, harg, ⟨op, ty⟩, hcall, rfl⟩ := h
    obtain ⟨resolution, hresolve, rfl, rfl⟩ := checkCall_eq_ok hcall
    exact .unary (knownBuiltin_mem hbuiltin) (checkExpr_checked scope keywords arg harg) hresolve
  | .binary operator lhs rhs, _, h => by
    simp only [checkExpr, Noted.result_bind, Noted.result_ofExcept, bind_eq_ok, Noted.result_pure,
      Except.ok.injEq] at h
    obtain ⟨builtin, hbuiltin, left, hlhs, right, hrhs, ⟨op, ty⟩, hcall, rfl⟩ := h
    obtain ⟨resolution, hresolve, rfl, rfl⟩ := checkCall_eq_ok hcall
    exact .binary (knownBuiltin_mem hbuiltin) (checkExpr_checked scope keywords lhs hlhs)
      (checkExpr_checked scope keywords rhs hrhs) hresolve
  | .tuple items, _, h => by
    simp only [checkExpr, Noted.result_bind, bind_eq_ok, Noted.result_pure, Except.ok.injEq] at h
    obtain ⟨typed, hitems, rfl⟩ := h
    exact .tuple (checkExprs_checked scope keywords items hitems)
  | .array items, _, h => by
    simp only [checkExpr, Noted.result_bind, Noted.result_mapError, bind_eq_ok, mapError_eq_ok,
      Noted.result_pure, Except.ok.injEq] at h
    obtain ⟨typed, hitems, elem, hjoin, rfl⟩ := h
    exact .array (checkExprs_checked scope keywords items hitems) hjoin

theorem checkExprs_checked (scope : Scope) (keywords : Named Ty) :
    (es : List Source.Expr) → {tes : List Expr} → (checkExprs scope keywords es).result = .ok tes →
      ∀ te ∈ tes, Checked scope keywords te
  | [], _, h => by
    cases h
    exact fun te hte => nomatch hte
  | e :: rest, _, h => by
    simp only [checkExprs, Noted.result_bind, bind_eq_ok, Noted.result_pure, Except.ok.injEq] at h
    obtain ⟨te, he, tes, hrest, rfl⟩ := h
    intro t ht
    rcases List.mem_cons.1 ht with rfl | ht
    · exact checkExpr_checked scope keywords e he
    · exact checkExprs_checked scope keywords rest hrest t ht

end

namespace Typed.Expr

/-- All constants are in base units. -/
def Normal (expr : Expr) : Prop :=
  ∀ node ∈ expr.subexprs, ∀ value, node.constant? = some value → value.normalize = .ok value

lemma exists_of_mem_subexprsAll {exprs : List Expr} {node : Expr} (h : node ∈ subexprsAll exprs) :
    ∃ expr ∈ exprs, node ∈ expr.subexprs := by
  induction exprs with
  | nil => cases h
  | cons first rest ih =>
    rw [subexprsAll, List.mem_append] at h
    rcases h with h | h
    · exact ⟨first, List.mem_cons_self, h⟩
    · obtain ⟨expr, hexpr, hnode⟩ := ih h
      exact ⟨expr, List.mem_cons_of_mem _ hexpr, hnode⟩

end Typed.Expr

section Nodes

variable {scope : Scope} {keywords : Named Ty} {te node : Expr}

/-- Every expression inside a checked expression is checked. -/
theorem Checked.of_mem_subexprs (h : Checked scope keywords te) (hnode : node ∈ te.subexprs) :
    Checked scope keywords node := by
  induction h with
  | constant hnormal hty =>
    rw [List.mem_singleton.1 hnode]
    exact .constant hnormal hty
  | var hget hkind =>
    rw [List.mem_singleton.1 hnode]
    exact .var hget hkind
  | keyword hget =>
    rw [List.mem_singleton.1 hnode]
    exact .keyword hget
  | moduleKeyword hget =>
    rw [List.mem_singleton.1 hnode]
    exact .moduleKeyword hget
  | member hobject hty ih =>
    rcases List.mem_cons.1 hnode with rfl | hnode
    · exact .member hobject hty
    · exact ih hnode
  | call hbuiltin hargs hresolve ih =>
    rcases List.mem_cons.1 hnode with rfl | hnode
    · exact .call hbuiltin hargs hresolve
    · obtain ⟨arg, harg, hnode⟩ := Typed.Expr.exists_of_mem_subexprsAll hnode
      exact ih arg harg hnode
  | unary hbuiltin harg hresolve ih =>
    rcases List.mem_cons.1 hnode with rfl | hnode
    · exact .unary hbuiltin harg hresolve
    · exact ih hnode
  | binary hbuiltin hlhs hrhs hresolve ihl ihr =>
    rcases List.mem_cons.1 hnode with rfl | hnode
    · exact .binary hbuiltin hlhs hrhs hresolve
    · rcases List.mem_append.1 hnode with hnode | hnode
      · exact ihl hnode
      · exact ihr hnode
  | tuple hitems ih =>
    rcases List.mem_cons.1 hnode with rfl | hnode
    · exact .tuple hitems
    · obtain ⟨item, hitem, hnode⟩ := Typed.Expr.exists_of_mem_subexprsAll hnode
      exact ih item hitem hnode
  | array hitems hjoin ih =>
    rcases List.mem_cons.1 hnode with rfl | hnode
    · exact .array hitems hjoin
    · obtain ⟨item, hitem, hnode⟩ := Typed.Expr.exists_of_mem_subexprsAll hnode
      exact ih item hitem hnode

/-- The constants of a checked expression are in base units. -/
theorem Checked.normal (h : Checked scope keywords te) : te.Normal := by
  intro node hnode value hvalue
  cases h.of_mem_subexprs hnode with
  | constant hnormal _ =>
    cases hvalue
    exact Value.normalize_normalize _ hnormal
  | _ => cases hvalue

/-- The variables of a checked expression are parameters or names that the rule introduces. -/
theorem Checked.mem_vars (h : Checked scope keywords te) {x : String} (hx : x ∈ te.vars) :
    ∃ ty kind, scope.get? x = some ⟨ty, kind⟩ ∧ (kind = .param ∨ kind = .introduced) := by
  obtain ⟨node, hnode, hname⟩ := List.mem_filterMap.1 hx
  cases h.of_mem_subexprs hnode with
  | var hget hkind =>
    cases hname
    exact ⟨_, _, hget, hkind⟩
  | _ => cases hname

end Nodes

end ChannelRules
