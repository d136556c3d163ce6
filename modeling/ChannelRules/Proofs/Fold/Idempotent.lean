import ChannelRules.Proofs.Builtin.Based
import ChannelRules.Proofs.Fold.Expr

/-!
# Folding an expression twice

A folded expression is the expression with some parts replaced by constants of the types of these
parts. The constants are in base units, because the types of their parts are, so folding once more
changes nothing: neither the constants nor what could not be folded the first time.
-/

namespace ChannelRules

namespace Value

lemma normalizeItems_eq_self_iff {items : List Value} :
    normalizeItems items = .ok items ↔ ∀ item ∈ items, item.normalize = .ok item := by
  induction items with
  | nil => simp [normalizeItems]
  | cons item rest ih =>
    rw [List.forall_mem_cons, ← ih]
    simp only [normalizeItems, bind_eq_ok, pure_eq_ok, List.cons.injEq]
    constructor
    · rintro ⟨item', hitem, rest', hrest, rfl, rfl⟩
      exact ⟨hitem, hrest⟩
    · rintro ⟨hitem, hrest⟩
      exact ⟨item, hitem, rest, hrest, rfl, rfl⟩

lemma normalizeFields_eq_self_iff {fields : List (String × Value)} :
    normalizeFields fields = .ok fields ↔
      ∀ field ∈ fields, field.2.normalize = .ok field.2 := by
  induction fields with
  | nil => simp [normalizeFields]
  | cons field rest ih =>
    obtain ⟨name, value⟩ := field
    rw [List.forall_mem_cons, ← ih]
    simp only [normalizeFields, bind_eq_ok, pure_eq_ok, List.cons.injEq, Prod.mk.injEq, true_and]
    constructor
    · rintro ⟨value', hvalue, rest', hrest, rfl, rfl⟩
      exact ⟨hvalue, hrest⟩
    · rintro ⟨hvalue, hrest⟩
      exact ⟨value, hvalue, rest, hrest, rfl, rfl⟩

lemma normalize_array_iff {items : List Value} :
    (array items).normalize = .ok (array items) ↔ ∀ item ∈ items, item.normalize = .ok item := by
  rw [← normalizeItems_eq_self_iff]
  simp only [normalize, bind_eq_ok, pure_eq_ok, array.injEq, exists_eq_right]

lemma normalize_object_iff {fields : List (String × Value)} :
    (object fields).normalize = .ok (object fields) ↔
      ∀ field ∈ fields, field.2.normalize = .ok field.2 := by
  rw [← normalizeFields_eq_self_iff]
  simp only [normalize, bind_eq_ok, pure_eq_ok, object.injEq, exists_eq_right]

mutual

/-- A value in runtime form has no measures to convert. -/
theorem normalize_of_isRuntime : (value : Value) → value.IsRuntime → value.normalize = .ok value
  | measure _ _, h => nomatch h
  | array items, h =>
    normalize_array_iff.2 (normalize_of_isRuntimeItems items (isRuntime_hereditary.array _ |>.1 h))
  | object fields, h =>
    normalize_object_iff.2
      (normalize_of_isRuntimeFields fields (isRuntime_hereditary.object _ |>.1 h))
  | varRef _, _ | boolean _, _ | string _, _ | number _, _ | location _ _ _, _ | date _, _
  | time _ _, _ | entity _ _ _, _ | enum _, _ | feed _, _ => rfl

theorem normalize_of_isRuntimeItems : (items : List Value) → (∀ item ∈ items, item.IsRuntime) →
    ∀ item ∈ items, item.normalize = .ok item
  | [], _ => List.forall_mem_nil _
  | item :: rest, h => by
    rw [List.forall_mem_cons] at h ⊢
    exact ⟨normalize_of_isRuntime item h.1, normalize_of_isRuntimeItems rest h.2⟩

theorem normalize_of_isRuntimeFields : (fields : List (String × Value)) →
    (∀ field ∈ fields, field.2.IsRuntime) → ∀ field ∈ fields, field.2.normalize = .ok field.2
  | [], _ => List.forall_mem_nil _
  | (_, value) :: rest, h => by
    rw [List.forall_mem_cons] at h ⊢
    exact ⟨normalize_of_isRuntime value h.1, normalize_of_isRuntimeFields rest h.2⟩

end

/-- An amount of a base unit is in base units. -/
lemma normalize_measure {amount : Float} {unit : String} (hne : unit ≠ "")
    (h : (Ty.measure unit).isBased = true) :
    (measure amount unit).normalize = .ok (measure amount unit) := by
  rw [Ty.isBased, Bool.or_eq_true, beq_iff_eq, List.contains_iff_mem] at h
  rw [normalize, MeasureUnit.find?_baseUnit (h.resolve_left hne)]
  exact congrArg (fun x => Except.ok (measure x unit)) (MeasureUnit.toBase_one _)

mutual

/-- A literal of a type in base units is in base units. -/
theorem normalize_fromRuntime : (value : Value) → (ty : Ty) → value.IsRuntime →
    ty.isBased = true → (value.fromRuntime ty).normalize = .ok (value.fromRuntime ty)
  | number x, ty, _, hty => by
    cases ty with
    | measure unit =>
      rw [fromRuntime]
      split
      · rfl
      · exact normalize_measure ‹_› hty
    | _ => rfl
  | array items, ty, h, hty => by
    cases ty with
    | array elem =>
      rw [fromRuntime, normalize_array_iff]
      exact normalize_fromRuntimeItems items elem (isRuntime_hereditary.array _ |>.1 h) hty
    | _ => exact normalize_of_isRuntime _ h
  | measure _ _, _, h, _ => nomatch h
  | varRef _, _, h, _ | boolean _, _, h, _ | string _, _, h, _ | location _ _ _, _, h, _
  | date _, _, h, _ | time _ _, _, h, _ | entity _ _ _, _, h, _ | enum _, _, h, _
  | object _, _, h, _ | feed _, _, h, _ => normalize_of_isRuntime _ h

theorem normalize_fromRuntimeItems : (items : List Value) → (elem : Ty) →
    (∀ item ∈ items, item.IsRuntime) → elem.isBased = true →
      ∀ item ∈ fromRuntimeItems items elem, item.normalize = .ok item
  | [], _, _, _ => List.forall_mem_nil _
  | item :: rest, elem, h, helem => by
    rw [List.forall_mem_cons] at h
    rw [fromRuntimeItems, List.forall_mem_cons]
    exact ⟨normalize_fromRuntime item elem h.1 helem,
      normalize_fromRuntimeItems rest elem h.2 helem⟩

end

end Value

open Typed (Expr foldCall)

namespace Typed.Expr

/-- An expression in which some parts are replaced by constants of the types of these parts. -/
inductive Residue : Expr → Expr → Prop
  | replaced (expr : Expr) (value : Value) : Residue expr (constant expr.ty value)
  | var (ty : Ty) (name : String) : Residue (var ty name) (var ty name)
  | keyword (ty : Ty) (cell : String) : Residue (keyword ty cell) (keyword ty cell)
  | member (ty : Ty) {object object' : Expr} (name : String) (h : Residue object object') :
      Residue (member ty object name) (member ty object' name)
  | call (ty : Ty) (op : Op) {args args' : List Expr} (h : List.Forall₂ Residue args args') :
      Residue (call ty op args) (call ty op args')
  | unary (ty : Ty) (op : Op) {arg arg' : Expr} (h : Residue arg arg') :
      Residue (unary ty op arg) (unary ty op arg')
  | binary (ty : Ty) (op : Op) {lhs lhs' rhs rhs' : Expr} (hl : Residue lhs lhs')
      (hr : Residue rhs rhs') : Residue (binary ty op lhs rhs) (binary ty op lhs' rhs')
  | tuple (ty : Ty) {items items' : List Expr} (h : List.Forall₂ Residue items items') :
      Residue (tuple ty items) (tuple ty items')
  | array (ty : Ty) {items items' : List Expr} (h : List.Forall₂ Residue items items') :
      Residue (array ty items) (array ty items')

lemma Residue.ty_eq {expr expr' : Expr} (h : Residue expr expr') : expr'.ty = expr.ty := by
  cases h <;> rfl

/-- If an expression is a constant, then its type and its value are in base units. -/
def Settled (expr : Expr) : Prop :=
  ∀ ty value, expr = constant ty value → ty.isBased = true ∧ value.normalize = .ok value

section Settled

variable {args : List Expr} {values : List Value} {constants : Named Expr}

lemma settled_constant {ty : Ty} {value : Value} (hty : ty.isBased = true)
    (hvalue : value.normalize = .ok value) : (constant ty value).Settled := by
  rintro _ _ ⟨⟩
  exact ⟨hty, hvalue⟩

lemma based_of_constants (h : Constants args values) (hargs : ∀ arg ∈ args, arg.Settled) :
    (∀ ty ∈ args.map Expr.ty, ty.isBased = true) ∧
      ∀ value ∈ values, value.normalize = .ok value := by
  induction h with
  | nil => exact ⟨List.forall_mem_nil _, List.forall_mem_nil _⟩
  | cons harg _ ih =>
    obtain ⟨ty, rfl⟩ := harg
    rw [List.forall_mem_cons] at hargs
    obtain ⟨htypes, hvalues⟩ := ih hargs.2
    obtain ⟨hty, hvalue⟩ := hargs.1 _ _ rfl
    rw [List.map_cons, List.forall_mem_cons, List.forall_mem_cons]
    exact ⟨⟨hty, htypes⟩, hvalue, hvalues⟩

variable [PatternEngine]

/-- A settled constant is not folded. -/
lemma Settled.fold_eq {ty : Ty} {value : Value} (h : (constant ty value).Settled) :
    (constant ty value).fold constants = constant ty value := by
  rw [fold, foldConstant, (h ty value rfl).2]

/-- A use of a builtin with settled operands that is folded gives a settled constant. -/
lemma settled_foldCall {builtin : Builtin} {resolution : Resolution} {folded : Expr}
    (hbuiltin : builtin ∈
      Builtin.binaryOperators ++ Builtin.unaryOperators ++ Builtin.functions)
    (hresolve : (builtin.resolve (args.map Expr.ty)).result = .ok resolution)
    (hargs : ∀ arg ∈ args, arg.Settled)
    (h : foldCall resolution.op args resolution.result = some folded) :
    ∃ value, folded = constant resolution.result value ∧ folded.Settled := by
  obtain ⟨calculation, values, value, -, hconstants, hrun, rfl⟩ := foldCall_eq_some h
  have hbased := Builtin.isBased_resolve hbuiltin (based_of_constants hconstants hargs).1 hresolve
  exact ⟨_, rfl, settled_constant hbased
    (Value.normalize_fromRuntime value _ (Value.isRuntime_run hrun) hbased)⟩

end Settled

variable [PatternEngine]

lemma foldAll_eq_map (constants : Named Expr) (exprs : List Expr) :
    foldAll constants exprs = exprs.map (fold constants) := by
  induction exprs with
  | nil => rfl
  | cons expr rest ih => rw [foldAll, ih, List.map_cons]

/-- What folding does to an expression: it keeps the types, its constants are settled, and folding
once more changes nothing. -/
structure FoldsOnce (constants : Named Expr) (expr : Expr) : Prop where
  residue : Residue expr (expr.fold constants)
  settled : (expr.fold constants).Settled
  fixed : (expr.fold constants).fold constants = expr.fold constants

section FoldsOnce

variable {constants : Named Expr} {exprs : List Expr}

lemma foldsOnce_of_constant {expr : Expr} {value : Value}
    (h : expr.fold constants = constant expr.ty value) (hsettled : (expr.fold constants).Settled) :
    FoldsOnce constants expr where
  residue := by
    rw [h]
    exact .replaced expr value
  settled := hsettled
  fixed := by
    rw [h] at hsettled ⊢
    exact hsettled.fold_eq

lemma FoldsOnce.ty_eq {expr : Expr} (h : FoldsOnce constants expr) :
    (expr.fold constants).ty = expr.ty := h.residue.ty_eq

lemma residues (h : ∀ expr ∈ exprs, FoldsOnce constants expr) :
    List.Forall₂ Residue exprs (foldAll constants exprs) := by
  rw [foldAll_eq_map, List.forall₂_map_right_iff, List.forall₂_same]
  exact fun expr hexpr => (h expr hexpr).residue

lemma settleds (h : ∀ expr ∈ exprs, FoldsOnce constants expr) :
    ∀ expr ∈ foldAll constants exprs, expr.Settled := by
  rw [foldAll_eq_map, List.forall_mem_map]
  exact fun expr hexpr => (h expr hexpr).settled

lemma fixeds (h : ∀ expr ∈ exprs, FoldsOnce constants expr) :
    foldAll constants (foldAll constants exprs) = foldAll constants exprs := by
  rw [foldAll_eq_map, foldAll_eq_map, List.map_map, List.map_inj_left]
  exact fun expr hexpr => (h expr hexpr).fixed

lemma types_foldAll (h : ∀ expr ∈ exprs, FoldsOnce constants expr) :
    (foldAll constants exprs).map ty = exprs.map ty := by
  rw [foldAll_eq_map, List.map_map, List.map_inj_left]
  exact fun expr hexpr => (h expr hexpr).ty_eq

end FoldsOnce

end Typed.Expr

open Typed.Expr

/-- Names stand for settled constants of the types that the names have in scope. -/
def Scope.Stands (scope : Scope) (constants : Named Expr) : Prop :=
  ∀ name expr, Named.get? constants name = some expr →
    ∃ ty value kind, expr = .constant ty value ∧ scope.get? name = some ⟨ty, kind⟩ ∧ expr.Settled

lemma Scope.stands_nil (scope : Scope) : scope.Stands [] := nofun

section Checked

variable {scope : Scope} {keywords : Named Ty} {constants : Named Expr}

lemma isBased_memberType {object ty : Ty} {name : String} (hobject : object.isBased = true)
    (h : memberType object name = .ok ty) : ty.isBased = true := by
  unfold memberType at h
  split at h
  · split at h
    · rename_i hget
      cases h
      exact Ty.isBasedFields_iff.1 hobject _ (Named.mem_of_get? hget)
    · cases h
  · cases h
    rfl
  · cases h
    rfl
  · cases h

variable [PatternEngine]

lemma foldsOnce_var (h : scope.Stands constants) {name : String} {ty : Ty} {kind : NameKind}
    (hget : scope.get? name = some ⟨ty, kind⟩) : FoldsOnce constants (.var ty name) := by
  cases hconstant : Named.get? constants name with
  | none =>
    have hfold : (Expr.var ty name).fold constants = .var ty name := by
      rw [Expr.fold, hconstant]
      rfl
    refine ⟨?_, ?_, ?_⟩
    · rw [hfold]
      exact .var ty name
    · rw [hfold]
      exact nofun
    · rw [hfold, hfold]
  | some expr =>
    obtain ⟨ty', value, kind', rfl, hget', hsettled⟩ := h name expr hconstant
    have hfold : (Expr.var ty name).fold constants = .constant ty' value := by
      rw [Expr.fold, hconstant]
      rfl
    rw [hget] at hget'
    cases hget'
    refine foldsOnce_of_constant hfold ?_
    rw [hfold]
    exact hsettled

lemma foldsOnce_member {object : Expr} {name : String} {ty : Ty}
    (hty : memberType object.ty name = .ok ty) (ih : FoldsOnce constants object) :
    FoldsOnce constants (.member ty object name) := by
  rcases foldMember_cases (object.fold constants) name ty with
    ⟨ty', fields, field, hobject, hfield, h⟩ | h
  · have hfold : (Expr.member ty object name).fold constants = .constant ty field := h
    obtain ⟨hbased, hnormal⟩ := ih.settled ty' (.object fields) hobject
    have hty' : ty' = object.ty := by
      rw [← ih.ty_eq, hobject]
      rfl
    rw [hty'] at hbased
    refine foldsOnce_of_constant hfold ?_
    rw [hfold]
    exact settled_constant (isBased_memberType hbased hty)
      (Value.normalize_object_iff.1 hnormal _ (Named.mem_of_get? hfield))
  · have hfold : (Expr.member ty object name).fold constants =
        .member ty (object.fold constants) name := h
    refine ⟨?_, ?_, ?_⟩
    · rw [hfold]
      exact .member ty name ih.residue
    · rw [hfold]
      exact nofun
    · rw [hfold, Expr.fold, ih.fixed]
      exact h

/-- A use of a builtin whose operands are folded becomes a constant, or it keeps its form and is
kept the second time as well. -/
lemma foldsOnce_foldCall {builtin : Builtin} {resolution : Resolution} {args : List Expr}
    {expr kept : Expr}
    (hbuiltin : builtin ∈
      Builtin.binaryOperators ++ Builtin.unaryOperators ++ Builtin.functions)
    (hresolve : (builtin.resolve (args.map Expr.ty)).result = .ok resolution)
    (hargs : ∀ arg ∈ args, arg.Settled) (hty : expr.ty = resolution.result)
    (hresidue : Residue expr kept) (hsettled : kept.Settled)
    (hfold : expr.fold constants = (foldCall resolution.op args resolution.result).getD kept)
    (hagain : kept.fold constants = (foldCall resolution.op args resolution.result).getD kept) :
    FoldsOnce constants expr := by
  cases hcall : foldCall resolution.op args resolution.result with
  | none =>
    rw [hcall, Option.getD_none] at hfold hagain
    refine ⟨?_, ?_, ?_⟩
    · rw [hfold]
      exact hresidue
    · rw [hfold]
      exact hsettled
    · rw [hfold, hagain]
  | some folded =>
    obtain ⟨value, rfl, hconstant⟩ := settled_foldCall hbuiltin hresolve hargs hcall
    rw [hcall, Option.getD_some, ← hty] at hfold
    refine foldsOnce_of_constant hfold ?_
    rw [hfold, hty]
    exact hconstant

lemma foldsOnce_array {items : List Expr} {elem : Ty}
    (hjoin : (Ty.join (items.map Expr.ty)).result = .ok elem)
    (ih : ∀ item ∈ items, FoldsOnce constants item) :
    FoldsOnce constants (.array (.array elem) items) := by
  rcases foldArray_cases (foldAll constants items) (.array elem) with ⟨values, hvalues, h⟩ | h
  · have hfold : (Expr.array (.array elem) items).fold constants =
        .constant (.array elem) (.array values) := h
    obtain ⟨htypes, hnormal⟩ := based_of_constants hvalues (settleds ih)
    rw [types_foldAll ih] at htypes
    have helem : elem.isBased = true := Ty.isBased_of_join htypes hjoin
    refine foldsOnce_of_constant hfold ?_
    rw [hfold]
    exact settled_constant helem (Value.normalize_array_iff.2 hnormal)
  · have hfold : (Expr.array (.array elem) items).fold constants =
        .array (.array elem) (foldAll constants items) := h
    refine ⟨?_, ?_, ?_⟩
    · rw [hfold]
      exact .array _ (residues ih)
    · rw [hfold]
      exact nofun
    · rw [hfold, Expr.fold, fixeds ih]
      exact h

/-- Folding a checked expression once is enough. -/
theorem Checked.foldsOnce {te : Expr} (h : Checked scope keywords te)
    (hstands : scope.Stands constants) : FoldsOnce constants te := by
  induction h with
  | @constant source value ty hnormal hty =>
    have hsettled : (Expr.constant ty value).Settled :=
      settled_constant (Value.isBased_typeOf value hty) (Value.normalize_normalize source hnormal)
    have hfold := @Settled.fold_eq constants _ ty value hsettled
    refine foldsOnce_of_constant hfold ?_
    rw [hfold]
    exact hsettled
  | var hget _ => exact foldsOnce_var hstands hget
  | keyword hget => exact ⟨.keyword _ _, nofun, rfl⟩
  | moduleKeyword hget => exact ⟨.keyword _ _, nofun, rfl⟩
  | member hobject hty ih => exact foldsOnce_member hty ih
  | @call builtin args resolution hbuiltin hargs hresolve ih =>
    rw [← types_foldAll ih] at hresolve
    refine foldsOnce_foldCall (List.mem_append_right _ hbuiltin) hresolve (settleds ih) rfl
      (.call _ _ (residues ih)) nofun rfl ?_
    rw [Expr.fold, fixeds ih]
  | @unary builtin arg resolution hbuiltin harg hresolve ih =>
    have hargs : ∀ a ∈ [arg.fold constants], a.Settled := List.forall_mem_singleton.2 ih.settled
    have htypes : [arg.fold constants].map Expr.ty = [arg.ty] := by rw [← ih.ty_eq]; rfl
    rw [← htypes] at hresolve
    refine foldsOnce_foldCall (List.mem_append_left _ (List.mem_append_right _ hbuiltin)) hresolve
      hargs rfl (.unary _ _ ih.residue) nofun rfl ?_
    rw [Expr.fold, ih.fixed]
  | @binary builtin lhs rhs resolution hbuiltin hlhs hrhs hresolve ihl ihr =>
    have hargs : ∀ a ∈ [lhs.fold constants, rhs.fold constants], a.Settled :=
      List.forall_mem_cons.2 ⟨ihl.settled, List.forall_mem_singleton.2 ihr.settled⟩
    have htypes : [lhs.fold constants, rhs.fold constants].map Expr.ty = [lhs.ty, rhs.ty] := by
      rw [← ihl.ty_eq, ← ihr.ty_eq]
      rfl
    rw [← htypes] at hresolve
    refine foldsOnce_foldCall (List.mem_append_left _ (List.mem_append_left _ hbuiltin)) hresolve
      hargs rfl (.binary _ _ ihl.residue ihr.residue) nofun rfl ?_
    rw [Expr.fold, ihl.fixed, ihr.fixed]
  | tuple hitems ih =>
    refine ⟨.tuple _ (residues ih), nofun, ?_⟩
    rw [Expr.fold, Expr.fold, fixeds ih]
  | array hitems hjoin ih => exact foldsOnce_array hjoin ih

end Checked

end ChannelRules
