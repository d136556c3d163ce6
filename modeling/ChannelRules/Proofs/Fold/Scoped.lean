import ChannelRules.Proofs.Check.Scoped
import ChannelRules.Proofs.Code.Rule
import ChannelRules.Proofs.Fold.Expr
import Mathlib.Data.List.ReduceOption

/-!
# Folding keeps the names of a rule

Folding a rule replaces names by constants and changes nothing else about its names: what was well
scoped stays well scoped, and a pattern that expects for a group the text of another group still
does. A checked program and its folded form therefore compile under the same condition.
-/

namespace ChannelRules

namespace Typed

open Touch

/-- The names that stand for constants are among the given ones. -/
structure Known (constants : Named Expr) (names : List String) : Prop where
  only : OnlyConstants constants
  mem : ∀ x, Named.has constants x = true → x ∈ names

lemma known_nil (names : List String) : Known [] names :=
  ⟨Expr.onlyConstants_nil, fun _ h => nomatch h⟩

section Known

variable {constants : Named Expr} {names : List String}

lemma Known.append (h : Known constants names) (others : List String) :
    Known constants (names ++ others) :=
  ⟨h.only, fun x hx => List.mem_append_left _ (h.mem x hx)⟩

lemma Known.insert (h : Known constants names) (name : String) (ty : Ty) (value : Value) :
    Known (Named.insert constants name (.constant ty value)) (names ++ [name]) := by
  constructor
  · intro other expr hget
    by_cases hother : other = name
    · rw [hother, Named.get?_insert_self] at hget
      cases hget
      exact ⟨ty, value, rfl⟩
    · rw [Named.get?_insert_of_ne _ _ hother] at hget
      exact h.only other expr hget
  · intro x hx
    rw [Named.has_insert] at hx
    rcases hx with rfl | hx
    · exact List.mem_append_right _ (List.mem_singleton_self x)
    · exact List.mem_append_left _ (h.mem x hx)

lemma Known.not_mem (h : Known constants names) {x : String} (hx : x ∉ names) :
    Named.has constants x = false := by
  rw [Bool.eq_false_iff]
  intro hhas
  exact hx (h.mem x hhas)

variable [PatternEngine]

/-- A folded expression reads some of the names that the expression reads. -/
lemma vars_fold_subset (h : Known constants names) {expr : Expr} {x : String}
    (hx : x ∈ (expr.fold constants).vars) : x ∈ expr.vars := by
  rw [Expr.vars_fold h.only] at hx
  exact (List.mem_filter.1 hx).1

/-- The names that are replaced are known, so a folded expression can be computed from known names
exactly if the expression can. -/
lemma all_vars_fold (h : Known constants names) (expr : Expr) :
    (expr.fold constants).vars.all names.contains = expr.vars.all names.contains := by
  rw [Bool.eq_iff_iff, List.all_eq_true, List.all_eq_true, Expr.vars_fold h.only]
  constructor
  · intro hall x hx
    by_cases hhas : Named.has constants x = true
    · exact List.contains_iff_mem.2 (h.mem x hhas)
    · exact hall x (List.mem_filter.2 ⟨hx, by simpa using hhas⟩)
  · intro hall x hx
    exact hall x (List.mem_filter.1 hx).1

end Known

variable [PatternEngine]

def Touch.fold (constants : Named Expr) : Touch → Touch
  | reads expr => reads (expr.fold constants)
  | declares name => declares name

section Touches

variable {constants : Named Expr} {names : List String}

lemma declared_map_fold (touches : List Touch) :
    declared (touches.map (Touch.fold constants)) = declared touches := by
  induction touches with
  | nil => rfl
  | cons touch rest ih =>
    cases touch with
    | reads expr => exact ih
    | declares name => exact congrArg (name :: ·) ih

lemma scoped_map_fold (hknown : Known constants names) {touches : List Touch}
    (h : Scoped names touches) : Scoped names (touches.map (Touch.fold constants)) := by
  induction touches generalizing names with
  | nil => trivial
  | cons touch rest ih =>
    cases touch with
    | reads expr => exact ⟨fun x hx => h.1 x (vars_fold_subset hknown hx), ih hknown h.2⟩
    | declares name => exact ⟨h.1, ih (hknown.append [name]) h.2⟩

lemma touch_fold (binder : Binder) : (binder.fold constants).touch = binder.touch.fold constants := by
  cases binder <;> rfl

lemma map_touch_fold (binders : List Binder) :
    (binders.map (Binder.fold constants)).map Binder.touch =
      (binders.map Binder.touch).map (Touch.fold constants) := by
  rw [List.map_map, List.map_map]
  congr 1
  funext binder
  exact touch_fold binder

lemma binders_fold (params : List (Option Binder)) :
    (params.map fun param => param.map (Binder.fold constants)).filterMap id =
      (params.filterMap id).map (Binder.fold constants) :=
  List.reduceOption_map

lemma touches_fold (part : Part) :
    (part.fold constants).touches = part.touches.map (Touch.fold constants) := by
  match part with
  | .invocation i => rw [Part.fold, Part.touches, Part.touches, binders_fold, map_touch_fold]
  | .binding name expr => rfl
  | .condition expr => rfl
  | .predicate (.regex value pattern flags captures) =>
    rw [Part.fold, Part.touches, Predicate.fold, Predicate.touches, map_touch_fold]
    rfl
  | .predicate (.contains container element) =>
    rw [Part.fold, Part.touches, Predicate.fold, Predicate.touches, touch_fold]
    rfl
  | .predicate (.test expr) => rfl

lemma declared_fold (part : Part) :
    declared (part.fold constants).touches = declared part.touches := by
  rw [touches_fold, declared_map_fold]

/-- The constants that are known after a part are names from before or introduced by the part. -/
lemma known_remember (hknown : Known constants names) (part : Part) :
    Known ((part.fold constants).remember constants) (names ++ declared part.touches) := by
  unfold Part.remember
  split
  · rename_i name ty value hfold
    have htouches : declared part.touches = [name] := by
      rw [← @declared_fold _ constants part, hfold]
      rfl
    rw [htouches]
    exact hknown.insert name ty value
  · exact hknown.append _

lemma isInvocation_fold (part : Part) :
    (part.fold constants).isInvocation = part.isInvocation := by
  cases part <;> rfl

lemma flatMap_exprs_fold (binders : List Binder) :
    (binders.map (Binder.fold constants)).flatMap Binder.exprs =
      (binders.flatMap Binder.exprs).map (Expr.fold constants) := by
  rw [List.flatMap_map, List.map_flatMap]
  congr 1
  funext binder
  cases binder <;> rfl

/-- Replaced names are known before a pattern, so they are not names of its groups. -/
lemma capturesApart_fold (hknown : Known constants names) {part : Part}
    (h : Scoped names part.touches) :
    (part.fold constants).capturesApart = part.capturesApart := by
  match part, h with
  | .invocation i, _ => rfl
  | .binding name expr, _ => rfl
  | .condition expr, _ => rfl
  | .predicate (.test expr), _ => rfl
  | .predicate (.contains container element), _ => rfl
  | .predicate (.regex value pattern flags captures), ⟨_, _, _, hcaptures⟩ =>
    -- Both sides say that the expected texts can be computed before the pattern is tried.
    have hfold : Scoped names ((captures.map (Binder.fold constants)).map Binder.touch) := by
      rw [map_touch_fold]
      exact scoped_map_fold hknown hcaptures
    simp only [Part.fold, Part.capturesApart, Predicate.fold]
    rw [← capturesBefore_eq hfold, ← capturesBefore_eq hcaptures, capturesBefore, capturesBefore,
      flatMap_exprs_fold, List.all_map]
    congr 1
    funext expr
    exact all_vars_fold hknown expr

lemma flatMap_reads_fold (hknown : Known constants names) (exprs : List Expr) :
    (exprs.map (Expr.fold constants)).flatMap Expr.reads = exprs.flatMap Expr.reads := by
  rw [List.flatMap_map]
  congr 1
  funext expr
  exact Expr.reads_fold hknown.only expr

lemma reads_fold (hknown : Known constants names) (part : Part) :
    (part.fold constants).exprs.flatMap Expr.reads = part.exprs.flatMap Expr.reads := by
  have hexprs : (part.fold constants).exprs = part.exprs.map (Expr.fold constants) := by
    match part with
    | .invocation i => rw [Part.fold, Part.exprs, Part.exprs, binders_fold, flatMap_exprs_fold]
    | .binding name expr => rfl
    | .condition expr => rfl
    | .predicate (.test expr) => rfl
    | .predicate (.contains container (.declare name ty)) => rfl
    | .predicate (.contains container (.expect element)) => rfl
    | .predicate (.regex value pattern flags captures) =>
      simp only [Part.fold, Part.exprs, Predicate.fold, Predicate.exprs, flatMap_exprs_fold,
        List.map_cons]
  rw [hexprs, flatMap_reads_fold hknown]

end Touches

/-- What folding does not change about some parts, and what is known after them. -/
structure FoldedAs (constants : Named Expr) (names : List String) (parts folded : List Part)
    (after : Named Expr) : Prop where
  order : Scoped names (folded.flatMap Part.touches)
  introduced : declared (folded.flatMap Part.touches) = declared (parts.flatMap Part.touches)
  known : Known after (names ++ declared (parts.flatMap Part.touches))
  apart : folded.all Part.capturesApart = parts.all Part.capturesApart
  reads : (folded.flatMap Part.exprs).flatMap Expr.reads =
    (parts.flatMap Part.exprs).flatMap Expr.reads

section Parts

variable {constants : Named Expr} {names : List String}

lemma foldAll_cons (constants : Named Expr) (part : Part) (rest : List Part) :
    Part.foldAll constants (part :: rest) =
      (part.fold constants ::
        (Part.foldAll ((part.fold constants).remember constants) rest).1,
        (Part.foldAll ((part.fold constants).remember constants) rest).2) := rfl

/-- Folding keeps the names of parts. -/
lemma foldedAs_foldAll (hknown : Known constants names) {parts : List Part}
    (h : Scoped names (parts.flatMap Part.touches)) :
    FoldedAs constants names parts (Part.foldAll constants parts).1
      (Part.foldAll constants parts).2 := by
  induction parts generalizing constants names with
  | nil =>
    refine ⟨trivial, rfl, ?_, rfl, rfl⟩
    rw [List.flatMap_nil, declared_nil, List.append_nil]
    exact hknown
  | cons part rest ih =>
    rw [List.flatMap_cons, scoped_append] at h
    have hrest := ih (known_remember hknown part) h.2
    rw [foldAll_cons]
    constructor
    · rw [List.flatMap_cons, scoped_append, declared_fold, touches_fold]
      exact ⟨scoped_map_fold hknown h.1, hrest.order⟩
    · simp only [List.flatMap_cons, declared_append, declared_fold, hrest.introduced]
    · rw [List.flatMap_cons, declared_append, ← List.append_assoc]
      exact hrest.known
    · simp only [List.all_cons, capturesApart_fold hknown h.1, hrest.apart]
    · simp only [List.flatMap_cons, List.flatMap_append, reads_fold hknown, hrest.reads]

lemma isInvocation_foldAll {parts : List Part} (h : ∀ part ∈ parts, part.isInvocation = false) :
    ∀ part ∈ (Part.foldAll constants parts).1, part.isInvocation = false := by
  induction parts generalizing constants with
  | nil => exact fun _ hpart => (List.not_mem_nil hpart).elim
  | cons first rest ih =>
    intro part hpart
    rw [foldAll_cons, List.mem_cons] at hpart
    rcases hpart with rfl | hpart
    · rw [isInvocation_fold]
      exact h first List.mem_cons_self
    · exact ih (fun p hp => h p (List.mem_cons_of_mem _ hp)) part hpart

lemma startsWithInvocation_foldAll {parts : List Part} (h : StartsWithInvocation parts) :
    StartsWithInvocation (Part.foldAll constants parts).1 := by
  obtain ⟨i, rest, rfl, hrest⟩ := h
  exact ⟨_, _, rfl, isInvocation_foldAll hrest⟩

lemma foldClauses_cons (constants : Named Expr) (parts : List Part) (rest : List (List Part)) :
    foldClauses constants (parts :: rest) =
      ((Part.foldAll constants parts).1 :: (foldClauses (Part.foldAll constants parts).2 rest).1,
        (foldClauses (Part.foldAll constants parts).2 rest).2) := rfl

/-- Folding keeps the names of queries. -/
lemma foldedAs_foldClauses (hknown : Known constants names) {clauses : List (List Part)}
    (h : Scoped names (clauses.flatten.flatMap Part.touches)) :
    FoldedAs constants names clauses.flatten (foldClauses constants clauses).1.flatten
      (foldClauses constants clauses).2 := by
  induction clauses generalizing constants names with
  | nil =>
    refine ⟨trivial, rfl, ?_, rfl, rfl⟩
    rw [List.flatten_nil, List.flatMap_nil, declared_nil, List.append_nil]
    exact hknown
  | cons parts rest ih =>
    rw [List.flatten_cons, List.flatMap_append, scoped_append] at h
    have hparts := foldedAs_foldAll hknown h.1
    have hrest := ih hparts.known h.2
    rw [foldClauses_cons, List.flatten_cons, List.flatten_cons]
    constructor
    · rw [List.flatMap_append, scoped_append, hparts.introduced]
      exact ⟨hparts.order, hrest.order⟩
    · simp only [List.flatMap_append, declared_append, hparts.introduced, hrest.introduced]
    · rw [List.flatMap_append, declared_append, ← List.append_assoc]
      exact hrest.known
    · simp only [List.all_append, hparts.apart, hrest.apart]
    · simp only [List.flatMap_append, hparts.reads, hrest.reads]

lemma startsWithInvocation_foldClauses {clauses : List (List Part)}
    (h : ∀ parts ∈ clauses, StartsWithInvocation parts) :
    ∀ parts ∈ (foldClauses constants clauses).1, StartsWithInvocation parts := by
  induction clauses generalizing constants with
  | nil => exact fun _ hparts => (List.not_mem_nil hparts).elim
  | cons first rest ih =>
    intro parts hparts
    rw [foldClauses_cons, List.mem_cons] at hparts
    rcases hparts with rfl | hparts
    · exact startsWithInvocation_foldAll (h first List.mem_cons_self)
    · exact ih (fun p hp => h p (List.mem_cons_of_mem _ hp)) parts hparts

lemma foldedAs_foldTrigger {trigger : Option (List Part)}
    (h : Scoped names ((trigger.getD []).flatMap Part.touches)) :
    FoldedAs [] names (trigger.getD []) ((foldTrigger trigger).1.getD []) (foldTrigger trigger).2 := by
  cases trigger with
  | none => exact foldedAs_foldAll (known_nil names) h
  | some parts => exact foldedAs_foldAll (known_nil names) h

lemma startsWithInvocation_foldTrigger {trigger : Option (List Part)}
    (h : ∀ parts ∈ trigger, StartsWithInvocation parts) :
    ∀ parts ∈ (foldTrigger trigger).1, StartsWithInvocation parts := by
  cases trigger with
  | none => exact fun _ hparts => nomatch hparts
  | some parts =>
    rintro folded ⟨⟩
    exact startsWithInvocation_foldAll (h parts rfl)

end Parts

section Rules

variable {names : List String} {rule : Rule}

/-- The constants that are known after the trigger of a rule. -/
def Rule.triggerConstants (rule : Rule) : Named Expr := (foldTrigger rule.trigger).2

/-- The constants that are known before the actions of a rule. -/
def Rule.actionConstants (rule : Rule) : Named Expr :=
  (foldClauses rule.triggerConstants rule.queries).2

lemma fold_eq (rule : Rule) : rule.fold =
    { rule with
      trigger := (foldTrigger rule.trigger).1
      queries := (foldClauses rule.triggerConstants rule.queries).1
      actions := rule.actions.map (Action.fold rule.actionConstants) } := rfl

lemma exprs_foldAction (constants : Named Expr) (action : Action) :
    (action.fold constants).exprs = action.exprs.map (Expr.fold constants) := by
  cases action with
  | invocation channel params => exact List.reduceOption_map
  | keyword cell expr => rfl

lemma touches_foldActions (constants : Named Expr) (actions : List Action) :
    (actions.map (Action.fold constants)).flatMap Action.touches =
      (actions.flatMap Action.touches).map (Touch.fold constants) := by
  rw [List.flatMap_map, List.map_flatMap]
  congr 1
  funext action
  rw [Action.touches, Action.touches, exprs_foldAction, List.map_map, List.map_map]
  rfl

lemma foldedAs_trigger (h : rule.WellScoped names) :
    FoldedAs [] names (rule.trigger.getD []) (rule.fold.trigger.getD []) rule.triggerConstants :=
  foldedAs_foldTrigger h.parts.1

lemma foldedAs_queries (h : rule.WellScoped names) :
    FoldedAs rule.triggerConstants (names ++ declared ((rule.trigger.getD []).flatMap Part.touches))
      rule.queries.flatten rule.fold.queries.flatten rule.actionConstants :=
  foldedAs_foldClauses (foldedAs_trigger h).known h.parts.2.1

/-- A folded rule is well scoped. -/
lemma wellScoped_fold (h : rule.WellScoped names) : rule.fold.WellScoped names := by
  have htrigger := foldedAs_trigger h
  have hqueries := foldedAs_queries h
  refine ⟨?_, startsWithInvocation_foldTrigger h.trigger,
    startsWithInvocation_foldClauses h.queries⟩
  rw [Rule.touches, scoped_append, scoped_append, declared_append, ← List.append_assoc,
    htrigger.introduced, hqueries.introduced]
  refine ⟨⟨htrigger.order, hqueries.order⟩, ?_⟩
  rw [fold_eq, touches_foldActions]
  exact scoped_map_fold hqueries.known h.parts.2.2

lemma capturesApart_foldRule (h : rule.WellScoped names) :
    rule.fold.capturesApart = rule.capturesApart := by
  rw [Rule.capturesApart_eq, Rule.capturesApart_eq, (foldedAs_trigger h).apart,
    (foldedAs_queries h).apart]

end Rules

end Typed

open Typed

/-- A checked program and its folded form both compile if no pattern expects for a group the text of
another group of it; otherwise compiling either of them finds a variable that is not in scope. -/
theorem compileTyped_checked [PatternEngine] {kinds : Named KindSchemas} {program : Source.Program}
    {typed : Typed.Program} (h : (checkProgram kinds program).result = .ok typed) :
    (typed.rules.all Rule.capturesApart = true →
      (∃ compiled, compileTyped typed = .ok compiled) ∧
        ∃ compiled, compileTyped typed.fold = .ok compiled) ∧
    (typed.rules.all Rule.capturesApart = false →
      (∃ x, compileTyped typed = .error (.unknownVariable x)) ∧
        ∃ x, compileTyped typed.fold = .error (.unknownVariable x)) := by
  have hscoped : ∀ rule ∈ typed.rules, rule.WellScoped (typed.params.map Prod.fst) :=
    fun rule hrule => (checkProgram_wellScoped h rule hrule).1
  have hfolded : ∀ rule ∈ typed.fold.rules, rule.WellScoped (typed.fold.params.map Prod.fst) := by
    intro folded hmem
    obtain ⟨rule, hrule, rfl⟩ := List.mem_map.1 hmem
    exact wellScoped_fold (hscoped rule hrule)
  have hapart : typed.fold.rules.all Rule.capturesApart = typed.rules.all Rule.capturesApart := by
    rw [Bool.eq_iff_iff, List.all_eq_true, List.all_eq_true, Typed.Program.fold, List.forall_mem_map]
    refine forall₂_congr fun rule hrule => ?_
    rw [capturesApart_foldRule (hscoped rule hrule)]
  have hplain := compileTyped_cases hscoped
  have hfold := compileTyped_cases hfolded
  rw [hapart] at hfold
  cases hall : typed.rules.all Rule.capturesApart with
  | true =>
    rw [hall] at hplain hfold
    simp only [true_and, Bool.true_eq_false, false_and, or_false] at hplain hfold
    exact ⟨fun _ => ⟨hplain, hfold⟩, nofun⟩
  | false =>
    rw [hall] at hplain hfold
    simp only [Bool.false_eq_true, false_and, true_and, false_or] at hplain hfold
    exact ⟨nofun, fun _ => ⟨hplain, hfold⟩⟩

/-- A rule whose pattern has a second group that repeats the first one. -/
def repeatedGroup : Source.Program :=
  ⟨"repeated", [], [.rule
    [.invocation ⟨.builtin, "at", [.null]⟩,
      .predicate (.call "regex" [.constant (.string "aa"), .constant (.string "(a)(a)"),
        .constant (.string ""), .var "letter", .var "letter"])]
    [] [.invocation ⟨.builtin, "notify", []⟩]]⟩

/-- The repeated group passes the check and stops the compiler. -/
theorem compileTyped_checked_repeatedGroup :
    ∃ typed, (checkProgram [] repeatedGroup).result = .ok typed ∧
      typed.rules.all Rule.capturesApart = false ∧
      (∃ x, compileTyped typed = .error (.unknownVariable x)) ∧
        ∃ x, compileTyped typed.fold = .error (.unknownVariable x) := by
  have h : (checkProgram [] repeatedGroup).result = .ok ⟨"repeated", [], [], [
      ⟨0, none, some [
        .invocation ⟨⟨.builtin, Selector.builtinKind, "at", .triggers⟩, [none], [.time]⟩,
        .predicate (.regex (.constant .string (.string "aa"))
          (.constant .string (.string "(a)(a)")) (.constant .string (.string ""))
          [.declare "letter" .string, .expect (.var .string "letter")])],
        [], [.invocation ⟨.builtin, Selector.builtinKind, "notify", .actions⟩ []]⟩]⟩ := rfl
  exact ⟨_, h, rfl, (compileTyped_checked h).2 rfl⟩

end ChannelRules
