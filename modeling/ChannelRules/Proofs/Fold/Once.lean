import ChannelRules.Proofs.Check.Declared
import ChannelRules.Proofs.Check.Placed
import ChannelRules.Proofs.Fold.Idempotent
import ChannelRules.Proofs.Fold.Scoped

/-!
# Folding a rule once is enough

Folding a rule a second time changes nothing, and the first time it only puts constants in the place
of expressions, each with the type of the expression. The second time the same names are bound to
constants, since a constant that a name is bound to is not folded any more; so every expression is
folded with the same constants as the first time.
-/

namespace ChannelRules

namespace Typed

/-- Binders that differ by what folding may change in an expression. -/
inductive Binder.Residue : Binder → Binder → Prop
  | declare (name : String) (ty : Ty) : Residue (declare name ty) (declare name ty)
  | expect {expr expr' : Expr} (h : expr.Residue expr') : Residue (expect expr) (expect expr')

inductive Predicate.Residue : Predicate → Predicate → Prop
  | regex {value value' pattern pattern' flags flags' : Expr} {captures captures' : List Binder}
      (hvalue : value.Residue value') (hpattern : pattern.Residue pattern')
      (hflags : flags.Residue flags') (hcaptures : List.Forall₂ Binder.Residue captures captures') :
    Residue (regex value pattern flags captures) (regex value' pattern' flags' captures')
  | contains {container container' : Expr} {element element' : Binder}
      (hcontainer : container.Residue container') (helement : element.Residue element') :
    Residue (contains container element) (contains container' element')
  | test {expr expr' : Expr} (h : expr.Residue expr') : Residue (test expr) (test expr')

inductive Part.Residue : Part → Part → Prop
  | invocation (channel : ChannelRef) {params params' : List (Option Binder)} (types : List Ty)
      (h : List.Forall₂ (Option.Rel Binder.Residue) params params') :
    Residue (invocation ⟨channel, params, types⟩) (invocation ⟨channel, params', types⟩)
  | binding (name : String) {expr expr' : Expr} (h : expr.Residue expr') :
    Residue (binding name expr) (binding name expr')
  | predicate {p p' : Predicate} (h : p.Residue p') : Residue (predicate p) (predicate p')
  | condition {expr expr' : Expr} (h : expr.Residue expr') :
    Residue (condition expr) (condition expr')

inductive Action.Residue : Action → Action → Prop
  | invocation (channel : ChannelRef) {params params' : List (Option Expr)}
      (h : List.Forall₂ (Option.Rel Expr.Residue) params params') :
    Residue (invocation channel params) (invocation channel params')
  | keyword (cell : String) {expr expr' : Expr} (h : expr.Residue expr') :
    Residue (keyword cell expr) (keyword cell expr')

/-- A rule in which some expressions are replaced by constants of the types of these expressions. -/
structure Rule.Residue (rule rule' : Rule) : Prop where
  id : rule'.id = rule.id
  module : rule'.module = rule.module
  trigger : Option.Rel (List.Forall₂ Part.Residue) rule.trigger rule'.trigger
  queries : List.Forall₂ (List.Forall₂ Part.Residue) rule.queries rule'.queries
  actions : List.Forall₂ Action.Residue rule.actions rule'.actions

/-- Folding changes what it may change, and the second time nothing. -/
structure FoldsOnceBy {α : Type} (Residue : α → α → Prop) (fold : α → α) (a : α) : Prop where
  residue : Residue a (fold a)
  fixed : fold (fold a) = fold a

/-- The same where folding finds out about more constants: the second time it finds the same. -/
structure FoldsOnceAlong {α : Type} (Residue : α → α → Prop)
    (fold : Named Expr → α → α × Named Expr) (constants : Named Expr) (a : α) : Prop where
  residue : Residue a (fold constants a).1
  fixed : fold constants (fold constants a).1 = fold constants a

section FoldsOnceBy

variable {α : Type} {Residue : α → α → Prop} {fold : α → α}

lemma foldsOnceBy_map {as : List α} (h : ∀ a ∈ as, FoldsOnceBy Residue fold a) :
    FoldsOnceBy (List.Forall₂ Residue) (List.map fold) as where
  residue := by
    rw [List.forall₂_map_right_iff, List.forall₂_same]
    exact fun a ha => (h a ha).residue
  fixed := by
    rw [List.map_map, List.map_inj_left]
    exact fun a ha => (h a ha).fixed

lemma foldsOnceBy_option {a? : Option α} (h : ∀ a ∈ a?, FoldsOnceBy Residue fold a) :
    FoldsOnceBy (Option.Rel Residue) (Option.map fold) a? := by
  cases a? with
  | none => exact ⟨.none, rfl⟩
  | some a => exact ⟨.some (h a rfl).residue, congrArg some (h a rfl).fixed⟩

end FoldsOnceBy

section Parts

variable [PatternEngine] {constants : Named Expr}

lemma Expr.FoldsOnce.by {expr : Expr} (h : expr.FoldsOnce constants) :
    FoldsOnceBy Expr.Residue (Expr.fold constants) expr := ⟨h.residue, h.fixed⟩

lemma Binder.foldsOnce {binder : Binder} (h : ∀ expr ∈ binder.exprs, expr.FoldsOnce constants) :
    FoldsOnceBy Binder.Residue (Binder.fold constants) binder := by
  cases binder with
  | declare name ty => exact ⟨.declare name ty, rfl⟩
  | expect expr =>
    have hexpr := h expr (List.mem_singleton_self expr)
    exact ⟨.expect hexpr.residue, congrArg expect hexpr.fixed⟩

lemma foldsOnce_binders {binders : List Binder}
    (h : ∀ expr ∈ binders.flatMap Binder.exprs, expr.FoldsOnce constants) :
    ∀ binder ∈ binders, FoldsOnceBy Binder.Residue (Binder.fold constants) binder :=
  fun binder hbinder => Binder.foldsOnce fun expr hexpr =>
    h expr (List.mem_flatMap.2 ⟨binder, hbinder, hexpr⟩)

lemma Predicate.foldsOnce {predicate : Predicate}
    (h : ∀ expr ∈ predicate.exprs, expr.FoldsOnce constants) :
    FoldsOnceBy Predicate.Residue (Predicate.fold constants) predicate := by
  cases predicate with
  | regex value pattern flags captures =>
    simp only [Predicate.exprs, List.forall_mem_cons] at h
    obtain ⟨hvalue, hpattern, hflags, hcaptures⟩ := h
    have hbinders := foldsOnceBy_map (foldsOnce_binders hcaptures)
    refine ⟨.regex hvalue.residue hpattern.residue hflags.residue hbinders.residue, ?_⟩
    simp only [Predicate.fold, hvalue.fixed, hpattern.fixed, hflags.fixed, hbinders.fixed]
  | contains container element =>
    simp only [Predicate.exprs, List.forall_mem_cons] at h
    obtain ⟨hcontainer, helement⟩ := h
    have hbinder := Binder.foldsOnce helement
    refine ⟨.contains hcontainer.residue hbinder.residue, ?_⟩
    simp only [Predicate.fold, hcontainer.fixed, hbinder.fixed]
  | test expr =>
    have hexpr := h expr (List.mem_singleton_self expr)
    exact ⟨.test hexpr.residue, congrArg test hexpr.fixed⟩

/-- Folding a part once is enough if folding each of its expressions once is. -/
lemma Part.foldsOnce {part : Part} (h : ∀ expr ∈ part.exprs, expr.FoldsOnce constants) :
    FoldsOnceBy Part.Residue (Part.fold constants) part := by
  match part, h with
  | .invocation ⟨channel, params, types⟩, h =>
    have hbinders := foldsOnce_binders h
    have hparams := foldsOnceBy_map fun param hparam =>
      @foldsOnceBy_option _ _ _ param fun binder hbinder =>
        hbinders binder (List.mem_filterMap.2 ⟨param, hparam, hbinder⟩)
    refine ⟨.invocation channel types hparams.residue, ?_⟩
    simp only [Part.fold, hparams.fixed]
  | .binding name expr, h =>
    have hexpr := h expr (List.mem_singleton_self expr)
    exact ⟨.binding name hexpr.residue, congrArg (binding name) hexpr.fixed⟩
  | .predicate p, h =>
    have hpredicate := Predicate.foldsOnce h
    exact ⟨.predicate hpredicate.residue, congrArg predicate hpredicate.fixed⟩
  | .condition expr, h =>
    have hexpr := h expr (List.mem_singleton_self expr)
    exact ⟨.condition hexpr.residue, congrArg condition hexpr.fixed⟩

lemma Action.foldsOnce {action : Action} (h : ∀ expr ∈ action.exprs, expr.FoldsOnce constants) :
    FoldsOnceBy Action.Residue (Action.fold constants) action := by
  cases action with
  | invocation channel params =>
    have hparams := foldsOnceBy_map fun param hparam =>
      @foldsOnceBy_option _ _ _ param fun expr hexpr =>
        (h expr (List.mem_filterMap.2 ⟨param, hparam, hexpr⟩)).by
    refine ⟨.invocation channel hparams.residue, ?_⟩
    simp only [Action.fold, hparams.fixed]
  | keyword cell expr =>
    have hexpr := h expr (List.mem_singleton_self expr)
    exact ⟨.keyword cell hexpr.residue, congrArg (keyword cell) hexpr.fixed⟩

end Parts

end Typed

open Typed

section Stands

variable {scope scope' : Scope} {constants : Named Expr}

lemma Scope.Stands.grows {vars : List (String × Ty)} (h : scope.Stands constants)
    (hgrows : scope.Grows scope' vars) : scope'.Stands constants := by
  intro name expr hget
  obtain ⟨ty, value, kind, hexpr, hentry, hsettled⟩ := h name expr hget
  exact ⟨ty, value, kind, hexpr, (hgrows.get name _).2 (.inl hentry), hsettled⟩

lemma Scope.keeps_stands (constants : Named Expr) :
    Scope.Keeps fun scope => scope.Stands constants :=
  fun _ _ _ _ h hdeclare => h.grows (Scope.grows_declare hdeclare)

variable [PatternEngine]

/-- The constants that are known after a part have the types that their names have in scope. -/
lemma Scope.Stands.remember {part : Part} (h : scope.Stands constants)
    (hgrows : scope.Grows scope' part.binds)
    (hpart : ∀ expr ∈ part.exprs, expr.FoldsOnce constants) :
    scope'.Stands ((part.fold constants).remember constants) := by
  have hold := h.grows hgrows
  cases part with
  | binding bound source =>
    have hsource := hpart source (List.mem_singleton_self source)
    rw [Part.fold]
    cases hfold : source.fold constants with
    | constant ty value =>
      intro name expr hget
      change Named.get? (Named.insert constants bound (.constant ty value)) name = some expr at hget
      by_cases hname : name = bound
      · rw [hname, Named.get?_insert_self] at hget
        cases hget
        have hty : source.ty = ty := by
          rw [← hsource.ty_eq, hfold]
          rfl
        have hentry := (hgrows.get bound ⟨source.ty, .introduced⟩).2
          (.inr ⟨source.ty, List.mem_singleton_self _, rfl⟩)
        rw [hty, ← hname] at hentry
        refine ⟨ty, value, .introduced, rfl, hentry, ?_⟩
        rw [← hfold]
        exact hsource.settled
      · rw [Named.get?_insert_of_ne _ _ hname] at hget
        exact hold name expr hget
    | _ => exact hold
  | _ => exact hold

end Stands

namespace Check

variable {α β : Type} {Residue : α → α → Prop} {fold : Named Expr → α → α × Named Expr}

/-- Folding what a check finds once is enough, if the names that stand for constants stand for them
in scope; and they do so after it. -/
def FoldsOnce (x : Check α) (Residue : α → α → Prop)
    (fold : Named Expr → α → α × Named Expr) : Prop :=
  ∀ {constants : Named Expr} {s s' : CheckState} {a : α}, s.scope.Stands constants →
    x s = .ok a s' →
      FoldsOnceAlong Residue fold constants a ∧ s'.scope.Stands (fold constants a).2

/-- Folding items one after the other. -/
lemma forAll_foldsOnce {f : β → Check α} {folds : Named Expr → List α → List α × Named Expr}
    (hnil : ∀ constants, folds constants [] = ([], constants))
    (hcons : ∀ constants a rest, folds constants (a :: rest) =
      ((fold constants a).1 :: (folds (fold constants a).2 rest).1,
        (folds (fold constants a).2 rest).2))
    (hf : ∀ b, (f b).FoldsOnce Residue fold) (items : List β) :
    (forAll f items).FoldsOnce (List.Forall₂ Residue) folds := by
  induction items with
  | nil =>
    intro constants s s' found hs h
    cases h
    refine ⟨⟨?_, ?_⟩, ?_⟩
    · rw [hnil]
      exact .nil
    · rw [hnil, hnil]
    · rw [hnil]
      exact hs
  | cons item rest ih =>
    intro constants s s' found hs h
    simp only [forAll, state_bind_eq_ok, state_pure_eq_ok] at h
    obtain ⟨a, t, ha, others, t', hothers, rfl, rfl⟩ := h
    obtain ⟨hfirst, ht⟩ := hf item hs ha
    obtain ⟨hrest, ht'⟩ := ih ht hothers
    refine ⟨⟨?_, ?_⟩, ?_⟩
    · rw [hcons]
      exact .cons hfirst.residue hrest.residue
    · -- The first item leaves the same constants to the rest both times.
      rw [hcons constants a others, hcons, hfirst.fixed, hrest.fixed]
    · rw [hcons]
      exact ht'

end Check

section Rules

variable [PatternEngine] (ctx : Context)

lemma checkPart_foldsOnce (sort : Section) (part : Source.Part) :
    (checkPart ctx sort part).FoldsOnce Part.Residue fun constants part =>
      (part.fold constants, (part.fold constants).remember constants) := by
  intro constants s s' typed hs h
  obtain ⟨-, hplaced⟩ := gathered_checkPart (gathers_placed (Scope.keeps_stands constants)) sort
    part s s' typed hs h
  have hexprs : ∀ expr ∈ typed.exprs, expr.FoldsOnce constants := by
    intro expr hexpr
    obtain ⟨scope, hstands, hchecked⟩ := hplaced expr hexpr
    exact hchecked.foldsOnce hstands
  have hpart := Part.foldsOnce hexprs
  refine ⟨⟨hpart.residue, ?_⟩, hs.remember (checkPart_sound h).2 hexprs⟩
  simp only [hpart.fixed]

lemma checkClause_foldsOnce (sort : Section) (parts : List Source.Part) :
    (checkClause ctx sort parts).FoldsOnce (List.Forall₂ Part.Residue) Part.foldAll := by
  intro constants s s' found hs h
  unfold checkClause at h
  split at h
  · cases h
  · exact Check.forAll_foldsOnce (fun _ => rfl) foldAll_cons (checkPart_foldsOnce ctx sort) _ hs h

lemma checkTrigger_foldsOnce (source : Option (List Source.Part)) {trigger : Option (List Part)}
    {s s' : CheckState} (h : checkTrigger ctx source s = .ok trigger s') :
    Option.Rel (List.Forall₂ Part.Residue) trigger (foldTrigger trigger).1 ∧
      foldTrigger (foldTrigger trigger).1 = foldTrigger trigger ∧
      s'.scope.Stands (foldTrigger trigger).2 := by
  cases source with
  | none =>
    cases h
    exact ⟨.none, rfl, Scope.stands_nil _⟩
  | some parts =>
    simp only [checkTrigger, state_bind_eq_ok, state_pure_eq_ok] at h
    obtain ⟨found, t, hfound, rfl, rfl⟩ := h
    obtain ⟨hparts, ht⟩ :=
      checkClause_foldsOnce ctx .triggers parts (Scope.stands_nil s.scope) hfound
    refine ⟨.some hparts.residue, ?_, ht⟩
    simp only [foldTrigger, hparts.fixed]

/-- Folding a checked rule once is enough. -/
theorem checkRuleBody_foldsOnce {modules : Named (List String)} {source : RuleSource} {id : Nat}
    {rule : Rule} {s s' : CheckState}
    (h : checkRuleBody ctx modules source id s = .ok rule s') :
    FoldsOnceBy Rule.Residue Rule.fold rule := by
  obtain ⟨-, t, t₁, t₂, t₃, -, -, htrigger, hqueries, hactions⟩ := checkRuleBody_stages ctx h
  obtain ⟨htriggerResidue, htriggerFixed, ht₁⟩ := checkTrigger_foldsOnce ctx _ htrigger
  obtain ⟨hqueries, ht₂⟩ := Check.forAll_foldsOnce (fun _ => rfl) foldClauses_cons
    (checkClause_foldsOnce ctx .queries) _ ht₁ hqueries
  have hactions : FoldsOnceBy (List.Forall₂ Action.Residue)
      (List.map (Action.fold rule.actionConstants)) rule.actions := by
    obtain ⟨-, hplaced⟩ := Check.yields_forAll
      (placed_checkAction (Scope.keeps_stands rule.actionConstants)) _ t₂ t₃ rule.actions ht₂
        hactions
    refine foldsOnceBy_map fun action haction => Action.foldsOnce fun expr hexpr => ?_
    obtain ⟨_, -, haction⟩ := exists_of_mem_forall₂ hplaced haction
    obtain ⟨scope, hstands, hchecked⟩ := haction expr hexpr
    exact hchecked.foldsOnce hstands
  -- The folded rule knows the same constants after its trigger and before its actions.
  have htriggerConstants : rule.fold.triggerConstants = rule.triggerConstants :=
    congrArg Prod.snd htriggerFixed
  have hclauses : foldClauses rule.triggerConstants rule.fold.queries =
      foldClauses rule.triggerConstants rule.queries := hqueries.fixed
  have hconstants : rule.fold.actionConstants = rule.actionConstants := by
    rw [Rule.actionConstants, htriggerConstants, hclauses]
    rfl
  refine ⟨⟨rfl, rfl, htriggerResidue, hqueries.residue, hactions.residue⟩, ?_⟩
  rw [fold_eq rule.fold, htriggerConstants, hclauses, hconstants]
  have htriggerAgain : (foldTrigger rule.fold.trigger).1 = (foldTrigger rule.trigger).1 :=
    congrArg Prod.fst htriggerFixed
  have hactionsAgain : rule.fold.actions.map (Action.fold rule.actionConstants) =
      rule.actions.map (Action.fold rule.actionConstants) := hactions.fixed
  rw [htriggerAgain, hactionsAgain]
  rfl

end Rules

/-- Folding is idempotent, and it keeps types: in a checked expression, and in every rule of a
checked program, it puts constants in the place of expressions and gives each of them the type of
the expression. -/
theorem fold_idempotent [PatternEngine] :
    (∀ (scope : Scope) (keywords : Named Ty) (e : Source.Expr) (te : Expr),
      (checkExpr scope keywords e).result = .ok te →
        (te.fold []).fold [] = te.fold [] ∧ (te.fold []).ty = te.ty ∧ te.Residue (te.fold [])) ∧
    ∀ (kinds : Named KindSchemas) (program : Source.Program) (typed : Typed.Program),
      (checkProgram kinds program).result = .ok typed →
        ∀ rule ∈ typed.rules, rule.fold.fold = rule.fold ∧ rule.Residue rule.fold := by
  constructor
  · intro scope keywords e te h
    have honce := (checkExpr_checked scope keywords e h).foldsOnce (Scope.stands_nil scope)
    exact ⟨honce.fixed, honce.ty_eq, honce.residue⟩
  · intro kinds program typed h rule hrule
    obtain ⟨modules, s, -, -, hrules⟩ := checkProgram_eq_ok h
    obtain ⟨source, id, t, t', -, hbody⟩ := hrules rule hrule
    have honce := checkRuleBody_foldsOnce _ hbody
    exact ⟨honce.fixed, honce.residue⟩

/-- Two kilometres and 500 metres. -/
def stretch : Source.Expr :=
  .binary "+" (.constant (.measure 2.0 "km")) (.constant (.measure 500.0 "m"))

/-- A rule that binds a name to a constant length and compares it with another length. -/
def detour : Source.Program :=
  ⟨"detour", [], [.rule
    [.invocation ⟨.builtin, "at", [.null]⟩, .binding "way" stretch,
      .condition (.binary ">" (.var "way") (.constant (.measure 1.0 "km")))]
    [] [.invocation ⟨.builtin, "notify", []⟩]]⟩

/-- The sum of two lengths becomes a length in metres, alone and where a rule binds a name to it. -/
theorem fold_idempotent_detour :
    (∃ te, (checkExpr .empty [] stretch).result = .ok te ∧
      (∃ x, te.fold [] = .constant (.measure "m") (.measure x "m")) ∧
      (te.fold []).fold [] = te.fold [] ∧ (te.fold []).ty = te.ty ∧ te.Residue (te.fold [])) ∧
    ∃ typed rule, (checkProgram [] detour).result = .ok typed ∧ rule ∈ typed.rules ∧
      (∃ x, rule.triggerConstants = [("way", .constant (.measure "m") (.measure x "m"))]) ∧
      rule.fold.fold = rule.fold ∧ rule.Residue rule.fold := by
  have hstretch : (checkExpr .empty [] stretch).result =
      .ok (.binary (.measure "m") ⟨"+", 1, .calculation .add⟩
        (.constant (.measure "m") (.measure (2.0 * 1000.0) "m"))
        (.constant (.measure "m") (.measure (500.0 * 1.0) "m"))) := rfl
  have hdetour : ∃ typed rule, (checkProgram [] detour).result = .ok typed ∧
      rule ∈ typed.rules ∧
        ∃ x, rule.triggerConstants = [("way", .constant (.measure "m") (.measure x "m"))] :=
    ⟨_, _, rfl, List.mem_cons_self, _, rfl⟩
  obtain ⟨typed, rule, htyped, hrule, hconstants⟩ := hdetour
  exact ⟨⟨_, hstretch, ⟨_, rfl⟩, fold_idempotent.1 _ _ _ _ hstretch⟩, typed, rule, htyped, hrule,
    hconstants, fold_idempotent.2 _ _ _ htyped rule hrule⟩

end ChannelRules
