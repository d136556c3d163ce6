import ChannelRules.Proofs.Check.Expr

/-!
# The names of a rule

A rule reads names and introduces names, in an order that its form gives. It is well scoped when
every name is introduced before it is read and no name is introduced twice.
-/

namespace ChannelRules

namespace Typed

/-- What is done with names: an expression is read, or a name is introduced. -/
inductive Touch where
  | reads (expr : Expr)
  | declares (name : String)

namespace Touch

def name? : Touch → Option String
  | reads _ => none
  | declares name => some name

def declared (touches : List Touch) : List String := touches.filterMap name?

/-- Expressions read names that are known or have been introduced, and names are new when they are
introduced. -/
def Scoped : List String → List Touch → Prop
  | _, [] => True
  | names, reads expr :: rest => (∀ x ∈ expr.vars, x ∈ names) ∧ Scoped names rest
  | names, declares name :: rest => name ∉ names ∧ Scoped (names ++ [name]) rest

/-- Expressions are in base units. -/
def AllNormal (touches : List Touch) : Prop := ∀ expr, .reads expr ∈ touches → expr.Normal

@[simp] lemma declared_nil : declared [] = [] := rfl

@[simp] lemma declared_reads (expr : Expr) (rest : List Touch) :
    declared (reads expr :: rest) = declared rest := rfl

@[simp] lemma declared_declares (name : String) (rest : List Touch) :
    declared (declares name :: rest) = name :: declared rest := rfl

@[simp] lemma declared_append (xs ys : List Touch) :
    declared (xs ++ ys) = declared xs ++ declared ys :=
  List.filterMap_append

@[simp] lemma declared_map_reads (exprs : List Expr) : declared (exprs.map reads) = [] := by
  induction exprs with
  | nil => rfl
  | cons expr rest ih => exact ih

lemma scoped_append {names : List String} {xs ys : List Touch} :
    Scoped names (xs ++ ys) ↔ Scoped names xs ∧ Scoped (names ++ declared xs) ys := by
  induction xs generalizing names with
  | nil => simp [Scoped]
  | cons touch rest ih =>
    cases touch with
    | reads expr => simp only [List.cons_append, Scoped, ih, declared_reads, and_assoc]
    | declares name =>
      simp only [List.cons_append, Scoped, ih, declared_declares, List.append_assoc, and_assoc,
        List.nil_append]

lemma allNormal_append {xs ys : List Touch} :
    AllNormal (xs ++ ys) ↔ AllNormal xs ∧ AllNormal ys := by
  simp only [AllNormal, List.mem_append, or_imp, forall_and]

/-- Names that are introduced are new. -/
lemma not_mem_of_scoped {names : List String} {touches : List Touch} (h : Scoped names touches)
    {name : String} (hname : name ∈ declared touches) : name ∉ names := by
  induction touches generalizing names with
  | nil => cases hname
  | cons touch rest ih =>
    cases touch with
    | reads expr => exact ih h.2 hname
    | declares other =>
      rw [declared_declares, List.mem_cons] at hname
      rcases hname with rfl | hname
      · exact h.1
      · intro hmem
        exact ih h.2 hname (List.mem_append_left _ hmem)

end Touch

open Touch

def Binder.touch : Binder → Touch
  | declare name _ => .declares name
  | expect expr => .reads expr

def Predicate.touches : Predicate → List Touch
  | regex value pattern flags captures =>
    .reads value :: .reads pattern :: .reads flags :: captures.map Binder.touch
  | contains container element => [.reads container, element.touch]
  | test expr => [.reads expr]

def Part.touches : Part → List Touch
  | invocation i => (i.params.filterMap id).map Binder.touch
  | binding name expr => [.reads expr, .declares name]
  | predicate p => p.touches
  | condition expr => [.reads expr]

def Action.touches (action : Action) : List Touch := action.exprs.map .reads

/-- What a rule does with names, from the trigger over the queries to the actions. -/
def Rule.touches (rule : Rule) : List Touch :=
  (rule.trigger.getD []).flatMap Part.touches ++ rule.queries.flatten.flatMap Part.touches ++
    rule.actions.flatMap Action.touches

def Part.isInvocation : Part → Bool
  | invocation _ => true
  | _ => false

/-- The parts of a trigger or query are an invocation and parts of other sorts. -/
def StartsWithInvocation (parts : List Part) : Prop :=
  ∃ i rest, parts = .invocation i :: rest ∧ ∀ part ∈ rest, part.isInvocation = false

/-- Every name of a rule is introduced once and before it is read, and the trigger and each query
start with their only invocation. -/
structure Rule.WellScoped (names : List String) (rule : Rule) : Prop where
  order : Scoped names rule.touches
  trigger : ∀ parts ∈ rule.trigger, StartsWithInvocation parts
  queries : ∀ parts ∈ rule.queries, StartsWithInvocation parts

/-- The parts of the order of names in a well scoped rule. -/
lemma Rule.WellScoped.parts {names : List String} {rule : Rule} (h : rule.WellScoped names) :
    Scoped names ((rule.trigger.getD []).flatMap Part.touches) ∧
      Scoped (names ++ declared ((rule.trigger.getD []).flatMap Part.touches))
        (rule.queries.flatten.flatMap Part.touches) ∧
      Scoped (names ++ declared ((rule.trigger.getD []).flatMap Part.touches) ++
        declared (rule.queries.flatten.flatMap Part.touches))
        (rule.actions.flatMap Action.touches) := by
  have horder := h.order
  rw [Rule.touches, scoped_append, scoped_append, declared_append, ← List.append_assoc,
    and_assoc] at horder
  exact horder

/-- The name that a place introduces. -/
def Binder.name? : Binder → Option String
  | declare name _ => some name
  | expect _ => none

/-- No text that a pattern expects for a group reads a name that the pattern introduces. -/
def Predicate.capturesApart : Predicate → Bool
  | regex _ _ _ captures => (captures.flatMap Binder.exprs).all fun expr =>
      expr.vars.all fun x => !(captures.filterMap Binder.name?).contains x
  | _ => true

def Part.capturesApart : Part → Bool
  | predicate p => p.capturesApart
  | _ => true

/-- The patterns of a rule do not expect the text of one group to be that of another group. -/
def Rule.capturesApart (rule : Rule) : Bool := rule.inputParts.all Part.capturesApart

lemma Rule.capturesApart_eq (rule : Rule) :
    rule.capturesApart = ((rule.trigger.getD []).all Part.capturesApart &&
      rule.queries.flatten.all Part.capturesApart) := by
  rw [Rule.capturesApart, Rule.inputParts, List.all_append]

end Typed

end ChannelRules
