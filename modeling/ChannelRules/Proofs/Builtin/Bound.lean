import ChannelRules.Builtin.Overload
import ChannelRules.Proofs.Eval
import ChannelRules.Proofs.Named

/-!
# Builtins read no names

A variable that is not set and a value that an event does not have are found out when they are read.
Builtins read neither, so they never fail in these two ways, whatever their arguments are. They fail
because of their arguments only, except that the text of an event can fail for want of the event or
as its formatter does. The formatter apart, they leave the keyword cells as they are.
-/

namespace ChannelRules

/-- Failures because a variable is not set or an event has no such value. -/
def RuntimeError.isUnbound : RuntimeError → Bool
  | unknownVariable _ => true
  | missingEventProperty _ _ => true
  | _ => false

/-- An outcome is a result with a property, or a failure of another kind than at a name without a
value. -/
abbrev Bound {α : Type} (P : α → Prop) : Except RuntimeError α → Prop :=
  Gives P fun e => e.isUnbound = false

/-- An outcome is no failure at a name without a value. -/
abbrev AllBound {α : Type} (x : Except RuntimeError α) : Prop := Bound (fun _ => True) x

/-- Failures because of the state of an activation: a variable, a keyword or a value of an event is
not there, or there is no event, or a keyword cannot be written. -/
def RuntimeError.isOuter : RuntimeError → Bool
  | unknownVariable _ => true
  | unknownKeyword _ => true
  | readOnlyKeyword _ => true
  | missingEventProperty _ _ => true
  | noEvent => true
  | _ => false

lemma RuntimeError.isUnbound_of_isOuter {e : RuntimeError} (h : e.isOuter = false) :
    e.isUnbound = false := by
  cases e <;> first | rfl | cases h

/-- An outcome that is a failure, if at all, because of arguments. -/
abbrev Inner {α : Type} (x : Except RuntimeError α) : Prop :=
  Gives (fun _ => True) (fun e => e.isOuter = false) x

lemma Inner.bind {α β : Type} {x : Except RuntimeError α} {f : α → Except RuntimeError β}
    (hx : Inner x) (hf : ∀ a, Inner (f a)) : Inner (x >>= f) := Gives.bind hx fun a _ => hf a

section Arguments

variable (args : List Value) (i : Nat) (f : String)

lemma argument_inner : Inner (argument args i f) := by
  unfold argument
  split
  · trivial
  · rfl

lemma numberArgument_inner : Inner (numberArgument args i f) := by
  refine (argument_inner args i f).bind fun value => ?_
  split
  · trivial
  · rfl

lemma textArgument_inner : Inner (textArgument args i f) := by
  refine (argument_inner args i f).bind fun value => ?_
  split
  · trivial
  · rfl

lemma boolArgument_inner : Inner (boolArgument args i f) := by
  refine (argument_inner args i f).bind fun value => ?_
  split
  · trivial
  · rfl

lemma arrayArgument_inner : Inner (arrayArgument args i f) := by
  refine (argument_inner args i f).bind fun value => ?_
  split
  · trivial
  · rfl

lemma mapArgument_inner : Inner (mapArgument args i f) := by
  refine (argument_inner args i f).bind fun value => ?_
  split
  · trivial
  · rfl

lemma locationArgument_inner : Inner (locationArgument args i f) := by
  refine (argument_inner args i f).bind fun value => ?_
  split
  · trivial
  · rfl

lemma amountsArgument_inner : Inner (amountsArgument args f) := by
  have hamounts : ∀ items, Inner (amounts items) := by
    intro items
    induction items with
    | nil => trivial
    | cons item rest ih =>
      unfold amounts
      split
      · exact ih.bind fun _ => trivial
      · rfl
  exact (arrayArgument_inner args 0 f).bind fun items => hamounts items

end Arguments

section Operations

variable (args : List Value) (f : String)

lemma arithmetic_inner (g : Float → Float → Float) : Inner (arithmetic g args f) := by
  refine (numberArgument_inner args 0 f).bind fun x => ?_
  exact (numberArgument_inner args 1 f).bind fun y => trivial

lemma quotient_inner (g : Float → Float → Float) : Inner (quotient g args f) := by
  refine (numberArgument_inner args 0 f).bind fun x => ?_
  refine (numberArgument_inner args 1 f).bind fun y => ?_
  split
  · rfl
  · trivial

lemma joined_inner : Inner (joined args f) := by
  refine (textArgument_inner args 0 f).bind fun a => ?_
  exact (textArgument_inner args 1 f).bind fun b => trivial

lemma movedDate_inner (sign : Float) : Inner (movedDate args f sign) := by
  refine (argument_inner args 0 f).bind fun value => ?_
  split
  · refine (numberArgument_inner args 1 f).bind fun x => ?_
    split
    · trivial
    · rfl
  · rfl

lemma ordered_inner (test : Ordering → Bool) : Inner (ordered test args f) := by
  refine (argument_inner args 0 f).bind fun a => ?_
  refine (argument_inner args 1 f).bind fun b => ?_
  split
  · trivial
  · rfl

lemma combined_inner (g : Float → Float → Float) : Inner (combined g args f) := by
  refine (amountsArgument_inner args f).bind fun xs => ?_
  split
  · rfl
  · trivial

variable [PatternEngine]

lemma buildRegex_inner (pattern flags : String) : Inner (buildRegex pattern flags) := by
  unfold buildRegex
  cases PatternEngine.build pattern (flags.toList.contains 'i') with
  | error reason => rfl
  | ok regex => trivial

lemma Calculation.run_inner (op : Calculation) : Inner (op.run args) := by
  cases op with
  | add | subtract | multiply | power => exact arithmetic_inner args _ _
  | divide | remainder => exact quotient_inner args _ _
  | joinTexts | concatTexts => exact joined_inner args _
  | dateAdd | dateSubtract => exact movedDate_inner args _ _
  | greater | less | atLeast | atMost => exact ordered_inner args _ _
  | maximum | minimum => exact combined_inner args _ _
  | negate | floor | ceiling | round =>
    exact (numberArgument_inner args 0 _).bind fun _ => trivial
  | dateDifference =>
    refine (argument_inner args 0 _).bind fun a => (argument_inner args 1 _).bind fun b => ?_
    split
    · trivial
    · rfl
  | equal | unequal =>
    exact (argument_inner args 0 _).bind fun _ =>
      (argument_inner args 1 _).bind fun _ => trivial
  | like =>
    exact (textArgument_inner args 0 _).bind fun _ =>
      (textArgument_inner args 1 _).bind fun _ => trivial
  | and =>
    refine (boolArgument_inner args 0 _).bind fun a => ?_
    split
    · exact (boolArgument_inner args 1 _).bind fun _ => trivial
    · trivial
  | or =>
    refine (boolArgument_inner args 0 _).bind fun a => ?_
    split
    · trivial
    · exact (boolArgument_inner args 1 _).bind fun _ => trivial
  | not => exact (boolArgument_inner args 0 _).bind fun _ => trivial
  | matchesPattern =>
    refine (textArgument_inner args 0 _).bind fun text => ?_
    refine (textArgument_inner args 1 _).bind fun pattern => ?_
    refine (textArgument_inner args 2 _).bind fun flags => ?_
    exact (buildRegex_inner pattern flags).bind fun _ => trivial
  | arrayContains | append =>
    exact (arrayArgument_inner args 0 _).bind fun _ =>
      (argument_inner args 1 _).bind fun _ => trivial
  | concatArrays =>
    exact (arrayArgument_inner args 0 _).bind fun _ =>
      (arrayArgument_inner args 1 _).bind fun _ => trivial
  | mapContains | mapRemove =>
    exact (mapArgument_inner args 0 _).bind fun _ =>
      (argument_inner args 1 _).bind fun _ => trivial
  | arrayRemove =>
    exact (argument_inner args 1 _).bind fun _ =>
      (arrayArgument_inner args 0 _).bind fun _ => trivial
  | mapInsert =>
    refine (mapArgument_inner args 0 _).bind fun _ => ?_
    exact (argument_inner args 1 _).bind fun _ =>
      (argument_inner args 2 _).bind fun _ => trivial
  | mapLookup =>
    refine (mapArgument_inner args 0 _).bind fun entries => ?_
    refine (argument_inner args 1 _).bind fun key => ?_
    split
    · trivial
    · rfl
  | distance =>
    exact (locationArgument_inner args 0 _).bind fun _ =>
      (locationArgument_inner args 1 _).bind fun _ => trivial
  | latitude | longitude => exact (locationArgument_inner args 0 _).bind fun _ => trivial
  | makeDate =>
    refine (numberArgument_inner args 0 _).bind fun year => ?_
    refine (numberArgument_inner args 1 _).bind fun month => ?_
    refine (numberArgument_inner args 2 _).bind fun day => ?_
    dsimp only
    split
    · trivial
    · rfl
  | makeTime =>
    refine (numberArgument_inner args 0 _).bind fun hour => ?_
    refine (numberArgument_inner args 1 _).bind fun minute => ?_
    split
    · trivial
    · rfl
  | makeLocation =>
    exact (numberArgument_inner args 0 _).bind fun _ =>
      (numberArgument_inner args 1 _).bind fun _ => trivial
  | makeEmailAddress | makePhoneNumber =>
    exact (textArgument_inner args 0 _).bind fun _ => trivial
  | emptyMap => trivial
  | count =>
    refine (argument_inner args 0 _).bind fun value => ?_
    split
    · trivial
    · trivial
    · rfl
  | sum => exact (amountsArgument_inner args _).bind fun _ => trivial
  | average =>
    refine (amountsArgument_inner args _).bind fun xs => ?_
    split
    · rfl
    · trivial

end Operations

section Evaluation

variable {I : Named Value → Prop} {E : RuntimeError → Prop} (args : List Value)

open Eval

lemma Inner.ensures {α : Type} {x : Except RuntimeError α} (hx : Inner x)
    (hinner : ∀ e, RuntimeError.isOuter e = false → E e) :
    Ensures I (fun _ => True) E (Eval.ofExcept x) :=
  ensures_ofExcept (hx.mono (fun _ _ => trivial) hinner)

lemma Draw.run_ensures (hinner : ∀ e, RuntimeError.isOuter e = false → E e) (op : Draw) :
    Ensures I (fun _ => True) E (op.run args) := by
  cases op with
  | choice =>
    refine ((arrayArgument_inner args 0 _).ensures hinner).bind fun items _ => ?_
    refine ensures_draw.bind fun chance _ => ?_
    split
    · exact ensures_pure trivial
    · exact ensures_throw (hinner _ rfl)
  | random => exact ensures_draw.bind fun _ _ => ensures_pure trivial
  | now => exact ensures_draw.bind fun _ _ => ensures_pure trivial

lemma formatMeasure_inner (x : Float) (unit : String) : Inner (View.formatMeasure x unit) := by
  unfold View.formatMeasure
  split
  · trivial
  · rfl

variable {env : Env}

/-- A rendering is as good as the text of the event, if it asks for it. -/
lemma Rendering.run_ensures (hinner : ∀ e, RuntimeError.isOuter e = false → E e) (op : Rendering)
    (hevent : op = .eventText → ∀ hint, Ensures I (fun _ => True) E (env.formatEvent hint)) :
    Ensures I (fun _ => True) E (op.run env args) := by
  cases op with
  | valueText =>
    exact ((argument_inner args 0 _).ensures hinner).bind fun _ _ => ensures_pure trivial
  | eventText =>
    refine (hevent rfl _).bind fun formatted _ => ?_
    split
    · exact ensures_pure trivial
    · exact ensures_pure trivial
  | measureText =>
    refine ((numberArgument_inner args 0 _).ensures hinner).bind fun x _ => ?_
    refine ((textArgument_inner args 1 _).ensures hinner).bind fun unit _ => ?_
    exact ((formatMeasure_inner x unit).ensures hinner).bind fun _ _ => ensures_pure trivial

variable [PatternEngine]

/-- The text of an event apart, a builtin fails because of its arguments only. -/
theorem Op.run_ensures (hinner : ∀ e, RuntimeError.isOuter e = false → E e) (op : Op)
    (hevent : op.native = .rendering .eventText →
      ∀ hint, Ensures I (fun _ => True) E (env.formatEvent hint)) :
    Ensures I (fun _ => True) E (op.run env args) := by
  unfold Op.run
  cases hnative : op.native with
  | calculation op => exact (op.run_inner args).ensures hinner
  | draw op => exact op.run_ensures args hinner
  | rendering op => exact op.run_ensures args hinner fun heq => hevent (by rw [hnative, heq])

end Evaluation

end ChannelRules
