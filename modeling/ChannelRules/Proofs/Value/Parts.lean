import ChannelRules.Value.Basic
import Mathlib.Tactic.Common

/-!
# Parts of a value

Arrays and objects are composite; all other values are single. A test of single values is carried
over to composite ones: it may hold of some single value inside a value, or of some single value
inside an object that is found there.
-/

namespace ChannelRules

namespace Value

variable {p : Value → Bool}

mutual

/-- Whether a test holds of some single value inside a value. -/
def holds (p : Value → Bool) : Value → Bool
  | array items => holdsItems p items
  | object fields => holdsFields p fields
  | v => p v

def holdsItems (p : Value → Bool) : List Value → Bool
  | [] => false
  | item :: rest => holds p item || holdsItems p rest

def holdsFields (p : Value → Bool) : List (String × Value) → Bool
  | [] => false
  | (_, value) :: rest => holds p value || holdsFields p rest

end

mutual

/-- Whether a test holds of some single value inside an object of a value. -/
def hides (p : Value → Bool) : Value → Bool
  | object fields => holdsFields p fields
  | array items => hidesItems p items
  | _ => false

def hidesItems (p : Value → Bool) : List Value → Bool
  | [] => false
  | item :: rest => hides p item || hidesItems p rest

end

lemma holdsItems_cons_eq_false {item : Value} {rest : List Value} :
    holdsItems p (item :: rest) = false ↔ item.holds p = false ∧ holdsItems p rest = false :=
  Bool.or_eq_false_iff

lemma holdsFields_cons_eq_false {name : String} {value : Value} {rest : List (String × Value)} :
    holdsFields p ((name, value) :: rest) = false ↔
      value.holds p = false ∧ holdsFields p rest = false :=
  Bool.or_eq_false_iff

lemma hidesItems_cons_eq_false {item : Value} {rest : List Value} :
    hidesItems p (item :: rest) = false ↔ item.hides p = false ∧ hidesItems p rest = false :=
  Bool.or_eq_false_iff

lemma holdsItems_eq_false {items : List Value} :
    holdsItems p items = false ↔ ∀ item ∈ items, item.holds p = false := by
  induction items with
  | nil => simp [holdsItems]
  | cons item rest ih =>
    rw [holdsItems_cons_eq_false, ih, List.forall_mem_cons]

lemma holdsFields_eq_false {fields : List (String × Value)} :
    holdsFields p fields = false ↔ ∀ field ∈ fields, field.2.holds p = false := by
  induction fields with
  | nil => simp [holdsFields]
  | cons field rest ih =>
    rw [holdsFields_cons_eq_false, ih, List.forall_mem_cons]

lemma hidesItems_eq_false {items : List Value} :
    hidesItems p items = false ↔ ∀ item ∈ items, item.hides p = false := by
  induction items with
  | nil => simp [hidesItems]
  | cons item rest ih =>
    rw [hidesItems_cons_eq_false, ih, List.forall_mem_cons]

end Value

end ChannelRules
