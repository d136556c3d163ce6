import ChannelRules.Source.Basic

/-!
# The order of the parts of a clause

Parts are handled as they are written or in canonical order: invocations, predicates, bindings,
conditions. The canonical order keeps the order of parts of one sort. Invocations come first
because they introduce the names that the other parts use, and bindings before the conditions that
read them.
-/

namespace ChannelRules

/-- The place of a part in the canonical order. -/
def Source.Part.rank : Source.Part → Nat
  | invocation _ => 0
  | predicate _ => 1
  | binding _ _ => 2
  | condition _ => 3

/-- The order in which parts are handled. -/
inductive PartOrder where
  | source
  | canonical
  deriving DecidableEq

/-- The parts of rank 0, then those of rank 1, and so on, each in the given order. -/
def byRank {P : Type} (rank : P → Nat) (parts : List P) : List P :=
  (List.range 4).flatMap fun r => parts.filter fun part => rank part == r

/-- Parts in the order in which they are handled. -/
def PartOrder.arrange {P : Type} (order : PartOrder) (rank : P → Nat) (parts : List P) : List P :=
  match order with
  | source => parts
  | canonical => byRank rank parts

/-- Handle parts in an order, up to the first failure. -/
def PartOrder.visit {P α ε : Type} (order : PartOrder) (rank : P → Nat) (parts : List P)
    (f : P → Except ε α) : Except ε (List α) :=
  (order.arrange rank parts).mapM f

end ChannelRules
