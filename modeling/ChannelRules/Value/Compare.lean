import ChannelRules.Value.Basic

/-!
# Equality and order of values

`same` is equality of structure, with numbers compared as numbers. `alike` is the equality that
programs see: entities compare by value, measures by amount, texts with entities and enumeration
entries. `compare` orders dates, times, amounts and texts; other pairs are not comparable.
-/

namespace ChannelRules

namespace Value

mutual

/-- Equality of structure. A NaN differs from itself and the two zeros are equal. -/
def same : Value → Value → Bool
  | varRef a, varRef b => a == b
  | boolean a, boolean b => a == b
  | string a, string b => a == b
  | measure a u, measure b v => a == b && u == v
  | number a, number b => a == b
  | location x y d, location x' y' d' => x == x' && y == y' && d == d'
  | date a, date b => a == b
  | time h m, time h' m' => h == h' && m == m'
  | entity v t d, entity v' t' d' => v == v' && t == t' && d == d'
  | enum a, enum b => a == b
  | object as, object bs => sameFields as bs
  | array as, array bs => sameItems as bs
  | feed a, feed b => a == b
  | _, _ => false

def sameItems : List Value → List Value → Bool
  | [], [] => true
  | a :: as, b :: bs => same a b && sameItems as bs
  | _, _ => false

def sameFields : List (String × Value) → List (String × Value) → Bool
  | [], [] => true
  | (k, a) :: as, (l, b) :: bs => k == l && same a b && sameFields as bs
  | _, _ => false

end

/-- Amounts compare as numbers; all other values by structure. -/
def sameAmount (a b : Value) : Bool :=
  match a.asNumber, b.asNumber with
  | some x, some y => x == y
  | _, _ => same a b

mutual

/-- The equality that programs see. -/
def alike : Value → Value → Bool
  | entity a _ _, entity b _ _ => a == b
  | entity a _ _, string b => a == b
  | string a, entity b _ _ => a == b
  | enum a, string b => a == b
  | string a, enum b => a == b
  | location x y _, location x' y' _ => x == x' && y == y'
  | array as, array bs => alikeItems as bs
  | a, b => sameAmount a b

def alikeItems : List Value → List Value → Bool
  | [], [] => true
  | a :: as, b :: bs => alike a b && alikeItems as bs
  | _, _ => false

end

/-- The order of two doubles; a NaN is not comparable. -/
def compareFloats (x y : Float) : Option Ordering :=
  if x < y then some .lt else if x == y then some .eq else if y < x then some .gt else none

/-- The order of two texts, by code points. -/
def compareTexts (a b : String) : Ordering :=
  if a < b then .lt else if a = b then .eq else .gt

/-- The order of two values, if they are comparable. -/
def compare : Value → Value → Option Ordering
  | date a, date b => some (a.compare b)
  | time h m, time h' m' => some ((Ord.compare h h').then (Ord.compare m m'))
  | a, b =>
    match a.asNumber, b.asNumber with
    | some x, some y => compareFloats x y
    | _, _ =>
      match a.asText, b.asText with
      | some s, some t => some (compareTexts s t)
      | _, _ => none

end Value

end ChannelRules
