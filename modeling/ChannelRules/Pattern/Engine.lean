/-!
# Pattern engines

Patterns are read and searched for by an engine. The language asks it two things of a pattern that
it has read: whether a text holds a match, and what the groups of the first match are.
-/

namespace ChannelRules

/-- A pattern that an engine has read. -/
structure Regex where
  isMatch : String → Bool
  /-- The texts of the groups in the first match, if there is one. A group that took no part in the
  match has no text. -/
  captures? : String → Option (Nat → Option String)

/-- What reads patterns, with or without regard to case; it may give a reason why it cannot. -/
class PatternEngine where
  build : (pattern : String) → (ignoreCase : Bool) → Except String Regex

/-- A text holds a match exactly if there is a first match to take groups from. -/
def PatternEngine.Lawful [PatternEngine] : Prop :=
  ∀ pattern ignoreCase regex, build pattern ignoreCase = .ok regex →
    ∀ text, regex.isMatch text = (regex.captures? text).isSome

end ChannelRules
