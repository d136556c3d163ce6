/-!
# Chains of branching steps

A step leads from a state to any number of states, each of which may be a failure instead. On the
way it may read and write a world that all steps share. A chain of steps is walked depth first by a
cursor, which gives one result at a time and can be left after any of them. The cursor keeps a stack
of levels; a level holds the ways on that have not been tried and the steps that come after them.

`results` says what the chain as a whole leads to, without a cursor.
-/

namespace ChannelRules

namespace Chain

variable {σ ε α : Type}

/-- A step: the ways on from a state, found in a world. -/
abbrev Branching (σ ε α : Type) := α → StateM σ (List (Except ε α))

/-- Follow ways on, one after the other. A failure is a result, and does not end the others. -/
def followAll (follow : α → StateM σ (List (Except ε α))) :
    List (Except ε α) → StateM σ (List (Except ε α))
  | [] => return []
  | .error e :: ways => do
    let others ← followAll follow ways
    return .error e :: others
  | .ok a :: ways => do
    let found ← follow a
    let others ← followAll follow ways
    return found ++ others

/-- All results of a chain of steps. -/
def results : List (Branching σ ε α) → α → StateM σ (List (Except ε α))
  | [], a => return [.ok a]
  | step :: steps, a => do followAll (results steps) (← step a)

/-- The ways on that have not been tried, and the steps after them. -/
structure Level (σ ε α : Type) where
  steps : List (Branching σ ε α)
  ways : List (Except ε α)

/-- A cursor: its levels, the deepest first. -/
abbrev Cursor (σ ε α : Type) := List (Level σ ε α)

/-- A result and the cursor after it, if there is one. -/
abbrev Found (σ ε α : Type) := Option (Except ε α × Cursor σ ε α)

namespace Cursor

/-- Search a level for a result: the levels below it, and how to go on if it has none. -/
def explore : List (Branching σ ε α) → List (Except ε α) → Cursor σ ε α →
    StateM σ (Found σ ε α) → StateM σ (Found σ ε α)
  | _, [], _, otherwise => otherwise
  | steps, .error e :: ways, below, _ => return some (.error e, ⟨steps, ways⟩ :: below)
  | [], .ok a :: ways, below, _ => return some (.ok a, ⟨[], ways⟩ :: below)
  | step :: steps, .ok a :: ways, below, otherwise => do
    let deeper ← step a
    explore steps deeper (⟨step :: steps, ways⟩ :: below)
      (explore (step :: steps) ways below otherwise)
termination_by steps ways => (steps.length, ways.length)

/-- The next result, and the cursor after it. -/
def next : Cursor σ ε α → StateM σ (Found σ ε α)
  | [] => return none
  | ⟨steps, ways⟩ :: levels => explore steps ways levels (next levels)

/-- The results that are left: those of the ways on, level by level. -/
def left : Cursor σ ε α → StateM σ (List (Except ε α))
  | [] => return []
  | ⟨steps, ways⟩ :: levels => do
    let found ← followAll (results steps) ways
    let others ← left levels
    return found ++ others

/-- The results that are left, one of which may have been taken. -/
def regained : Found σ ε α → StateM σ (List (Except ε α))
  | none => return []
  | some (result, rest) => do
    let others ← left rest
    return result :: others

theorem left_explore {otherwise : StateM σ (Found σ ε α)} {below : Cursor σ ε α}
    (h : left below = otherwise >>= regained) (steps : List (Branching σ ε α))
    (ways : List (Except ε α)) :
    left (⟨steps, ways⟩ :: below) = explore steps ways below otherwise >>= regained := by
  fun_induction explore steps ways below otherwise with
  | case1 steps below otherwise => simpa [left, followAll] using h
  | case2 steps e ways below otherwise => simp [left, followAll, regained]
  | case3 a ways below otherwise => simp [left, followAll, results, regained]
  | case4 step steps a ways below otherwise ihlater ihdeeper =>
    simp only [bind_assoc, ← ihdeeper _ (ihlater h)]
    simp [left, followAll, results, -bind_pure_comp]

/-- The next result is the first that is left. -/
theorem left_eq_next (cursor : Cursor σ ε α) : left cursor = next cursor >>= regained := by
  induction cursor with
  | nil => simp [left, next, regained]
  | cons level levels ih => exact left_explore ih level.steps level.ways

/-- All results that are left, taken one after the other. -/
def toList (cursor : Cursor σ ε α) (world : σ) : List (Except ε α) × σ :=
  match _h : cursor.next world with
  | (none, world) => ([], world)
  | (some (result, rest), world) =>
    let (others, world) := toList rest world
    (result :: others, world)
termination_by (cursor.left world).1.length
decreasing_by
  rw [left_eq_next cursor]
  simp only [bind, StateT.bind, _h]
  exact Nat.lt_succ_self _

/-- The first result, if there is one; a failure is passed on. -/
def first (cursor : Cursor σ ε α) : StateM σ (Except ε (Option α)) := do
  let found ← cursor.next
  return (found.map Prod.fst).sequence

end Cursor

def start (steps : List (Branching σ ε α)) (a : α) : Cursor σ ε α := [⟨steps, [.ok a]⟩]

end Chain

end ChannelRules
