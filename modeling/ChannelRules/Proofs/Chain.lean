import ChannelRules.Chain
import ChannelRules.Proofs.Sequence

/-!
# What a cursor gives

The results that are left of a cursor are those of the ways on in its levels, the deepest level
first. Taking a result leaves the others, so the cursor at the start of a chain gives the results of
the chain. Steps read and write the world in the order in which the cursor comes to them, which is
the order in which the chain does.
-/

namespace ChannelRules

namespace Chain

variable {σ ε α : Type}

lemma followAll_congr {follow follow' : α → StateM σ (List (Except ε α))} {ways : List (Except ε α)}
    (h : ∀ a, .ok a ∈ ways → follow a = follow' a) :
    followAll follow ways = followAll follow' ways := by
  induction ways with
  | nil => rfl
  | cons way ways ih =>
    have hrest := ih fun a ha => h a (List.mem_cons_of_mem _ ha)
    cases way with
    | error e => rw [followAll, followAll, hrest]
    | ok a => rw [followAll, followAll, h a List.mem_cons_self, hrest]

/-- A state that is found is one that a way on is followed to, in a world that the ways before it
have left. -/
lemma ok_mem_followAll {I : σ → Prop} {follow : α → StateM σ (List (Except ε α))}
    {ways : List (Except ε α)} (hkeep : ∀ a, .ok a ∈ ways → ∀ s, I s → I (follow a s).2) {s : σ}
    (hs : I s) {b : α} (h : .ok b ∈ (followAll follow ways s).1) :
    ∃ a t, .ok a ∈ ways ∧ I t ∧ .ok b ∈ (follow a t).1 := by
  induction ways generalizing s with
  | nil => cases h
  | cons way ways ih =>
    have hlater := fun s (hs : I s) h =>
      ih (fun a ha => hkeep a (List.mem_cons_of_mem _ ha)) (s := s) hs h
    cases way with
    | error e =>
      rcases List.mem_cons.1 h with h | h
      · cases h
      · obtain ⟨a, t, ha, hfound⟩ := hlater s hs h
        exact ⟨a, t, List.mem_cons_of_mem _ ha, hfound⟩
    | ok a =>
      rcases List.mem_append.1 h with h | h
      · exact ⟨a, s, List.mem_cons_self, hs, h⟩
      · obtain ⟨c, t, hc, hfound⟩ := hlater _ (hkeep a List.mem_cons_self s hs) h
        exact ⟨c, t, List.mem_cons_of_mem _ hc, hfound⟩

namespace Cursor

lemma toList_eq_left (cursor : Cursor σ ε α) (s : σ) : cursor.toList s = cursor.left s := by
  fun_induction toList cursor s with
  | case1 cursor s t hnext =>
    rw [left_eq_next, state_bind, hnext]
    rfl
  | case2 cursor s result rest t hnext others u hrest ih =>
    rw [left_eq_next, state_bind, hnext]
    change _ = (result :: (rest.left t).1, (rest.left t).2)
    rw [← ih, hrest]

lemma left_start (steps : List (Branching σ ε α)) (a : α) : (start steps a).left = results steps a := by
  simp [start, left, followAll]

/-- The next result is the first of those that are left. -/
lemma next_eq_head (cursor : Cursor σ ε α) (s : σ) :
    (cursor.next s).1.map Prod.fst = (cursor.left s).1.head? := by
  rw [left_eq_next, state_bind]
  rcases cursor.next s with ⟨_ | ⟨result, rest⟩, t⟩ <;> rfl

end Cursor

/-- A cursor gives all results of a chain, in their order. -/
lemma toList_start (steps : List (Branching σ ε α)) (a : α) :
    (start steps a).toList = results steps a := by
  funext s
  rw [Cursor.toList_eq_left, Cursor.left_start]

/-- The first result of a cursor is the first result of the chain. -/
lemma next_start (steps : List (Branching σ ε α)) (a : α) (s : σ) :
    ((start steps a).next s).1.map Prod.fst = (results steps a s).1.head? := by
  rw [Cursor.next_eq_head, Cursor.left_start]

def firstAmong (follow : α → StateM σ (Option (Except ε α))) :
    List (Except ε α) → StateM σ (Option (Except ε α))
  | [] => return none
  | .error e :: _ => return some (.error e)
  | .ok a :: ways => do
    let found ← follow a
    found.elim (firstAmong follow ways) fun result => return some result

/-- The first result of a chain. Steps are run only as far as it takes to find it. -/
def firstResult : List (Branching σ ε α) → α → StateM σ (Option (Except ε α))
  | [], a => return some (.ok a)
  | step :: steps, a => do firstAmong (firstResult steps) (← step a)

namespace Cursor

lemma explore_eq_firstAmong (steps : List (Branching σ ε α)) (ways : List (Except ε α))
    (below : Cursor σ ε α) (otherwise : StateM σ (Found σ ε α)) :
    Option.map Prod.fst <$> explore steps ways below otherwise =
      firstAmong (firstResult steps) ways >>= fun found =>
        found.elim (Option.map Prod.fst <$> otherwise) fun result => return some result := by
  fun_induction explore steps ways below otherwise with
  | case1 steps below otherwise => simp [firstAmong]
  | case2 steps e ways below otherwise => simp [firstAmong]
  | case3 a ways below otherwise => simp [firstAmong, firstResult]
  | case4 step steps a ways below otherwise ihlater ihdeeper =>
    rw [map_bind, firstAmong, firstResult, bind_assoc, bind_assoc]
    congr 1
    funext deeper
    rw [ihdeeper, ihlater]
    congr 1
    funext found
    cases found with
    | none => rfl
    | some result => rfl

lemma next_eq_firstResult (steps : List (Branching σ ε α)) (a : α) :
    Option.map Prod.fst <$> (start steps a).next = firstResult steps a := by
  rw [start, next, explore_eq_firstAmong, firstAmong]
  funext s
  rw [state_bind, state_bind]
  rcases firstResult steps a s with ⟨_ | result, t⟩ <;> rfl

end Cursor

/-- Chains of steps that do the same, from states with one property to states with another. -/
inductive Alike : (P Q : α → Prop) → (steps steps' : List (Branching σ ε α)) → Prop
  | nil {P : α → Prop} : Alike P P [] []
  | cons {P Q R : α → Prop} {step step' : Branching σ ε α} {steps steps' : List (Branching σ ε α)}
    (hstep : ∀ a, P a → step a = step' a)
    (hnext : ∀ a s b, P a → .ok b ∈ (step' a s).1 → R b) (hrest : Alike R Q steps steps') :
    Alike P Q (step :: steps) (step' :: steps')

namespace Alike

variable {P Q : α → Prop} {steps steps' : List (Branching σ ε α)} {a : α}

lemma results_eq (h : Alike P Q steps steps') (ha : P a) : results steps a = results steps' a := by
  induction h generalizing a with
  | nil => rfl
  | cons hstep hnext _ ih =>
    funext s
    rw [results, results, state_bind, state_bind, hstep a ha,
      followAll_congr fun b hb => ih (hnext a s b ha hb)]

lemma firstResult_eq (h : Alike P Q steps steps') (ha : P a) :
    firstResult steps a = firstResult steps' a := by
  induction h generalizing a with
  | nil => rfl
  | @cons P Q R step step' steps steps' hstep hnext _ ih =>
    have hamong : ∀ ways : List (Except ε α), (∀ b, .ok b ∈ ways → R b) →
        firstAmong (firstResult steps) ways = firstAmong (firstResult steps') ways := by
      intro ways hways
      induction ways with
      | nil => rfl
      | cons way ways ihways =>
        cases way with
        | error e => rfl
        | ok b =>
          rw [firstAmong, firstAmong, ih (hways b List.mem_cons_self),
            ihways fun c hc => hways c (List.mem_cons_of_mem _ hc)]
    funext s
    rw [firstResult, firstResult, state_bind, state_bind, hstep a ha,
      hamong _ fun b hb => hnext a s b ha hb]

/-- What comes out of the second chain has the property. -/
lemma mem_results (h : Alike P Q steps steps') (ha : P a) {s : σ} {b : α}
    (hb : .ok b ∈ (results steps' a s).1) : Q b := by
  induction h generalizing a s with
  | nil =>
    cases List.mem_singleton.1 hb
    exact ha
  | cons hstep hnext _ ih =>
    rw [results, state_bind] at hb
    obtain ⟨c, t, hc, -, hb⟩ := ok_mem_followAll (I := fun _ => True) (fun _ _ _ _ => trivial) trivial hb
    exact ih (hnext a s c ha hc) hb

end Alike

/-- A chain that keeps a property of the world. In such a world its steps lead from states with one
property to states with another, or fail as given. -/
inductive Safe (I : σ → Prop) (E : ε → Prop) :
    (P Q : α → Prop) → (steps : List (Branching σ ε α)) → Prop
  | nil {P : α → Prop} : Safe I E P P []
  | cons {P Q R : α → Prop} {step : Branching σ ε α} {steps : List (Branching σ ε α)}
    (hstep : ∀ a s, P a → I s → I (step a s).2 ∧ ∀ way ∈ (step a s).1, Gives R E way)
    (hrest : Safe I E R Q steps) : Safe I E P Q (step :: steps)

namespace Safe

variable {I : σ → Prop} {E : ε → Prop} {P Q : α → Prop} {steps : List (Branching σ ε α)} {a : α}
  {s : σ}

lemma results (h : Safe I E P Q steps) (ha : P a) (hs : I s) :
    I (Chain.results steps a s).2 ∧ ∀ way ∈ (Chain.results steps a s).1, Gives Q E way := by
  induction h generalizing a s with
  | nil => exact ⟨hs, List.forall_mem_singleton.2 ha⟩
  | @cons P Q R step steps hstep _ ih =>
    have hall : ∀ ways : List (Except ε α), (∀ way ∈ ways, Gives R E way) → ∀ s, I s →
        I (followAll (Chain.results steps) ways s).2 ∧
          ∀ way ∈ (followAll (Chain.results steps) ways s).1, Gives Q E way := by
      intro ways hways
      induction ways with
      | nil => exact fun s hs => ⟨hs, List.forall_mem_nil _⟩
      | cons way ways ihways =>
        intro s hs
        rw [List.forall_mem_cons] at hways
        cases way with
        | error e =>
          obtain ⟨hkept, hothers⟩ := ihways hways.2 s hs
          exact ⟨hkept, List.forall_mem_cons.2 ⟨hways.1, hothers⟩⟩
        | ok b =>
          obtain ⟨hkept, hfound⟩ := ih hways.1 hs
          obtain ⟨hkept, hothers⟩ := ihways hways.2 _ hkept
          exact ⟨hkept, List.forall_mem_append.2 ⟨hfound, hothers⟩⟩
    obtain ⟨hkept, hways⟩ := hstep a s ha hs
    exact hall _ hways _ hkept

lemma firstResult (h : Safe I E P Q steps) (ha : P a) (hs : I s) :
    I (Chain.firstResult steps a s).2 := by
  induction h generalizing a s with
  | nil => exact hs
  | @cons P Q R step steps hstep _ ih =>
    have hamong : ∀ ways : List (Except ε α), (∀ way ∈ ways, Gives R E way) → ∀ s, I s →
        I (firstAmong (Chain.firstResult steps) ways s).2 := by
      intro ways hways
      induction ways with
      | nil => exact fun s hs => hs
      | cons way ways ihways =>
        intro s hs
        rw [List.forall_mem_cons] at hways
        cases way with
        | error e => exact hs
        | ok b =>
          have hkept := ih hways.1 hs
          rw [firstAmong, state_bind]
          rcases hfound : Chain.firstResult steps b s with ⟨_ | result, t⟩
          · rw [hfound] at hkept
            exact ihways hways.2 t hkept
          · rw [hfound] at hkept
            exact hkept
    obtain ⟨hkept, hways⟩ := hstep a s ha hs
    exact hamong _ hways _ hkept

end Safe

namespace Cursor

/-- The cursor after some results have been taken. -/
def after : Nat → Cursor σ ε α → StateM σ (Cursor σ ε α)
  | 0, cursor => return cursor
  | n + 1, cursor => do
    match (← cursor.next) with
    | none => return []
    | some (_, rest) => after n rest

lemma left_after (n : Nat) (cursor : Cursor σ ε α) (s : σ) :
    ((after n cursor >>= left) s).1 = (cursor.left s).1.drop n := by
  induction n generalizing cursor s with
  | zero => rfl
  | succ n ih =>
    rw [after, left_eq_next cursor, state_bind, state_bind, state_bind]
    rcases cursor.next s with ⟨_ | ⟨result, rest⟩, t⟩
    · rfl
    · exact ih rest t

/-- What is taken after some results is the result at that place. -/
lemma next_after (n : Nat) (cursor : Cursor σ ε α) (s : σ) :
    ((after n cursor >>= next) s).1.map Prod.fst = (cursor.left s).1[n]? := by
  rw [state_bind, next_eq_head, ← List.head?_drop, ← left_after]
  rfl

/-- One move: the result that it gives, if it gives one, and the cursor after it. A cursor without
levels makes no move. -/
def move : Cursor σ ε α → StateM σ (Option (Option (Except ε α) × Cursor σ ε α))
  | [] => return none
  | ⟨_, []⟩ :: levels => return some (none, levels)
  | ⟨steps, .error e :: ways⟩ :: levels => return some (some (.error e), ⟨steps, ways⟩ :: levels)
  | ⟨[], .ok a :: ways⟩ :: levels => return some (some (.ok a), ⟨[], ways⟩ :: levels)
  | ⟨step :: steps, .ok a :: ways⟩ :: levels => do
    let deeper ← step a
    return some (none, ⟨steps, deeper⟩ :: ⟨step :: steps, ways⟩ :: levels)

/-- Some moves, one after the other: the results that they give, and the cursor after them. -/
def walk : Nat → Cursor σ ε α → StateM σ (List (Except ε α) × Cursor σ ε α)
  | 0, cursor => return ([], cursor)
  | n + 1, cursor => do
    match (← cursor.move) with
    | none => return ([], cursor)
    | some (given, rest) =>
      let (found, rest) ← walk n rest
      return (given.toList ++ found, rest)

/-- Some moves take a cursor to another one and a world to another one, giving results on the way. -/
def Walks (cursor : Cursor σ ε α) (s : σ) (found : List (Except ε α)) (rest : Cursor σ ε α) (t : σ) :
    Prop :=
  ∃ n, walk n cursor s = ((found, rest), t)

section Walks

variable {rest : Cursor σ ε α} {s t : σ} {found : List (Except ε α)}

lemma Walks.move {cursor next : Cursor σ ε α} {u : σ} (given : Option (Except ε α))
    (hmove : cursor.move s = (some (given, next), u)) (h : Walks next u found rest t) :
    Walks cursor s (given.toList ++ found) rest t := by
  obtain ⟨n, hn⟩ := h
  refine ⟨n + 1, ?_⟩
  rw [walk, state_bind, hmove]
  change ((_ ++ (walk n next u).1.1, (walk n next u).1.2), (walk n next u).2) = _
  rw [hn]

/-- The moves through a level give the results of its ways on; then come the levels below. -/
lemma walks_level (steps : List (Branching σ ε α)) (ways : List (Except ε α))
    {levels : Cursor σ ε α} (h : Walks levels (followAll (results steps) ways s).2 found rest t) :
    Walks (⟨steps, ways⟩ :: levels) s ((followAll (results steps) ways s).1 ++ found) rest t := by
  induction steps generalizing ways levels s found with
  | nil =>
    induction ways generalizing s with
    | nil => exact Walks.move none rfl h
    | cons way ways ih =>
      cases way with
      | error e => exact Walks.move (some (.error e)) rfl (ih h)
      | ok a => exact Walks.move (some (.ok a)) rfl (ih h)
  | cons step steps ihsteps =>
    induction ways generalizing s with
    | nil => exact Walks.move none rfl h
    | cons way ways ih =>
      cases way with
      | error e => exact Walks.move (some (.error e)) rfl (ih h)
      | ok a =>
        -- The level that the step opens is walked through first.
        have hdeeper := ihsteps (s := (step a s).2) (step a s).1 (ih h)
        rw [← List.append_assoc] at hdeeper
        exact Walks.move none rfl hdeeper

/-- After finitely many moves all results that are left have been given, and no level is left. -/
lemma walks_left (cursor : Cursor σ ε α) (s : σ) :
    Walks cursor s (cursor.left s).1 [] (cursor.left s).2 := by
  induction cursor generalizing s with
  | nil => exact ⟨0, rfl⟩
  | cons level levels ih => exact walks_level level.steps level.ways (ih _)

end Walks

end Cursor

end Chain

end ChannelRules
