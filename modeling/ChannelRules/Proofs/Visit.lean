import ChannelRules.Proofs.Chain

/-!
# Handling results as they come

A cursor is mostly used in a loop that handles each result before it asks for the next one. What is
done with a result may change the world, and the steps that lead to the next result run in the
changed world. Chains that do the same cannot be told apart by such a loop either.
-/

namespace ChannelRules

namespace Chain

variable {σ ε α : Type} {m : Type → Type} [Monad m] [MonadLiftT (StateM σ) m]

/-- Handle what ways on lead to, one result after the other. -/
def visit (handle : Except ε α → m PUnit) : List (Branching σ ε α) → List (Except ε α) → m PUnit
  | _, [] => return ⟨⟩
  | steps, .error e :: ways => do
    handle (.error e)
    visit handle steps ways
  | [], .ok a :: ways => do
    handle (.ok a)
    visit handle [] ways
  | step :: steps, .ok a :: ways => do
    let deeper ← liftM (step a)
    visit handle steps deeper
    visit handle (step :: steps) ways
termination_by steps ways => (steps.length, ways.length)

namespace Cursor

/-- Handle the results that are left, level by level. This is the loop that asks for one result
after the other (`visit_eq_next`). -/
def visit (handle : Except ε α → m PUnit) : Cursor σ ε α → m PUnit
  | [] => return ⟨⟩
  | ⟨steps, ways⟩ :: levels => do
    Chain.visit handle steps ways
    visit handle levels

lemma visit_start [LawfulMonad m] (handle : Except ε α → m PUnit) (steps : List (Branching σ ε α))
    (a : α) : visit handle (start steps a) = Chain.visit handle steps [.ok a] := by
  simp [start, visit]

/-- Handle the result that has been found, and those that are left after it. -/
def visitFound (handle : Except ε α → m PUnit) : Found σ ε α → m PUnit
  | none => return ⟨⟩
  | some (result, rest) => do
    handle result
    visit handle rest

section Loop

variable [LawfulMonad m] [LawfulMonadLiftT (StateM σ) m] {handle : Except ε α → m PUnit}

theorem visit_explore {otherwise : StateM σ (Found σ ε α)} {below : Cursor σ ε α}
    (h : visit handle below = liftM otherwise >>= visitFound handle)
    (steps : List (Branching σ ε α)) (ways : List (Except ε α)) :
    visit handle (⟨steps, ways⟩ :: below) =
      liftM (explore steps ways below otherwise) >>= visitFound handle := by
  fun_induction explore steps ways below otherwise with
  | case1 steps below otherwise => simpa [visit, Chain.visit] using h
  | case2 steps e ways below otherwise => simp [visit, Chain.visit, visitFound, liftM_pure]
  | case3 a ways below otherwise => simp [visit, Chain.visit, visitFound, liftM_pure]
  | case4 step steps a ways below otherwise ihlater ihdeeper =>
    simp only [liftM_bind, bind_assoc, ← ihdeeper _ (ihlater h)]
    simp [visit, Chain.visit]

/-- To handle all results is to handle the next one and then those that are left. -/
theorem visit_eq_next (cursor : Cursor σ ε α) :
    visit handle cursor = liftM cursor.next >>= visitFound handle := by
  induction cursor with
  | nil => simp [visit, next, visitFound, liftM_pure]
  | cons level levels ih => exact visit_explore ih level.steps level.ways

end Loop

end Cursor

/-- What follows a computation in the world need only be known for the results that it can have. -/
lemma lift_bind_congr [LawfulMonad m] [LawfulMonadLiftT (StateM σ) m] {β γ : Type} {x : StateM σ β}
    {f g : β → m γ} (h : ∀ s, f (x s).1 = g (x s).1) : liftM x >>= f = liftM x >>= g := by
  -- Each result is taken along with a world in which it is the result.
  let kept : StateM σ {b : β // ∃ s, (x s).1 = b} := fun s => (⟨(x s).1, s, rfl⟩, (x s).2)
  have hkept : x = Subtype.val <$> kept := rfl
  rw [hkept, liftM_map, bind_map_left, bind_map_left]
  refine bind_congr fun ⟨b, s, hb⟩ => ?_
  subst hb
  exact h s

/-- Chains that do the same are handled in the same way. -/
lemma Alike.visit_eq [LawfulMonad m] [LawfulMonadLiftT (StateM σ) m] {P Q : α → Prop}
    {steps steps' : List (Branching σ ε α)} (h : Alike P Q steps steps')
    {f g : Except ε α → m PUnit} (hfg : ∀ way, (∀ a, way = .ok a → Q a) → f way = g way)
    {ways : List (Except ε α)} (hways : ∀ a, .ok a ∈ ways → P a) :
    visit f steps ways = visit g steps' ways := by
  induction h generalizing ways with
  | nil =>
    induction ways with
    | nil => rw [visit, visit]
    | cons way ways ihways =>
      have hlater := ihways fun a ha => hways a (List.mem_cons_of_mem _ ha)
      cases way with
      | error e => rw [visit, visit, hlater, hfg (.error e) nofun]
      | ok a =>
        have ha := hways a List.mem_cons_self
        rw [visit, visit, hlater, hfg (.ok a) (by rintro _ ⟨⟩; exact ha)]
  | cons hstep hnext _ ih =>
    induction ways with
    | nil => rw [visit, visit]
    | cons way ways ihways =>
      have hlater := ihways fun a ha => hways a (List.mem_cons_of_mem _ ha)
      cases way with
      | error e => rw [visit, visit, hlater, hfg (.error e) nofun]
      | ok a =>
        have ha := hways a List.mem_cons_self
        rw [visit, visit, hlater, hstep a ha]
        exact lift_bind_congr fun s => by rw [ih hfg fun b hb => hnext a s b ha hb]

/-- What a way on leads to: a failure to itself, and a state to what its steps lead to, one after the
other. Between two steps the world can change. -/
inductive Leads : List (Branching σ ε α) → Except ε α → Except ε α → Prop
  | fails (steps : List (Branching σ ε α)) (e : ε) : Leads steps (.error e) (.error e)
  | done (a : α) : Leads [] (.ok a) (.ok a)
  | next {step : Branching σ ε α} {steps : List (Branching σ ε α)} {a : α}
    {way result : Except ε α} (s : σ) (h : way ∈ (step a s).1) (hrest : Leads steps way result) :
    Leads (step :: steps) (.ok a) result

/-- A chain that is safe in every world leads to what is as good as its results. -/
lemma Safe.leads {E : ε → Prop} {P Q : α → Prop} {steps : List (Branching σ ε α)}
    (h : Safe (fun _ : σ => True) E P Q steps) {way result : Except ε α} (hway : Gives P E way)
    (hleads : Leads steps way result) : Gives Q E result := by
  induction h generalizing way with
  | nil => cases hleads <;> exact hway
  | cons hstep _ ih =>
    cases hleads with
    | fails => exact hway
    | next s hnext hrest => exact ih ((hstep _ s hway trivial).2 _ hnext) hrest

end Chain

end ChannelRules
