import ChannelRules.Proofs.Ty.Order

/-!
# Unification does not tell its sides apart

Exchanging two types without variables changes neither what they are brought together to nor what is
noted on the way. When they cannot be brought together, only the error changes: it names its two
types in the other order.
-/

namespace ChannelRules

def TypeError.swap : TypeError → TypeError
  | cannotUnify lhs rhs => cannotUnify rhs lhs
  | circular lhs rhs => circular rhs lhs
  | unknownUnit unit => unknownUnit unit
  | invalidText text => invalidText text

namespace Ty

section Mirrors

variable {α β : Type}

/-- An outcome, with the types of an error exchanged. -/
def mirrored : EStateM.Result TypeError Bindings α → EStateM.Result TypeError Bindings α
  | .ok a s => .ok a s
  | .error e s => .error e.swap s

/-- Two computations that differ only in the order of the types that an error names. -/
def Mirrors (x y : Unify α) : Prop := ∀ s, y s = mirrored (x s)

lemma mirrors_pure (a : α) : Mirrors (pure a) (pure a) := fun _ => rfl

lemma mirrors_throw (a b : Ty) :
    Mirrors (throw (.cannotUnify a b) : Unify α) (throw (.cannotUnify b a)) := fun _ => rfl

lemma Mirrors.bind {x y : Unify α} {f g : α → Unify β} (hx : Mirrors x y)
    (hf : ∀ a, Mirrors (f a) (g a)) : Mirrors (x >>= f) (y >>= g) := by
  intro s
  change EStateM.bind y g s = mirrored (EStateM.bind x f s)
  unfold EStateM.bind
  rw [hx s]
  cases x s with
  | ok a t => exact hf a t
  | error e t => rfl

lemma mirrored_eq_ok {result : EStateM.Result TypeError Bindings α} {a : α} {s : Bindings} :
    mirrored result = .ok a s ↔ result = .ok a s := by
  cases result <;> simp [mirrored]

end Mirrors

/-- A step that treats the two types alike. -/
def Symmetric (step : Ty → Ty → Unify Ty) : Prop :=
  ∀ {a b : Ty}, a.hasVars = false → b.hasVars = false → Mirrors (step a b) (step b a)

section Symmetric

variable {step : Ty → Ty → Unify Ty}

lemma unifyLists_symmetric (hstep : Symmetric step) {xs ys : List Ty}
    (hxs : ∀ x ∈ xs, x.hasVars = false) (hys : ∀ y ∈ ys, y.hasVars = false) :
    Mirrors (unifyLists step xs ys) (unifyLists step ys xs) := by
  induction xs generalizing ys with
  | nil => cases ys <;> exact mirrors_pure _
  | cons x xs ih =>
    cases ys with
    | nil => exact mirrors_pure _
    | cons y ys =>
      have hfirst := hstep (hxs x List.mem_cons_self) (hys y List.mem_cons_self)
      have hrest := ih (fun z hz => hxs z (List.mem_cons_of_mem _ hz))
        (fun z hz => hys z (List.mem_cons_of_mem _ hz))
      exact hfirst.bind fun _ => hrest.bind fun _ => mirrors_pure _

/-- Which of two lists has all entries of the other does not depend on their order, and neither does
the sorted list of the entries that they share. -/
lemma unifyEnums_comm (xs ys : List String) : unifyEnums xs ys = unifyEnums ys xs := by
  simp only [unifyEnums, Bool.and_eq_true, all_contains_iff]
  by_cases hbelow : xs ⊆ ys
  · by_cases habove : ys ⊆ xs
    · have hset : NameSet.ofNames xs = NameSet.ofNames ys :=
        NameSet.ofNames_congr fun x => ⟨fun hx => hbelow hx, fun hx => habove hx⟩
      simp [hbelow, habove, hset]
    · simp [hbelow, habove]
  · by_cases habove : ys ⊆ xs
    · simp [hbelow, habove]
    · simp [hbelow, habove]

lemma unifyMeasures_symmetric (step : Ty → Ty → Unify Ty) (u v : String) :
    Mirrors (unifyShapes step (measure u) (measure v))
      (unifyShapes step (measure v) (measure u)) := by
  simp only [unifyShapes]
  by_cases hu : u = ""
  · by_cases hv : v = ""
    · rw [if_pos hu, if_pos hv, hu, hv]
      exact mirrors_pure _
    · rw [if_pos hu, if_neg hv, if_pos hu]
      exact mirrors_pure _
  · by_cases hv : v = ""
    · rw [if_neg hu, if_pos hv, if_pos hv]
      exact mirrors_pure _
    · rw [if_neg hu, if_neg hv, if_neg hv, if_neg hu]
      exact mirrors_throw _ _

lemma unifyShapes_symmetric (hstep : Symmetric step) : Symmetric (unifyShapes step) := by
  intro a b ha hb
  by_cases haligned : Aligned a b
  · rw [unifyShapes_aligned _ haligned, unifyShapes_aligned_symm _ haligned]
    exact (unifyLists_symmetric hstep (fun _ => hasVars_of_mem_components ha)
      fun _ => hasVars_of_mem_components hb).bind fun _ => mirrors_pure _
  -- Pairs of different constructors compute on both sides.
  cases a <;> cases b <;> try exact fun _ => rfl
  case measure.measure u v => exact unifyMeasures_symmetric step u v
  case enum.enum xs ys =>
    simp only [unifyShapes, unifyEnums_comm ys xs]
    cases unifyEnums xs ys with
    | none => exact mirrors_throw _ _
    | some entries => exact mirrors_pure _
  case array.array x y => exact absurd (.array x y) haligned
  case map.map k v l w => exact absurd (.map k v l w) haligned
  case tuple.tuple xs ys =>
    have hlength : xs.length ≠ ys.length := fun h => haligned (.tuple h)
    simp only [unifyShapes, if_neg hlength, if_neg hlength.symm]
    exact mirrors_throw _ _
  case object.object xs ys =>
    have hnames : Named.names xs ≠ Named.names ys := fun h => haligned (.object h)
    simp only [unifyShapes, if_neg hnames, if_neg hnames.symm]
    exact mirrors_throw _ _

theorem unifyWith_symmetric (fuel : Nat) : Symmetric (unifyWith fuel) := by
  induction fuel with
  | zero =>
    intro a b _ _ s
    rfl
  | succ fuel ih =>
    intro a b ha hb
    have hvarsA := ne_var_of_hasVars ha
    have hvarsB := ne_var_of_hasVars hb
    rw [unifyWith_shapes fuel hvarsA hvarsB, unifyWith_shapes fuel hvarsB hvarsA]
    by_cases hab : a = b
    · rw [if_pos hab, if_pos hab.symm, hab]
      exact mirrors_pure _
    · rw [if_neg hab, if_neg (Ne.symm hab)]
      exact unifyShapes_symmetric ih ha hb

end Symmetric

lemma unifyFuel_comm (a b : Ty) (s : Bindings) : unifyFuel b a s = unifyFuel a b s := by
  unfold unifyFuel
  rw [Nat.add_comm b.size a.size]

lemma unify_mirrors {a b : Ty} (ha : a.hasVars = false) (hb : b.hasVars = false) :
    Mirrors (unify a b) (unify b a) := by
  intro s
  have hfuel := unifyFuel_comm a b s
  unfold unify
  rw [hfuel]
  exact unifyWith_symmetric _ ha hb s

/-- Unification is symmetric on types without variables: it succeeds on one order of the types exactly
if it succeeds on the other, with the same result. More than that, from whatever bindings it starts,
the two orders leave the same bindings and notices, and fail with the same error up to its order. -/
theorem unify_comm {a b : Ty} (ha : a.hasVars = false) (hb : b.hasVars = false) :
    ((∃ c s, unify a b .empty = .ok c s) ↔ ∃ c s, unify b a .empty = .ok c s) ∧
      (∀ c d s t, unify a b .empty = .ok c s → unify b a .empty = .ok d t → c = d) ∧
      ∀ s, unify b a s = mirrored (unify a b s) := by
  have hmirrors := unify_mirrors ha hb
  have hok : ∀ c s t, unify b a s = .ok c t ↔ unify a b s = .ok c t := by
    intro c s t
    rw [hmirrors s]
    exact mirrored_eq_ok
  refine ⟨?_, fun c d s t hab hba => ?_, hmirrors⟩
  · simp only [hok]
  · rw [hok, hab] at hba
    cases hba
    rfl

/-- Fields that leave a unit and a tag open. -/
def looseFields : Ty := object [("a", enum ["b", "a"]), ("b", tuple [measure "", string])]

/-- The same fields, with entries in another order and one of them twice. -/
def exactFields : Ty :=
  object [("a", enum ["a", "b", "a"]), ("b", tuple [measure "C", entity "tt:url"])]

theorem unify_comm_fields :
    looseFields.hasVars = false ∧ exactFields.hasVars = false ∧
      ∃ c s, unify looseFields exactFields .empty = .ok c s ∧
        unify exactFields looseFields .empty = .ok c s ∧ c ≠ looseFields ∧ c ≠ exactFields := by
  have h : unify looseFields exactFields .empty =
      .ok (object [("a", enum ["a", "b"]), ("b", tuple [measure "C", entity "tt:url"])])
        ⟨[], [.stringFor (entity "tt:url")]⟩ := by rfl
  have hloose : looseFields.hasVars = false := by decide
  have hexact : exactFields.hasVars = false := by decide
  have hswapped := (unify_comm hloose hexact).2.2 .empty
  rw [h] at hswapped
  exact ⟨hloose, hexact, _, _, h, hswapped, by decide, by decide⟩

end Ty

end ChannelRules
