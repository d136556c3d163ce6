import ChannelRules.Proofs.Builtin.Overload
import ChannelRules.Proofs.Ty.Compatible

/-!
# The signature that is chosen

The first signature whose parameters fit is chosen. Its final bindings fit all arguments, also those
that were looked at before a variable took on its final type, and all its measures without a unit
have taken on the same unit.
-/

namespace ChannelRules

namespace Overload

section Units

variable {a b : Ty} {s s' : Bindings}

theorem boundUnits_self : (a : Ty) → boundUnits a a = []
  | .measure unit => by simp [boundUnits]
  | .array elem => boundUnits_self elem
  | .map key value => by rw [boundUnits, boundUnits_self key, boundUnits_self value, List.append_nil]
  | .any | .boolean | .string | .number | .entity _ | .enum _ | .time | .date | .location | .openTuple
  | .tuple _ | .openObject | .object _ | .module | .var _ => rfl

lemma boundUnits_of_ge (h : b ≤ a) : boundUnits a b = [] := by
  induction h with
  | refl a => exact boundUnits_self a
  | measure unit => simp [boundUnits]
  | array _ ih => exact ih
  | map _ _ ihkey ihvalue => rw [boundUnits, ihkey, ihvalue, List.append_nil]
  | _ => simp [boundUnits]

/-- The units that a formal type takes on are those of the argument. -/
theorem boundUnits_unifyWith (fuel : Nat) {c : Ty} (hb : b.hasVars = false)
    (h : Ty.unifyWith fuel a b s = .ok c s') : boundUnits a c = boundUnits a b := by
  induction fuel generalizing a b c s s' with
  | zero => cases h
  | succ fuel ih =>
    have hbVar := Ty.ne_var_of_hasVars hb
    by_cases hvar : ∃ name, a = .var name
    · obtain ⟨name, rfl⟩ := hvar
      simp [boundUnits]
    rw [Ty.unifyWith_shapes fuel (fun name heq => hvar ⟨name, heq⟩) hbVar] at h
    split at h
    · rename_i heq
      cases h
      rw [heq]
    cases Ty.unifyShapes_outcome h with
    | second _ _ => rfl
    | first hle _ => rw [boundUnits_self, boundUnits_of_ge hle]
    | entries _ => rfl
    | parts haligned hzs =>
      cases haligned with
      | array x y =>
        simp only [Ty.components, Ty.unifyLists_one, state_bind_eq_ok, state_pure_eq_ok] at hzs
        obtain ⟨elem, t, helem, rfl, -⟩ := hzs
        rw [Ty.withComponents, boundUnits, boundUnits]
        exact ih hb helem
      | map k v l w =>
        rw [Ty.hasVars, Bool.or_eq_false_iff] at hb
        simp only [Ty.components, Ty.unifyLists_two, state_bind_eq_ok, state_pure_eq_ok] at hzs
        obtain ⟨key, t, hkey, value, t', hvalue, rfl, -⟩ := hzs
        rw [Ty.withComponents, boundUnits, boundUnits, ih hb.1 hkey, ih hb.2 hvalue]
      | tuple _ => simp [boundUnits]
      | object _ => simp [boundUnits]

/-- The units that the measures without a unit in formal types take on from arguments. -/
def unitsOf (formals args : List Ty) : List String := (List.zipWith boundUnits formals args).flatten

/-- All units of a list are the given one; none is given exactly if there are none. -/
def Shares (unit : Option String) (units : List String) : Prop :=
  unit = units.head? ∧ ∀ u ∈ units, some u = unit

lemma shareUnit_shares {unit unit' : Option String} {units before : List String}
    (hbefore : Shares unit before) (h : shareUnit unit units s = .ok unit' s') :
    Shares unit' (before ++ units) := by
  induction units generalizing unit before with
  | nil =>
    cases unit <;> cases h <;> rwa [List.append_nil]
  | cons found more ih =>
    have hsplit : before ++ found :: more = (before ++ [found]) ++ more := by simp
    rw [hsplit]
    cases unit with
    | none =>
      have hnil : before = [] := List.head?_eq_none_iff.1 hbefore.1.symm
      exact ih ⟨by simp [hnil], by simp [hnil]⟩ h
    | some unit =>
      rw [shareUnit] at h
      split at h
      · rename_i heq
        subst heq
        refine ih ⟨?_, ?_⟩ h
        · rw [List.head?_append, ← hbefore.1]
          rfl
        · intro u hu
          rcases List.mem_append.1 hu with hu | hu
          · exact hbefore.2 u hu
          · rw [List.mem_singleton.1 hu]
      · cases h

end Units

section Fit

variable {s s' : Bindings}

/-- Fitting arguments to formal types settles each with its argument, and takes on the units of the
arguments, which are one and the same. -/
theorem fit_settles {formals args types : List Ty} {unit unit' : Option String}
    {before : List String} (hargs : ∀ arg ∈ args, arg.hasVars = false)
    (hlength : formals.length = args.length) (hs : Ty.Closed s.types) (hunit : Shares unit before)
    (h : fit unit formals args s = .ok (types, unit') s') :
    Ty.Closed s'.types ∧ Ty.Grows s.types s'.types ∧
      List.Forall₂ (Ty.Settled s'.types) formals args ∧
      unitsOf formals types = unitsOf formals args ∧ Shares unit' (before ++ unitsOf formals args) := by
  induction formals generalizing args types unit before s with
  | nil =>
    cases args with
    | nil =>
      cases h
      exact ⟨hs, Ty.grows_refl _, .nil, rfl, by rwa [unitsOf, List.zipWith_nil_left,
        List.flatten_nil, List.append_nil]⟩
    | cons arg args => cases hlength
  | cons formal formals ih =>
    cases args with
    | nil => cases hlength
    | cons arg args =>
      rw [List.forall_mem_cons] at hargs
      simp only [fit, state_bind_eq_ok, state_pure_eq_ok, Prod.mk.injEq] at h
      obtain ⟨ty, t, hty, shared, t', hshared, ⟨others, last⟩, t'', hrest, ⟨rfl, rfl⟩, rfl⟩ := h
      have hstate := shareUnit_state hshared
      subst hstate
      obtain ⟨hclosed, hgrows, hsettled⟩ := Ty.unifyWith_settles _ hargs.1 hs hty
      have hunits := boundUnits_unifyWith _ hargs.1 hty
      rw [hunits] at hshared
      obtain ⟨hclosed', hgrows', hrestSettled, hrestUnits, hrestShared⟩ :=
        ih hargs.2 (Nat.succ.inj hlength) hclosed (shareUnit_shares hunit hshared) hrest
      refine ⟨hclosed', hgrows.trans hgrows', .cons (hsettled.mono hgrows') hrestSettled, ?_, ?_⟩
      · simp only [unitsOf, List.zipWith_cons_cons, List.flatten_cons, hunits] at hrestUnits ⊢
        rw [hrestUnits]
      · simpa only [unitsOf, List.zipWith_cons_cons, List.flatten_cons, List.append_assoc]
          using hrestShared

/-- The final bindings of a signature that fits its arguments, and the types of its use. -/
structure Fitted (overload : Overload) (formals args types : List Ty) (s : Bindings)
    (params : List Ty) (result : Ty) : Prop where
  /-- Variables are bound to types without variables. -/
  closed : Ty.Closed s.types
  /-- What a formal type stands for in the end can be brought together with its argument. -/
  compatible : List.Forall₂
    (fun formal arg => ∃ c t, Ty.unify (formal.resolve s.types) arg .empty = .ok c t) formals args
  params_eq : params = types.map (Ty.resolve s.types)
  plain : (∀ param ∈ params, param.hasVars = false) ∧ result.hasVars = false
  /-- The units that the formal types have taken on are those of the arguments. -/
  units : unitsOf formals types = unitsOf formals args
  oneUnit : ∀ u ∈ unitsOf formals args, ∀ v ∈ unitsOf formals args, u = v
  result_eq : result = withUnit (unitsOf formals args).head? (overload.result.resolve s.types)

lemma attempt_fitted {overload : Overload} {formals args params : List Ty} {result : Ty}
    (hargs : ∀ arg ∈ args, arg.hasVars = false) (hlength : formals.length = args.length)
    (h : (overload.attempt formals args).result = .ok (params, result)) :
    ∃ types unit s, fit none formals args .empty = .ok (types, unit) s ∧
      overload.Fitted formals args types s params result := by
  obtain ⟨types, unit, s, hfit, rfl, rfl⟩ := attempt_eq_ok h
  have hnone : Shares none [] := ⟨rfl, List.forall_mem_nil _⟩
  obtain ⟨hclosed, -, hsettled, hunits, hshared⟩ :=
    fit_settles hargs hlength Ty.closed_nil hnone hfit
  rw [List.nil_append] at hshared
  refine ⟨types, unit, s, hfit, ?_⟩
  constructor
  · exact hclosed
  · exact hsettled.imp fun formal arg h =>
      (h s.types hclosed (Ty.grows_refl _) Ty.resolveDepth).unify .empty
  · rfl
  · constructor
    · intro param hparam
      obtain ⟨ty, -, rfl⟩ := List.mem_map.1 hparam
      exact Ty.hasVars_resolveWith _ _ _
    · exact hasVars_withUnit (Ty.hasVars_resolveWith _ _ _)
  · exact hunits
  · intro u hu v hv
    exact Option.some.inj ((hshared.2 u hu).trans (hshared.2 v hv).symm)
  · rw [hshared.1]

end Fit

end Overload

namespace Builtin

/-- The first signature that takes so many arguments and is tried with success. -/
structure First (overloads : List Overload) (args : List Ty) (place : Nat) (overload : Overload)
    (formals : List Ty) (found : List Ty × Ty) : Prop where
  here : overloads[place]? = some overload
  takes : overload.formals? args.length = some formals
  fits : (overload.attempt formals args).result = .ok found
  /-- Earlier signatures that take so many arguments are tried without success. -/
  earlier : ∀ i < place, ∀ other formals, overloads[i]? = some other →
    other.formals? args.length = some formals → ∃ e, (other.attempt formals args).result = .error e

lemma First.cons {first overload : Overload} {more : List Overload} {args formals : List Ty}
    {place : Nat} {found : List Ty × Ty} (h : First more args place overload formals found)
    (hfirst : ∀ formals, first.formals? args.length = some formals →
      ∃ e, (first.attempt formals args).result = .error e) :
    First (first :: more) args (place + 1) overload formals found := by
  refine ⟨h.here, h.takes, h.fits, fun i hi other formals hother hformals => ?_⟩
  cases i with
  | zero =>
    cases hother
    exact hfirst formals hformals
  | succ i => exact h.earlier i (Nat.lt_of_succ_lt_succ hi) other formals hother hformals

lemma resolveFrom_first {name : String} {args : List Ty} {overloads : List Overload} {index : Nat}
    {tried : Bool} {resolution : Resolution}
    (h : (resolveFrom name args index tried overloads).result = .ok resolution) :
    ∃ place overload formals, resolution.op.overload = index + place ∧
      First overloads args place overload formals (resolution.params, resolution.result) := by
  induction overloads generalizing index tried with
  | nil => cases h
  | cons first more ih =>
    rw [resolveFrom] at h
    split at h
    · rename_i hnone
      obtain ⟨place, overload, formals, hplace, hrest⟩ := ih h
      refine ⟨place + 1, overload, formals, by omega, hrest.cons fun formals hformals => ?_⟩
      rw [hnone] at hformals
      cases hformals
    · rename_i formals hformals
      split at h
      · rename_i notices params result hattempt
        cases h
        exact ⟨0, first, formals, rfl, rfl, hformals, by rw [hattempt],
          fun i hi => absurd hi (Nat.not_lt_zero i)⟩
      · rename_i notices e hattempt
        obtain ⟨place, overload, formals', hplace, hrest⟩ := ih h
        refine ⟨place + 1, overload, formals', by omega, hrest.cons fun other hother => ?_⟩
        rw [hformals] at hother
        cases hother
        exact ⟨e, by rw [hattempt]⟩

/-- The choice of a signature is sound. It is the first signature that takes so many arguments and
fits when it is tried without bindings. The final bindings of the attempt have no variables and fit
every argument; the types of the use have no variables, and all measures without a unit have taken on
one and the same unit, which a result without a unit takes on too. -/
theorem resolve_fitted {builtin : Builtin} {args : List Ty} {resolution : Resolution}
    (hargs : ∀ arg ∈ args, arg.hasVars = false)
    (h : (builtin.resolve args).result = .ok resolution) :
    ∃ overload formals types unit s,
      First builtin.overloads args resolution.op.overload overload formals
        (resolution.params, resolution.result) ∧
      Overload.fit none formals args .empty = .ok (types, unit) s ∧
      overload.Fitted formals args types s resolution.params resolution.result := by
  obtain ⟨place, overload, formals, hplace, hfirst⟩ := resolveFrom_first h
  rw [Nat.zero_add] at hplace
  subst hplace
  obtain ⟨types, unit, s, hfit, hfitted⟩ :=
    Overload.attempt_fitted hargs (Overload.length_of_formals? hfirst.takes) hfirst.fits
  exact ⟨overload, formals, types, unit, s, hfirst, hfit, hfitted⟩

/-- Two signatures for three arguments or more. In the second, a variable stands for keys and for items
of the arguments beyond the parameters, and two parameters and the result have no unit. -/
def spread : Builtin where
  name := "spread"
  overloads :=
    [⟨[.array (.var "a"), .array (.var "a")], some .number, .number, .calculation .sum⟩,
      ⟨[.map (.var "a") (.measure ""), .array (.measure "")], some (.array (.var "a")), .measure "",
        .calculation .sum⟩]

/-- The last argument makes the keys more specific than the first one has them. -/
def spreadArgs : List Ty :=
  [.map (.enum ["on"]) (.measure "C"), .array (.measure "C"), .array (.enum ["off", "on"])]

theorem resolve_fitted_spread :
    ∃ resolution overload formals types unit s,
      (spread.resolve spreadArgs).result = .ok resolution ∧
      resolution.params = [.map (.enum ["on"]) (.measure "C"), .array (.measure "C"),
        .array (.enum ["off", "on"])] ∧
      resolution.result = .measure "C" ∧
      First spread.overloads spreadArgs 1 overload formals (resolution.params, resolution.result) ∧
      Overload.fit none formals spreadArgs .empty = .ok (types, unit) s ∧
      overload.Fitted formals spreadArgs types s resolution.params resolution.result := by
  have h : (spread.resolve spreadArgs).result = .ok
      ⟨⟨"spread", 1, .calculation .sum⟩, [.map (.enum ["on"]) (.measure "C"),
        .array (.measure "C"), .array (.enum ["off", "on"])], .measure "C"⟩ := by rfl
  obtain ⟨overload, formals, types, unit, s, hfirst, hfit, hfitted⟩ := resolve_fitted (by decide) h
  exact ⟨_, overload, formals, types, unit, s, h, rfl, rfl, hfirst, hfit, hfitted⟩

end Builtin

end ChannelRules
