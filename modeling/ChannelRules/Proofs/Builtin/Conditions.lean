import ChannelRules.Check.Clause
import ChannelRules.Proofs.Builtin.Overload
import ChannelRules.Proofs.Ty.Steady

/-!
# When a pattern or a container can be tested

A use of `regex` has a signature if and only if all its arguments are read as texts. A use of
`contains` has one if and only if its first argument is an array or a map and its second one agrees
with the type of the items or of the keys.
-/

namespace ChannelRules

namespace Builtin

section Tries

variable {args formals : List Ty}

/-- The parameters of a signature fit the arguments. -/
def Fits (formals args : List Ty) : Prop :=
  ∃ types unit s, Overload.fit none formals args .empty = .ok (types, unit) s

/-- A signature with a truth value as its result is chosen if its parameters fit; otherwise the ones
after it are tried. -/
lemma resolveFrom_test_iff {overload : Overload} (hresult : overload.result = .boolean)
    (hformals : overload.formals? args.length = some formals) {name : String} {index : Nat}
    {tried : Bool} {more : List Overload} {op : Op} {result : Ty} :
    (∃ params, (resolveFrom name args index tried (overload :: more)).result =
        .ok ⟨op, params, result⟩) ↔
      (Fits formals args ∧ op = ⟨name, index, overload.native⟩ ∧ result = .boolean) ∨
        (¬Fits formals args ∧ ∃ params,
          (resolveFrom name args (index + 1) true more).result = .ok ⟨op, params, result⟩) := by
  unfold Fits
  rw [resolveFrom, hformals]
  cases hfit : Overload.fit none formals args .empty with
  | ok found s =>
    obtain ⟨types, unit⟩ := found
    have hboolean : Overload.withUnit unit (Ty.resolve s.types .boolean) = .boolean := by
      cases unit <;> rfl
    simp [Overload.attempt, hfit, hresult, hboolean, eq_comm]
  | error e s => simp [Overload.attempt, hfit]

end Tries

/-- The test of a text against a pattern. -/
def regex : Builtin :=
  ⟨"regex", [⟨[.string, .string, .string], some .string, .boolean, .calculation .matchesPattern⟩]⟩

/-- A text is expected: exactly the types that are read as texts will do. -/
lemma unify_string_ok_iff {b : Ty} (hb : b.hasVars = false) (s : Bindings) :
    (∃ c t, Ty.unify .string b s = .ok c t) ↔ isTextual b = true := by
  obtain ⟨fuel, hfuel⟩ := Nat.exists_eq_succ_of_ne_zero
    (Nat.ne_zero_of_lt (Ty.size_lt_unifyFuel .string b s))
  rw [Ty.unify, hfuel, Nat.succ_eq_add_one, Ty.unifyWith_shapes fuel (Ty.ne_var_of_hasVars rfl)
    (Ty.ne_var_of_hasVars hb)]
  split
  · rename_i heq
    subst heq
    exact ⟨fun _ => rfl, fun _ => ⟨.string, s, rfl⟩⟩
  · rename_i hne
    cases b with
    | string => exact (hne rfl).elim
    | any => exact ⟨fun _ => rfl, fun _ => ⟨.string, s, rfl⟩⟩
    | entity tag => exact ⟨fun _ => rfl, fun _ => ⟨_, _, rfl⟩⟩
    | enum entries => exact ⟨fun _ => rfl, fun _ => ⟨_, _, rfl⟩⟩
    | _ =>
      constructor
      · rintro ⟨c, t, h⟩
        cases h
      · intro h
        cases h

/-- Texts fit exactly the arguments that are read as texts. -/
lemma fit_texts_ok_iff {args : List Ty} (hargs : ∀ arg ∈ args, arg.hasVars = false) (s : Bindings) :
    (∃ types unit t, Overload.fit none (List.replicate args.length .string) args s =
      .ok (types, unit) t) ↔ ∀ arg ∈ args, isTextual arg = true := by
  induction args generalizing s with
  | nil => exact ⟨fun _ => List.forall_mem_nil _, fun _ => ⟨[], none, s, rfl⟩⟩
  | cons arg args ih =>
    have hfirst := unify_string_ok_iff (hargs arg List.mem_cons_self) s
    have hrest := ih fun a ha => hargs a (List.mem_cons_of_mem _ ha)
    rw [List.forall_mem_cons, ← hfirst, List.length_cons, List.replicate_succ]
    simp only [Overload.fit, state_bind_eq_ok, state_pure_eq_ok, Prod.mk.injEq]
    constructor
    · rintro ⟨-, -, -, c, t, hc, shared, t', hshared, ⟨types, unit⟩, t'', hfit, -⟩
      cases hshared
      exact ⟨⟨c, t, hc⟩, (hrest t).1 ⟨types, unit, t'', hfit⟩⟩
    · rintro ⟨⟨c, t, hc⟩, htexts⟩
      obtain ⟨types, unit, t', hfit⟩ := (hrest t).2 htexts
      exact ⟨_, _, _, c, t, hc, none, t, rfl, (types, unit), t', hfit, ⟨rfl, rfl⟩, rfl⟩

/-- A pattern test takes texts only. -/
lemma resolve_regex_iff {a b c : Ty} (hvars : ∀ arg ∈ [a, b, c], arg.hasVars = false) {op : Op}
    {result : Ty} :
    (∃ params, (regex.resolve [a, b, c]).result = .ok ⟨op, params, result⟩) ↔
      (∀ arg ∈ [a, b, c], isTextual arg = true) ∧
        op = ⟨"regex", 0, .calculation .matchesPattern⟩ ∧ result = .boolean := by
  have hfits : Fits [.string, .string, .string] [a, b, c] ↔ _ := fit_texts_ok_iff hvars .empty
  rw [resolve, regex, resolveFrom_test_iff (by rfl) (by rfl), ← hfits]
  simp [resolveFrom]

/-- The test of a container for an element. -/
def contains : Builtin :=
  ⟨"contains", [calculation [.array item, item] .boolean .arrayContains,
    calculation [.map key entry, key] .boolean .mapContains]⟩

/-- The signature for a container of the given type. -/
def containsOp : Ty → Op
  | .array _ => ⟨"contains", 0, .calculation .arrayContains⟩
  | _ => ⟨"contains", 1, .calculation .mapContains⟩

/-- A container type of a signature and a type without variables are brought together by their
shapes. -/
lemma unify_container {formal b : Ty} (hformal : formal.hasVars = true)
    (hne : ∀ name, formal ≠ .var name) (hb : b.hasVars = false) : ∃ fuel,
      Ty.unify formal b .empty = Ty.unifyShapes (Ty.unifyWith (fuel + 1)) formal b .empty := by
  have hfuel : 2 ≤ Ty.unifyFuel formal b .empty :=
    le_trans (by omega) (Nat.le_self_pow (by decide) _)
  obtain ⟨fuel, hfuel⟩ := Nat.exists_eq_add_of_le' hfuel
  have hdiffer : formal ≠ b := by
    rintro rfl
    rw [hformal] at hb
    cases hb
  refine ⟨fuel, ?_⟩
  rw [Ty.unify, hfuel, Ty.unifyWith_shapes (fuel + 1) hne (Ty.ne_var_of_hasVars hb), if_neg hdiffer]

lemma unify_array_item {elem : Ty} (helem : elem.hasVars = false) :
    Ty.unify (.array item) (.array elem) .empty =
      .ok (.array elem) ⟨Named.insert [] "a" elem, []⟩ := by
  have harray : (Ty.array elem).hasVars = false := helem
  obtain ⟨fuel, h⟩ := unify_container (show (Ty.array item).hasVars = true from rfl) nofun harray
  rw [h, Ty.unifyShapes]
  change EStateM.bind (Ty.unifyWith (fuel + 1) (.var "a") elem) _ _ = _
  rw [EStateM.bind, Ty.unifyWith_var fuel "a" (Ty.ne_var_of_hasVars helem)]
  rfl

lemma unify_map_entry {k v : Ty} (hmap : (Ty.map k v).hasVars = false) :
    Ty.unify (.map key entry) (.map k v) .empty =
      .ok (.map k v) ⟨Named.insert (Named.insert [] "k" k) "v" v, []⟩ := by
  obtain ⟨fuel, h⟩ := unify_container (show (Ty.map key entry).hasVars = true from rfl) nofun hmap
  rw [Ty.hasVars, Bool.or_eq_false_iff] at hmap
  rw [h, Ty.unifyShapes]
  change EStateM.bind (Ty.unifyWith (fuel + 1) (.var "k") k)
    (fun key => EStateM.bind (Ty.unifyWith (fuel + 1) (.var "v") v) _) _ = _
  simp only [EStateM.bind, Ty.unifyWith_var fuel "k" (Ty.ne_var_of_hasVars hmap.1),
    Ty.unifyWith_var fuel "v" (Ty.ne_var_of_hasVars hmap.2)]
  rfl

/-- Nothing but an array is taken for an array, apart from a value of any type. -/
lemma unify_array_misfit {b : Ty} (hb : b.hasVars = false) (hany : b ≠ .any)
    (harray : ∀ elem, b ≠ .array elem) :
    ∃ e s, Ty.unify (.array item) b .empty = .error e s := by
  obtain ⟨fuel, h⟩ := unify_container (show (Ty.array item).hasVars = true from rfl) nofun hb
  rw [h]
  cases b with
  | any => exact (hany rfl).elim
  | array elem => exact (harray elem rfl).elim
  | _ => exact ⟨_, _, rfl⟩

lemma unify_map_misfit {b : Ty} (hb : b.hasVars = false) (hany : b ≠ .any)
    (hmap : ∀ k v, b ≠ .map k v) : ∃ e s, Ty.unify (.map key entry) b .empty = .error e s := by
  obtain ⟨fuel, h⟩ := unify_container (show (Ty.map key entry).hasVars = true from rfl) nofun hb
  rw [h]
  cases b with
  | any => exact (hany rfl).elim
  | map k v => exact (hmap k v rfl).elim
  | _ => exact ⟨_, _, rfl⟩

section Fits

variable {outer container bound arg c : Ty} {name : String} {s : Bindings}

lemma not_fits_of_misfit (h : ∃ e s, Ty.unify outer container .empty = .error e s) :
    ¬Fits [outer, .var name] [container, arg] := by
  obtain ⟨e, s, h⟩ := h
  rintro ⟨types, unit, t, hfit⟩
  rw [Overload.fit, state_bind_eq_ok] at hfit
  obtain ⟨ty, t', hty, -⟩ := hfit
  rw [h] at hty
  cases hty

/-- An element fits exactly if it agrees with what the container has bound. -/
lemma fits_element_iff (h : Ty.unify outer container .empty = .ok c s)
    (hunits : Overload.boundUnits outer c = []) (hget : Named.get? s.types name = some bound)
    (hbound : bound.hasVars = false) (harg : arg.hasVars = false) :
    Fits [outer, .var name] [container, arg] ↔ ∃ joined, (Ty.agree bound arg).result = .ok joined := by
  rw [← Ty.unify_bound_ok_iff hget hbound harg, Fits]
  simp only [Overload.fit, state_bind_eq_ok, state_pure_eq_ok, Prod.mk.injEq, h,
    EStateM.Result.ok.injEq]
  constructor
  · rintro ⟨types, unit, t, c', s', ⟨rfl, rfl⟩, shared, t', hshared, rest, t'', hrest, -⟩
    rw [hunits] at hshared
    cases hshared
    obtain ⟨joined, t₁, hjoined, -⟩ := hrest
    exact ⟨joined, t₁, hjoined⟩
  · rintro ⟨joined, t, hjoined⟩
    have hshared : Overload.shareUnit none (Overload.boundUnits outer c) s = .ok none s := by
      rw [hunits]
      rfl
    exact ⟨_, _, _, c, s, ⟨rfl, rfl⟩, none, s, hshared, ([joined], none), t,
      ⟨joined, t, hjoined, none, t, rfl, ([], none), t, ⟨rfl, rfl⟩, rfl, rfl⟩,
      ⟨rfl, rfl⟩, rfl⟩

lemma fits_array_iff {elem : Ty} (helem : elem.hasVars = false) (harg : arg.hasVars = false) :
    Fits [.array item, item] [.array elem, arg] ↔
      ∃ joined, (Ty.agree elem arg).result = .ok joined :=
  fits_element_iff (unify_array_item helem) (by rfl) (Named.get?_insert_self [] "a" elem) helem harg

lemma fits_map_iff {k v : Ty} (hmap : (Ty.map k v).hasVars = false) (harg : arg.hasVars = false) :
    Fits [.map key entry, key] [.map k v, arg] ↔
      ∃ joined, (Ty.agree k arg).result = .ok joined := by
  have hget : Named.get? (Named.insert (Named.insert [] "k" k) "v" v) "k" = some k := by
    rw [Named.get?_insert_of_ne _ _ (by decide), Named.get?_insert_self]
  have hvars := hmap
  rw [Ty.hasVars, Bool.or_eq_false_iff] at hvars
  exact fits_element_iff (unify_map_entry hmap) (by rfl) hget hvars.1 harg

end Fits

/-- A containment test takes an array or a map, and an element that agrees with its items or keys. -/
lemma resolve_contains_iff {container arg : Ty} (hcontainer : container.hasVars = false)
    (hany : container ≠ .any) (harg : arg.hasVars = false) {op : Op} {result : Ty} :
    (∃ params, (contains.resolve [container, arg]).result = .ok ⟨op, params, result⟩) ↔
      (∃ elem, container.element? = some elem ∧ ∃ joined, (Ty.agree elem arg).result = .ok joined) ∧
        op = containsOp container ∧ result = .boolean := by
  have harray : (∀ elem, container ≠ .array elem) → ¬Fits [.array item, item] [container, arg] :=
    fun h => not_fits_of_misfit (unify_array_misfit hcontainer hany h)
  have hmap : (∀ k v, container ≠ .map k v) → ¬Fits [.map key entry, key] [container, arg] :=
    fun h => not_fits_of_misfit (unify_map_misfit hcontainer hany h)
  simp only [resolve, contains, calculation, signature]
  rw [resolveFrom_test_iff (by rfl) (by rfl), resolveFrom_test_iff (by rfl) (by rfl)]
  cases container with
  | array elem =>
    have helem : elem.hasVars = false := hcontainer
    have hmap := hmap fun _ _ => Ty.noConfusion
    simp [fits_array_iff helem harg, hmap, resolveFrom, Ty.element?, containsOp]
  | map k v =>
    have harray := harray fun _ => Ty.noConfusion
    simp [fits_map_iff hcontainer harg, harray, resolveFrom, Ty.element?, containsOp]
  | _ =>
    have harray := harray fun _ => Ty.noConfusion
    have hmap := hmap fun _ _ => Ty.noConfusion
    simp [harray, hmap, resolveFrom, Ty.element?]

end Builtin

end ChannelRules
