import ChannelRules.Proofs.Builtin.Sound

namespace ChannelRules

namespace Builtin

open Eval (ensures_pure ensures_ofExcept ensures_throw)

/-- Unification can bind the parameters of every signature. -/
lemma all_proper : ∀ builtin ∈ binaryOperators ++ unaryOperators ++ functions,
    ∀ overload ∈ builtin.overloads, overload.Proper := by
  decide

variable [PatternEngine]

lemma dateDifference_sound : (calculation [.date, .date] duration .dateDifference).Sound := by
  refine sound_binary rfl rfl fun _ vars a b ha hb => ensures_ofExcept ?_
  obtain ⟨t, rfl⟩ := inhabits_date.1 ha
  obtain ⟨u, rfl⟩ := inhabits_date.1 hb
  exact number_inhabits vars _ rfl

lemma equal_sound : (calculation [item, item] .boolean .equal).Sound :=
  sound_binary rfl rfl fun _ _ _ _ _ _ => ensures_pure (.boolean _)

lemma unequal_sound : (calculation [item, item] .boolean .unequal).Sound :=
  sound_binary rfl rfl fun _ _ _ _ _ _ => ensures_pure (.boolean _)

lemma like_sound : (calculation [.string, .string] .boolean .like).Sound := by
  refine sound_binary rfl rfl fun _ vars a b ha hb => ensures_ofExcept ?_
  have h0 : [a, b][0]? = some a := rfl
  have h1 : [a, b][1]? = some b := rfl
  obtain ⟨s, -, hs⟩ := textArgument_safe "=~" h0 (inhabits_string.1 ha)
  obtain ⟨t, -, ht⟩ := textArgument_safe "=~" h1 (inhabits_string.1 hb)
  rw [Calculation.run, hs, ht]
  exact .boolean _

lemma and_sound (name : String) : (connective name .and).Sound := by
  intro overload hoverload
  rw [connective, List.mem_singleton] at hoverload
  subst hoverload
  refine sound_binary rfl rfl fun _ vars a b ha hb => ensures_ofExcept ?_
  obtain ⟨x, rfl⟩ := inhabits_boolean.1 ha
  obtain ⟨y, rfl⟩ := inhabits_boolean.1 hb
  cases x <;> exact .boolean _

lemma or_sound (name : String) : (connective name .or).Sound := by
  intro overload hoverload
  rw [connective, List.mem_singleton] at hoverload
  subst hoverload
  refine sound_binary rfl rfl fun _ vars a b ha hb => ensures_ofExcept ?_
  obtain ⟨x, rfl⟩ := inhabits_boolean.1 ha
  obtain ⟨y, rfl⟩ := inhabits_boolean.1 hb
  cases x <;> exact .boolean _

lemma not_sound : (calculation [.boolean] .boolean .not).Sound := by
  refine sound_unary rfl fun _ vars a ha => ensures_ofExcept ?_
  obtain ⟨x, rfl⟩ := inhabits_boolean.1 ha
  exact .boolean _

/-- All signatures of the operators between two operands are kept. -/
theorem binaryOperators_sound : ∀ builtin ∈ binaryOperators, builtin.Sound := by
  simp only [binaryOperators, List.forall_mem_cons, List.not_mem_nil,
    IsEmpty.forall_iff, implies_true, and_true, Sound]
  refine ⟨⟨?_, ?_, ?_, ?_⟩, ⟨?_, ?_, ?_, ?_⟩, ⟨?_, ?_, ?_⟩, ⟨?_, ?_, ?_⟩,
    ?_, ?_, comparison_sound ">" fun _ => rfl, comparison_sound "<" fun _ => rfl,
    comparison_sound ">=" fun _ => rfl, comparison_sound "<=" fun _ => rfl, equal_sound,
    unequal_sound, like_sound, and_sound "&&", or_sound "||"⟩
  · exact arithmetic_sound (fun _ => rfl) rfl rfl rfl
  · exact arithmetic_sound (fun _ => rfl) rfl rfl rfl
  · exact joined_sound fun _ => rfl
  · exact movedDate_sound fun _ => rfl
  · exact arithmetic_sound (fun _ => rfl) rfl rfl rfl
  · exact arithmetic_sound (fun _ => rfl) rfl rfl rfl
  · exact dateDifference_sound
  · exact movedDate_sound fun _ => rfl
  · exact arithmetic_sound (fun _ => rfl) rfl rfl rfl
  · exact arithmetic_sound (fun _ => rfl) rfl rfl rfl
  · exact arithmetic_sound (fun _ => rfl) rfl rfl rfl
  · exact quotient_sound (fun _ => rfl) rfl rfl rfl
  · exact quotient_sound (fun _ => rfl) rfl rfl rfl
  · exact quotient_sound (fun _ => rfl) rfl rfl rfl
  · exact quotient_sound (fun _ => rfl) rfl rfl rfl
  · exact arithmetic_sound (fun _ => rfl) rfl rfl rfl

/-- All signatures of the operators before one operand are kept. -/
theorem unaryOperators_sound : ∀ builtin ∈ unaryOperators, builtin.Sound := by
  simp only [unaryOperators, List.forall_mem_cons, List.not_mem_nil,
    IsEmpty.forall_iff, implies_true, and_true, Sound]
  refine ⟨not_sound, ⟨?_, ?_⟩⟩
  · exact unaryNumber_sound (fun _ => rfl) rfl rfl
  · exact unaryNumber_sound (fun _ => rfl) rfl rfl

/-- Patterns take texts beyond the first three, which are the names of their captures. -/
lemma matchesPattern_sound : (Overload.mk [.string, .string, .string] (some .string) .boolean
    (.calculation .matchesPattern)).Sound := by
  intro I env hformat vars args formals hformals hargs
  have heq : ∃ rest, formals = .string :: .string :: .string :: rest := by
    unfold Overload.formals? at hformals
    simp only at hformals
    split at hformals
    · cases hformals
      exact ⟨_, rfl⟩
    · cases hformals
  obtain ⟨rest, rfl⟩ := heq
  obtain ⟨a, args₁, ha, hargs₁, rfl⟩ := List.forall₂_cons_right_iff.1 hargs
  obtain ⟨b, args₂, hb, hargs₂, rfl⟩ := List.forall₂_cons_right_iff.1 hargs₁
  obtain ⟨c, tail, hc, -, rfl⟩ := List.forall₂_cons_right_iff.1 hargs₂
  have h0 : (a :: b :: c :: tail)[0]? = some a := rfl
  have h1 : (a :: b :: c :: tail)[1]? = some b := rfl
  have h2 : (a :: b :: c :: tail)[2]? = some c := rfl
  obtain ⟨text, -, htext⟩ := textArgument_safe "regex" h0
    (inhabits_string.1 (inhabits_of_accepted rfl ha))
  obtain ⟨pattern, -, hpattern⟩ := textArgument_safe "regex" h1
    (inhabits_string.1 (inhabits_of_accepted rfl hb))
  obtain ⟨flags, -, hflags⟩ := textArgument_safe "regex" h2
    (inhabits_string.1 (inhabits_of_accepted rfl hc))
  refine ensures_ofExcept ?_
  simp only [Calculation.run, htext, hpattern, hflags, ok_bind]
  cases hregex : buildRegex pattern flags with
  | error e => exact .badPattern hregex
  | ok regex => exact .boolean _

section Collections

lemma arrayContains_sound : (calculation [.array item, item] .boolean .arrayContains).Sound := by
  refine sound_binary rfl rfl fun _ vars a b ha hb => ensures_ofExcept ?_
  obtain ⟨items, rfl, -⟩ := inhabits_array.1 ha
  exact .boolean _

lemma mapContains_sound : (calculation [.map key entry, key] .boolean .mapContains).Sound := by
  refine sound_binary rfl rfl fun _ vars a b ha hb => ensures_ofExcept ?_
  obtain ⟨entries, rfl, -⟩ := inhabits_map.1 ha
  exact .boolean _

lemma emptyMap_sound : (calculation [] (.map key entry) .emptyMap).Sound :=
  sound_nullary fun _ _ => ensures_pure (.map _ nofun)

lemma append_sound : (calculation [.array item, item] (.array item) .append).Sound := by
  refine sound_binary rfl rfl fun _ vars a b ha hb => ensures_ofExcept ?_
  obtain ⟨items, rfl, hitems⟩ := inhabits_array.1 ha
  refine .array fun v hv => ?_
  rcases List.mem_append.1 hv with hv | hv
  · exact hitems v hv
  · rw [List.mem_singleton.1 hv]
    exact hb

lemma arrayRemove_sound : (calculation [.array item, item] (.array item) .arrayRemove).Sound := by
  refine sound_binary rfl rfl fun _ vars a b ha hb => ensures_ofExcept ?_
  obtain ⟨items, rfl, hitems⟩ := inhabits_array.1 ha
  exact .array fun v hv => hitems v (List.mem_filter.1 hv).1

lemma mapRemove_sound :
    (calculation [.map key entry, key] (.map key entry) .mapRemove).Sound := by
  refine sound_binary rfl rfl fun _ vars a b ha hb => ensures_ofExcept ?_
  obtain ⟨entries, rfl, hentries⟩ := inhabits_map.1 ha
  exact .map _ fun e he => hentries e (List.mem_filter.1 he).1

lemma mapInsert_sound :
    (calculation [.map key entry, key, entry] (.map key entry) .mapInsert).Sound := by
  refine sound_ternary rfl rfl rfl fun _ vars a b c ha hb hc => ensures_ofExcept ?_
  obtain ⟨entries, rfl, hentries⟩ := inhabits_map.1 ha
  refine .map _ fun e he => ?_
  rcases Named.mem_insert he with rfl | he
  · exact hc
  · exact hentries e he

lemma mapLookup_sound : (calculation [.map key entry, key] entry .mapLookup).Sound := by
  refine sound_binary rfl rfl fun _ vars a b ha hb => ensures_ofExcept ?_
  obtain ⟨entries, rfl, hentries⟩ := inhabits_map.1 ha
  have h0 : mapArgument [.object entries, b] 0 "lookup" = .ok entries := rfl
  have h1 : argument [.object entries, b] 1 "lookup" = .ok b := rfl
  simp only [Calculation.run, h0, h1, ok_bind]
  cases hget : Named.get? entries b.mapKey with
  | none => exact .absentKey _
  | some v => exact hentries _ (Named.mem_of_get? hget)

lemma countItems_sound : (calculation [.array item] .number .count).Sound := by
  refine sound_unary rfl fun _ vars a ha => ensures_ofExcept ?_
  obtain ⟨items, rfl, -⟩ := inhabits_array.1 ha
  exact number_inhabits vars _ rfl

lemma countEntries_sound : (calculation [.map key entry] .number .count).Sound := by
  refine sound_unary rfl fun _ vars a ha => ensures_ofExcept ?_
  obtain ⟨entries, rfl, -⟩ := inhabits_map.1 ha
  exact number_inhabits vars _ rfl

lemma concatArrays_sound :
    (calculation [.array item, .array item] (.array item) .concatArrays).Sound := by
  refine sound_binary rfl rfl fun _ vars a b ha hb => ensures_ofExcept ?_
  obtain ⟨xs, rfl, hxs⟩ := inhabits_array.1 ha
  obtain ⟨ys, rfl, hys⟩ := inhabits_array.1 hb
  refine .array fun v hv => ?_
  rcases List.mem_append.1 hv with hv | hv
  · exact hxs v hv
  · exact hys v hv

lemma choice_sound : (signature [.array item] item (.draw .choice)).Sound := by
  refine sound_unary rfl fun _ vars a ha => ?_
  obtain ⟨items, rfl, hitems⟩ := inhabits_array.1 ha
  have h0 : arrayArgument [.array items] 0 "choice" = .ok items := rfl
  simp only [Native.run, Draw.run, h0, Eval.ofExcept_ok, pure_bind]
  refine Eval.ensures_draw.bind fun chance _ => ?_
  cases hpick : items[chance.pick % items.length]? with
  | none => exact ensures_throw (.noItems _)
  | some v => exact ensures_pure (hitems v (List.mem_of_getElem? hpick))

end Collections

section Places

lemma distance_sound :
    (calculation [.location, .location] (.measure "m") .distance).Sound := by
  refine sound_binary rfl rfl fun _ vars a b ha hb => ensures_ofExcept ?_
  obtain ⟨x, y, d, rfl⟩ := inhabits_location.1 ha
  obtain ⟨x', y', d', rfl⟩ := inhabits_location.1 hb
  exact number_inhabits vars _ rfl

lemma latitude_sound : (calculation [.location] .number .latitude).Sound := by
  refine sound_unary rfl fun _ vars a ha => ensures_ofExcept ?_
  obtain ⟨x, y, d, rfl⟩ := inhabits_location.1 ha
  exact number_inhabits vars _ rfl

lemma longitude_sound : (calculation [.location] .number .longitude).Sound := by
  refine sound_unary rfl fun _ vars a ha => ensures_ofExcept ?_
  obtain ⟨x, y, d, rfl⟩ := inhabits_location.1 ha
  exact number_inhabits vars _ rfl

lemma makeLocation_sound : (calculation [.number, .number] .location .makeLocation).Sound := by
  refine sound_binary rfl rfl fun _ vars a b ha hb => ensures_ofExcept ?_
  have h0 : [a, b][0]? = some a := rfl
  have h1 : [a, b][1]? = some b := rfl
  obtain ⟨y, -, hy⟩ := numberArgument_safe "makeLocation" h0 ((inhabits_amount rfl).1 ha)
  obtain ⟨x, -, hx⟩ := numberArgument_safe "makeLocation" h1 ((inhabits_amount rfl).1 hb)
  rw [Calculation.run, hy, hx]
  exact .location _ _ _

end Places

lemma makeDate_sound : (calculation [.number, .number, .number] .date .makeDate).Sound := by
  refine sound_ternary rfl rfl rfl fun _ vars a b c ha hb hc => ensures_ofExcept ?_
  have h0 : [a, b, c][0]? = some a := rfl
  have h1 : [a, b, c][1]? = some b := rfl
  have h2 : [a, b, c][2]? = some c := rfl
  obtain ⟨x, -, hx⟩ := numberArgument_safe "makeDate" h0 ((inhabits_amount rfl).1 ha)
  obtain ⟨y, -, hy⟩ := numberArgument_safe "makeDate" h1 ((inhabits_amount rfl).1 hb)
  obtain ⟨z, -, hz⟩ := numberArgument_safe "makeDate" h2 ((inhabits_amount rfl).1 hc)
  simp only [Calculation.run, hx, hy, hz, ok_bind]
  split
  · exact .date _
  · rename_i hdate
    exact .noSuchDate hdate

lemma makeTime_sound : (calculation [.number, .number] .time .makeTime).Sound := by
  refine sound_binary rfl rfl fun _ vars a b ha hb => ensures_ofExcept ?_
  have h0 : [a, b][0]? = some a := rfl
  have h1 : [a, b][1]? = some b := rfl
  obtain ⟨x, -, hx⟩ := numberArgument_safe "makeTime" h0 ((inhabits_amount rfl).1 ha)
  obtain ⟨y, -, hy⟩ := numberArgument_safe "makeTime" h1 ((inhabits_amount rfl).1 hb)
  simp only [Calculation.run, hx, hy, ok_bind]
  split
  · exact .time _ _
  · rename_i htime
    exact .noSuchTime (Bool.eq_false_iff.2 htime)

lemma makeEntity_sound {op : Calculation} {f tag : String}
    (hrun : ∀ args, op.run args = do
      let text ← textArgument args 0 f
      return .plainEntity text tag) : (calculation [.string] (.entity tag) op).Sound := by
  refine sound_unary rfl fun _ vars a ha => ensures_ofExcept ?_
  have h0 : [a][0]? = some a := rfl
  obtain ⟨s, -, hs⟩ := textArgument_safe f h0 (inhabits_string.1 ha)
  rw [hrun, hs]
  exact .entity tag rfl

lemma rounding_sound {op : Calculation} {g : Float → Float} {f : String} (name : String)
    (hrun : ∀ args, op.run args = unaryNumber g args f) : (rounding name op).Sound := by
  intro overload hoverload
  rw [rounding, List.mem_singleton] at hoverload
  subst hoverload
  exact unaryNumber_sound hrun rfl rfl

lemma average_cases {args : List Value} {xs : List Float}
    (h : amountsArgument args "avg" = .ok xs) :
    (∃ x, Calculation.average.run args = .ok (.number x)) ∨
      Calculation.average.run args = .error (.native "avg" "empty array") := by
  rw [Calculation.run, h]
  cases xs with
  | nil => exact .inr rfl
  | cons x xs => exact .inl ⟨_, rfl⟩

section Renderings

/-- Every value can be shown. -/
lemma valueText_sound : (signature [.any] .string (.rendering .valueText)).Sound := by
  intro I env _ vars args formals hformals hargs
  rw [formals?_signature hformals] at hargs
  obtain ⟨a, tail, -, -, rfl⟩ := List.forall₂_cons_right_iff.1 hargs
  exact ensures_pure (.string rfl)

lemma eventText_safe {I : Named Value → Prop} {env : Env}
    (hformat : env.FormattersKeep I) (vars : String → Value → Prop)
    (args : List Value) :
    Safely I env (fun v => v.Inhabits vars .string) (Rendering.eventText.run env args) := by
  refine (formatEvent_ensures hformat.excused .noEvent _).bind fun formatted _ => ?_
  cases formatted with
  | text text => exact ensures_pure (.string rfl)
  | messages chunks => exact ensures_pure (.string rfl)

lemma formatMeasure_safe {env : Env} (x : Float) (unit : String) :
    Gives (fun _ => True) (RuntimeError.Excused env) (View.formatMeasure x unit) := by
  unfold View.formatMeasure
  split
  · trivial
  · exact .format _

lemma measureText_sound : (signature [measure, .string] .string (.rendering .measureText)).Sound := by
  refine sound_binary rfl rfl fun _ vars a b ha hb => ?_
  have h0 : [a, b][0]? = some a := rfl
  have h1 : [a, b][1]? = some b := rfl
  obtain ⟨x, -, hx⟩ := numberArgument_safe "formatMeasure" h0 ((inhabits_amount rfl).1 ha)
  obtain ⟨unit, -, hunit⟩ := textArgument_safe "formatMeasure" h1 (inhabits_string.1 hb)
  simp only [Native.run, Rendering.run, hx, hunit, Eval.ofExcept_ok, pure_bind]
  exact (ensures_ofExcept (formatMeasure_safe x unit)).bind fun _ _ => ensures_pure (.string rfl)

end Renderings

/-- All signatures of the functions are kept. -/
theorem functions_sound : ∀ builtin ∈ functions, builtin.Sound := by
  simp only [functions, List.forall_mem_cons, List.not_mem_nil,
    IsEmpty.forall_iff, implies_true, and_true, Sound]
  refine ⟨matchesPattern_sound, ⟨arrayContains_sound, mapContains_sound⟩,
    distance_sound, latitude_sound, longitude_sound,
    makeDate_sound, makeTime_sound, makeLocation_sound,
    makeEntity_sound fun _ => rfl, makeEntity_sound fun _ => rfl,
    emptyMap_sound, append_sound, ⟨arrayRemove_sound, mapRemove_sound⟩,
    mapInsert_sound, mapLookup_sound,
    ⟨countItems_sound, countEntries_sound⟩,
    ⟨concatArrays_sound, joined_sound fun _ => rfl⟩, ?_, ?_, ?_, ?_, choice_sound,
    rounding_sound "floor" fun _ => rfl, rounding_sound "ceil" fun _ => rfl,
    rounding_sound "round" fun _ => rfl, ?_, ?_, valueText_sound,
    ⟨?_, ?_⟩, measureText_sound⟩
  · exact aggregate_sound "sum" fun args xs hxs => .inl ⟨total xs, by rw [Calculation.run, hxs]; rfl⟩
  · exact aggregate_sound "avg" fun args xs hxs => average_cases hxs
  · exact aggregate_sound "max" fun args xs hxs => combined_cases hxs
  · exact aggregate_sound "min" fun args xs hxs => combined_cases hxs
  · exact sound_nullary fun _ vars =>
      Eval.ensures_draw.bind fun _ _ => ensures_pure (number_inhabits vars _ rfl)
  · exact sound_nullary fun _ vars => Eval.ensures_draw.bind fun _ _ => ensures_pure (.date _)
  · exact sound_nullary fun hformat vars => eventText_safe hformat vars []
  · exact sound_unary rfl fun hformat vars a _ => eventText_safe hformat vars [a]

end Builtin

end ChannelRules
