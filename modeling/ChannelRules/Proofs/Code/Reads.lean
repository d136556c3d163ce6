import ChannelRules.Proofs.Code.Filter
import ChannelRules.Proofs.Code.Subcodes

/-!
# Keyword cells that code reads

Compiled code reads only the cells that stand in it. Running code, steps or filters in two worlds
therefore gives the same, as long as these cells have the same values in both and chance has the same
in store; and the worlds that are left differ in other cells only, as before.
-/

namespace ChannelRules

def Code.cell? : Code → Option String
  | keyword cell => some cell
  | _ => none

def Code.reads (code : Code) : List String := code.subcodes.filterMap cell?

def Capture.reads : Capture → List String
  | assign _ => []
  | expect code => code.reads

def PatternSource.reads : PatternSource → List String
  | fixed _ => []
  | computed pattern flags => pattern.reads ++ flags.reads

def Step.reads : Step → List String
  | event _ _ checks => checks.flatMap fun check => check.2.reads
  | assign _ code => code.reads
  | test code => code.reads
  | regex value source captures => value.reads ++ source.reads ++ captures.flatMap Capture.reads
  | each container _ => container.reads
  | member container element => container.reads ++ element.reads

/-- Worlds that differ, if at all, in other keyword cells than the given ones. -/
structure World.AgreesOn (names : List String) (w w' : World) : Prop where
  cells : ∀ name ∈ names, Named.get? w'.cells name = Named.get? w.cells name
  draws : w'.draws = w.draws
  drawn : w'.drawn = w.drawn

/-- A computation that gives the same in worlds that differ in other cells only, and leaves such
worlds. -/
def Heeds {α : Type} (names : List String) (x : StateM World α) : Prop :=
  ∀ w w', w.AgreesOn names w' → (x w').1 = (x w).1 ∧ (x w).2.AgreesOn names (x w').2

section Heeds

variable {α β : Type} {names : List String}

lemma heeds_pure (a : α) : Heeds names (pure a : StateM World α) := fun _ _ h => ⟨rfl, h⟩

lemma Heeds.bind {x : StateM World α} {f : α → StateM World β} (hx : Heeds names x)
    (hf : ∀ w, Heeds names (f (x w).1)) : Heeds names (x >>= f) := by
  intro w w' h
  obtain ⟨hsame, hleft⟩ := hx w w' h
  rw [state_bind, state_bind, hsame]
  exact hf w _ _ hleft

lemma Heeds.map {x : StateM World α} (hx : Heeds names x) (f : α → β) : Heeds names (f <$> x) := by
  intro w w' h
  obtain ⟨hsame, hleft⟩ := hx w w' h
  exact ⟨congrArg f hsame, hleft⟩

namespace Eval

/-- As `ChannelRules.Heeds`, with the failures of the computation. -/
abbrev Heeds (names : List String) (x : Eval α) : Prop := ChannelRules.Heeds names x.attempt

lemma heeds_pure (a : α) : Heeds names (pure a) := fun _ _ h => ⟨rfl, h⟩

lemma heeds_ofExcept (x : Except RuntimeError α) : Heeds names (ofExcept x) := by
  intro w w' h
  cases x <;> exact ⟨rfl, h⟩

lemma heeds_throw (e : RuntimeError) : Heeds names (throw e : Eval α) := fun _ _ h => ⟨rfl, h⟩

lemma heeds_draw : Heeds names draw := by
  intro w w' h
  refine ⟨?_, h.cells, h.draws, congrArg (· + 1) h.drawn⟩
  change Except.ok (w'.draws w'.drawn) = .ok (w.draws w.drawn)
  rw [h.draws, h.drawn]

lemma heeds_readKeyword {cell : String} (hcell : cell ∈ names) :
    Heeds names (readKeyword cell) := by
  intro w w' h
  have hget := h.cells cell hcell
  unfold attempt readKeyword
  rw [hget]
  cases Named.get? w.cells cell <;> exact ⟨rfl, h⟩

lemma heeds_writeCell (cell : String) (value : Value) : Heeds names (writeCell cell value) := by
  intro w w' h
  refine ⟨rfl, fun name hname => ?_, h.draws, h.drawn⟩
  change Named.get? (Named.insert w'.cells cell value) name =
    Named.get? (Named.insert w.cells cell value) name
  by_cases heq : name = cell
  · rw [heq, Named.get?_insert_self, Named.get?_insert_self]
  · rw [Named.get?_insert_of_ne _ _ heq, Named.get?_insert_of_ne _ _ heq, h.cells name hname]

lemma Heeds.bind {x : Eval α} {f : α → Eval β} (hx : Heeds names x)
    (hf : ∀ a w, (x.attempt w).1 = .ok a → Heeds names (f a)) : Heeds names (x >>= f) := by
  intro w w' h
  obtain ⟨hsame, hleft⟩ := hx w w' h
  cases hrun : (x.attempt w).1 with
  | error e =>
    rw [attempt_bind_of_error hrun, attempt_bind_of_error (hsame.trans hrun)]
    exact ⟨rfl, hleft⟩
  | ok a =>
    rw [attempt_bind_of_ok hrun, attempt_bind_of_ok (hsame.trans hrun)]
    exact hf a w hrun _ _ hleft

lemma Heeds.next {x : Eval α} {f : α → Eval β} (hx : Heeds names x)
    (hf : ∀ a, Heeds names (f a)) : Heeds names (x >>= f) :=
  hx.bind fun a _ _ => hf a

lemma Heeds.map {x : Eval α} (hx : Heeds names x) (f : α → β) : Heeds names (f <$> x) := by
  rw [map_eq_pure_bind]
  exact hx.next fun a => heeds_pure (f a)

end Eval

end Heeds

/-- The formatters of an environment read no keyword cell: whichever cells two worlds differ in, they
make no difference. -/
def Env.FormattersReadNothing (env : Env) : Prop :=
  ∀ entry ∈ env.formatters, ∀ frame hint view names, Eval.Heeds names (entry.2 frame hint view)

lemma Env.SameExcept.formattersReadNothing {names : List String} {env env' : Env}
    (h : env.SameExcept names env') (hformatters : env.FormattersReadNothing) :
    env'.FormattersReadNothing := by
  have hsame : env'.formatters = env.formatters := by rw [← h.rest]
  intro entry hentry
  rw [hsame] at hentry
  exact hformatters entry hentry

open Eval (heeds_pure heeds_ofExcept heeds_throw)

section Reads

variable {env : Env} {names : List String}

lemma formatEvent_heeds (h : env.FormattersReadNothing) (hint : FormatHint) :
    Eval.Heeds names (env.formatEvent hint) := by
  refine (heeds_ofExcept _).next fun frame => ?_
  have hchunks : Eval.Heeds names (env.chunksOf frame hint) := by
    unfold Env.chunksOf
    split
    · rename_i formatter hformatter
      exact h _ (Named.mem_of_get? hformatter) frame hint env.toView names
    · exact heeds_pure _
  exact hchunks.next fun _ => heeds_pure _

lemma Draw.run_heeds (op : Draw) (args : List Value) : Eval.Heeds names (op.run args) := by
  cases op with
  | choice =>
    refine (heeds_ofExcept _).next fun items => Eval.heeds_draw.next fun chance => ?_
    split
    · exact heeds_pure _
    · exact heeds_throw _
  | random => exact Eval.heeds_draw.next fun _ => heeds_pure _
  | now => exact Eval.heeds_draw.next fun _ => heeds_pure _

lemma Rendering.run_heeds (h : env.FormattersReadNothing) (op : Rendering) (args : List Value) :
    Eval.Heeds names (op.run env args) := by
  cases op with
  | valueText => exact (heeds_ofExcept _).next fun _ => heeds_pure _
  | eventText =>
    refine (formatEvent_heeds h _).next fun formatted => ?_
    split
    · exact heeds_pure _
    · exact heeds_pure _
  | measureText =>
    refine (heeds_ofExcept _).next fun x => (heeds_ofExcept _).next fun unit => ?_
    exact (heeds_ofExcept _).next fun _ => heeds_pure _

variable [PatternEngine]

lemma Op.run_heeds (h : env.FormattersReadNothing) (op : Op) (args : List Value) :
    Eval.Heeds names (op.run env args) := by
  unfold Op.run
  cases op.native with
  | calculation op => exact heeds_ofExcept _
  | draw op => exact op.run_heeds args
  | rendering op => exact op.run_heeds h args

mutual

/-- Code heeds only the cells that stand in it. -/
theorem Code.run_heeds (h : env.FormattersReadNothing) :
    (code : Code) → code.reads ⊆ names → Eval.Heeds names (code.run env)
  | .constant _, _ => by
    rw [run]
    exact heeds_pure _
  | .var _, _ => by
    rw [run]
    exact heeds_ofExcept _
  | .keyword _, hsub => by
    rw [run]
    exact Eval.heeds_readKeyword (hsub List.mem_cons_self)
  | .member object _, hsub => by
    rw [run]
    exact (run_heeds h object hsub).next fun _ => heeds_ofExcept _
  | .call op args, hsub => by
    rw [run]
    exact (runAll_heeds h args hsub).next fun values => op.run_heeds h values
  | .connective _ lhs rhs, hsub => by
    have hoperands : lhs.reads ++ rhs.reads ⊆ names := by
      rw [reads, reads, ← List.filterMap_append]
      exact hsub
    obtain ⟨hlhs, hrhs⟩ := List.append_subset.1 hoperands
    rw [run]
    refine (run_heeds h lhs hlhs).next fun left => (heeds_ofExcept left.truth).next fun b => ?_
    split
    · exact heeds_pure _
    · exact (run_heeds h rhs hrhs).next fun _ => (heeds_ofExcept _).next fun _ => heeds_pure _
  | .items codes, hsub => by
    rw [run]
    exact (runAll_heeds h codes hsub).next fun _ => heeds_pure _

theorem Code.runAll_heeds (h : env.FormattersReadNothing) :
    (codes : List Code) → (subcodesAll codes).filterMap cell? ⊆ names →
      Eval.Heeds names (runAll env codes)
  | [], _ => by
    rw [runAll]
    exact heeds_pure _
  | code :: rest, hsub => by
    rw [subcodesAll, List.filterMap_append, List.append_subset] at hsub
    rw [runAll]
    exact (run_heeds h code hsub.1).next fun _ => (runAll_heeds h rest hsub.2).next fun _ =>
      heeds_pure _

end

lemma runInputs_heeds (h : env.FormattersReadNothing) {inputs : List (Option Code)}
    (hsub : ∀ code, some code ∈ inputs → code.reads ⊆ names) :
    Eval.Heeds names (CompiledInvocation.runInputs env inputs) := by
  induction inputs with
  | nil => exact heeds_pure _
  | cons input rest ih =>
    have hrest := ih fun code hcode => hsub code (List.mem_cons_of_mem _ hcode)
    have hinput : Eval.Heeds names (Code.runOptional env input) := by
      cases input with
      | none => exact heeds_pure _
      | some code =>
        exact (code.run_heeds h (hsub code List.mem_cons_self)).next fun _ => heeds_pure _
    rw [CompiledInvocation.runInputs]
    exact hinput.next fun _ => hrest.next fun _ => heeds_pure _

namespace Step

lemma checkValues_heeds (h : env.FormattersReadNothing) (frame : Frame) {checks : List (Nat × Code)}
    (hsub : checks.flatMap (fun check => check.2.reads) ⊆ names) :
    Eval.Heeds names (checkValues frame env checks) := by
  induction checks with
  | nil => exact heeds_pure _
  | cons check rest ih =>
    obtain ⟨hcheck, hrest⟩ := List.append_subset.1 hsub
    rw [checkValues]
    refine (check.2.run_heeds h hcheck).next fun _ => (heeds_ofExcept _).next fun _ => ?_
    split
    · exact ih hrest
    · exact heeds_pure _

lemma bindEvent_heeds (h : env.FormattersReadNothing) (source : EventSource)
    (assigned : List (Nat × String)) {checks : List (Nat × Code)}
    (hsub : checks.flatMap (fun check => check.2.reads) ⊆ names) :
    Eval.Heeds names (bindEvent source assigned checks env) := by
  rw [bindEvent]
  refine (heeds_ofExcept _).next fun frame => ?_
  cases htaken : takeVars frame assigned env with
  | error e => exact heeds_throw e
  | ok env' =>
    exact (checkValues_heeds ((takeVars_sameExcept htaken).formattersReadNothing h) frame hsub).map _

lemma bindCaptures_heeds (h : env.FormattersReadNothing) {captures : List (Capture × String)}
    (hsub : captures.flatMap (fun capture => capture.1.reads) ⊆ names) :
    Eval.Heeds names (bindCaptures captures env) := by
  induction captures generalizing env with
  | nil => exact heeds_pure _
  | cons capture rest ih =>
    obtain ⟨hcapture, hrest⟩ := List.append_subset.1 hsub
    match capture, hcapture with
    | (.assign name, text), _ =>
      exact ih ((Env.SameExcept.setVar env name _).formattersReadNothing h) hrest
    | (.expect code, text), hcode =>
      rw [bindCaptures]
      refine (code.run_heeds h hcode).next fun _ => ?_
      split
      · exact ih h hrest
      · exact heeds_pure _

lemma read_heeds (h : env.FormattersReadNothing) {source : PatternSource}
    (hsub : source.reads ⊆ names) : Eval.Heeds names (source.read env) := by
  cases source with
  | fixed regex => exact heeds_ofExcept regex
  | computed pattern flags =>
    obtain ⟨hpattern, hflags⟩ := List.append_subset.1 hsub
    refine (pattern.run_heeds h hpattern).next fun _ => (flags.run_heeds h hflags).next fun _ => ?_
    exact (heeds_ofExcept _).next fun _ => (heeds_ofExcept _).next fun _ => heeds_ofExcept _

lemma matchPattern_heeds (h : env.FormattersReadNothing) {value : Code} {source : PatternSource}
    {captures : List Capture} (hsub : (regex value source captures).reads ⊆ names) :
    Eval.Heeds names (matchPattern value source captures env) := by
  obtain ⟨hfirst, hcaptures⟩ := List.append_subset.1 hsub
  obtain ⟨hvalue, hsource⟩ := List.append_subset.1 hfirst
  rw [matchPattern]
  refine (value.run_heeds h hvalue).next fun _ => (read_heeds h hsource).next fun regex => ?_
  refine (heeds_ofExcept _).next fun text => ?_
  cases regex.captures? text with
  | none => exact heeds_pure _
  | some groups =>
    refine bindCaptures_heeds h (List.Subset.trans (fun name hname => ?_) hcaptures)
    obtain ⟨⟨capture, text⟩, hmem, hname⟩ := List.mem_flatMap.1 hname
    exact List.mem_flatMap.2 ⟨capture, (List.of_mem_zip hmem).1, hname⟩

lemma hasElement_heeds (h : env.FormattersReadNothing) {container element : Code}
    (hcontainer : container.reads ⊆ names) (helement : element.reads ⊆ names) :
    Eval.Heeds names (hasElement container element env) := by
  rw [hasElement]
  refine (container.run_heeds h hcontainer).next fun value => ?_
  split
  · exact (element.run_heeds h helement).next fun _ => heeds_pure _
  · exact (element.run_heeds h helement).next fun _ => heeds_pure _
  · exact heeds_throw _

/-- A step heeds only the cells that its code reads. -/
lemma pass_heeds (h : env.FormattersReadNothing) {step : Step} (hsub : step.reads ⊆ names) :
    Eval.Heeds names (step.pass env) := by
  cases step with
  | event source assigned checks => exact (bindEvent_heeds h source assigned hsub).map _
  | assign name code => exact (code.run_heeds h hsub).next fun _ => heeds_pure _
  | test code => exact (((code.run_heeds h hsub).next fun _ => heeds_ofExcept _).map _).map _
  | regex value source captures => exact (matchPattern_heeds h hsub).map _
  | each container name =>
    refine (container.run_heeds h hsub).next fun _ => (heeds_ofExcept _).next fun _ => ?_
    exact heeds_pure _
  | member container element =>
    obtain ⟨hcontainer, helement⟩ := List.append_subset.1 hsub
    exact ((hasElement_heeds h hcontainer helement).map _).map _

end Step

/-- A filter heeds only the cells that its steps read. -/
lemma Filter.matched_heeds (h : env.FormattersReadNothing) {filter : Filter}
    (hsub : filter.flatMap Step.reads ⊆ names) : Heeds names (filter.matched env) := by
  rw [matched_eq]
  induction filter generalizing env with
  | nil => exact ChannelRules.heeds_pure _
  | cons step rest ih =>
    obtain ⟨hstep, hrest⟩ := List.append_subset.1 hsub
    have hall : ∀ ways : List (Except RuntimeError Env),
        (∀ next, .ok next ∈ ways → next.FormattersReadNothing) →
          Heeds names (Chain.followAll (Chain.results (rest.map Step.run)) ways) := by
      intro ways hways
      induction ways with
      | nil => exact ChannelRules.heeds_pure _
      | cons way ways ihways =>
        have hothers := ihways fun next hnext => hways next (List.mem_cons_of_mem _ hnext)
        cases way with
        | error e => exact hothers.bind fun _ => ChannelRules.heeds_pure _
        | ok next =>
          have hnext := ih (hways next List.mem_cons_self) hrest
          exact hnext.bind fun _ => hothers.bind fun _ => ChannelRules.heeds_pure _
    have hways : Heeds names (step.run env) := ChannelRules.Heeds.map (Step.pass_heeds h hstep) _
    refine hways.bind fun w => hall _ fun next hnext => ?_
    exact (Step.run_sameExcept hnext).formattersReadNothing h

end Reads

end ChannelRules
