import ChannelRules.Engine
import ChannelRules.Proofs.Code.Filter
import ChannelRules.Proofs.Visit
import Mathlib.Data.List.Basic
import Mathlib.Data.List.Forall2

/-!
# Rules that an engine cannot tell apart

An engine that drives a rule sees the inputs of its trigger and queries, the environments that pass
their filters, and the values of its actions. It handles each environment before it asks for the
next one, and from what it has seen it decides which events come next. Two compiled rules that do the
same in the environments that reach them look the same to every engine, also to one that writes the
keywords on the way.
-/

namespace ChannelRules

/-- What an engine sees. -/
inductive Sight where
  | inputs (values : Except RuntimeError (List (Option Value)))
  /-- What a filter lets pass. -/
  | passed (way : Except RuntimeError Env)
  | produced (target : Target) (values : Except RuntimeError (List (Option Value)))

/-- What an engine does. -/
structure Deliveries where
  /-- The event of the trigger. -/
  trigger : Option Frame
  /-- The results of a query with the inputs they are for, given all that has been seen so far. -/
  results : List Sight → List (List Value × Frame)
  /-- What becomes of the world, given all that has been seen so far. -/
  changes : List Sight → World → World

/-- The world, and all that an engine has seen. -/
structure Watch where
  world : World
  seen : List Sight

namespace Watch

/-- See something, and change the world. -/
def see (deliveries : Deliveries) (sight : Sight) : StateM Watch PUnit :=
  modify fun watch =>
    let seen := watch.seen ++ [sight]
    ⟨deliveries.changes seen watch.world, seen⟩

/-- What reads and writes the world is done in the world of the watch. -/
instance : MonadLift (StateM World) (StateM Watch) where
  monadLift x watch := ((x watch.world).1, { watch with world := (x watch.world).2 })

instance : LawfulMonadLift (StateM World) (StateM Watch) where
  monadLift_pure _ := rfl
  monadLift_bind _ _ := rfl

end Watch

section Drive

open Watch

variable [PatternEngine]

/-- Follow one way through the queries that are left. -/
def driveQueries (deliveries : Deliveries) (outputs : List CompiledOutput) :
    List CompiledClause → Except RuntimeError Env → StateM Watch PUnit
  | _, .error e => see deliveries (.passed (.error e))
  | [], .ok env => do
    see deliveries (.passed (.ok env))
    outputs.forM fun output => do
      let values ← (output.produce env).attempt
      see deliveries (.produced output.target values)
  | query :: rest, .ok env => do
    see deliveries (.passed (.ok env))
    let inputs ← (query.invocation.evaluateInputs env).attempt
    see deliveries (.inputs inputs)
    (deliveries.results (← get).seen).forM fun result =>
      (query.filter.cursor (env.setQuery result.1 result.2)).visit
        (driveQueries deliveries outputs rest)

namespace CompiledRule

/-- Go through a rule as an engine does. -/
def watch (rule : CompiledRule) (deliveries : Deliveries) (env : Env) : StateM Watch PUnit := do
  rule.trigger.forM fun trigger => do
    let inputs ← (trigger.invocation.evaluateInputs env).attempt
    see deliveries (.inputs inputs)
  (rule.caller.cursor (deliveries.trigger.elim env env.setTrigger)).visit
    (driveQueries deliveries rule.outputs rule.queries)

/-- All that an engine sees of a rule. -/
def drive (rule : CompiledRule) (deliveries : Deliveries) (env : Env) (world : World) : List Sight :=
  (rule.watch deliveries env ⟨world, []⟩).2.seen

end CompiledRule

end Drive

/-- What an engine can know of an invocation before anything runs. -/
structure InvocationShape where
  channel : ChannelRef
  /-- Whether a parameter is an input. -/
  inputs : List Bool
  assigned : List (Nat × String)
  checked : List Nat

def CompiledInvocation.shape (invocation : CompiledInvocation) : InvocationShape :=
  ⟨invocation.channel, invocation.inputs.map Option.isSome, invocation.assigned, invocation.checked⟩

/-- A property of environments that only depends on the values of variables. -/
def OfVars (P : Env → Prop) : Prop :=
  ∀ env env' : Env, (∀ x, env'.readVar x = env.readVar x) → P env → P env'

lemma forM_congr {m : Type → Type} [Monad m] {α : Type} {xs : List α} {f g : α → m PUnit}
    (h : ∀ x ∈ xs, f x = g x) : xs.forM f = xs.forM g := by
  induction xs with
  | nil => rfl
  | cons x xs ih =>
    rw [List.forM, List.forM, h x List.mem_cons_self,
      ih fun y hy => h y (List.mem_cons_of_mem _ hy)]

namespace Engine

/-- The queries that are left take the results that are left. -/
lemma withResults_cons (query : CompiledClause) (queries : List CompiledClause)
    (results : List (List (List Value))) :
    withResults (query :: queries) results =
      (query, results.headD []) :: withResults queries results.tail := by
  cases results <;> rfl

lemma arrived_ofVars {P : Env → Prop} (hvars : OfVars P) (rule : CompiledRule)
    (activation : Activation) {env : Env} (henv : P env) : P (arrived rule activation env) := by
  unfold arrived
  split
  · exact hvars env _ (fun _ => rfl) henv
  · exact henv

end Engine

variable [PatternEngine]

/-- Clauses that do the same in environments with one property and lead to environments with
another. -/
structure ClauseAlike (P Q : Env → Prop) (c d : CompiledClause) : Prop where
  ofVars : OfVars P
  shape : c.invocation.shape = d.invocation.shape
  inputs : ∀ env, P env → c.invocation.evaluateInputs env = d.invocation.evaluateInputs env
  filter : Chain.Alike P Q (c.filter.map Step.run) (d.filter.map Step.run)

/-- Triggers that do the same. -/
inductive TriggerAlike (P : Env → Prop) :
    (Env → Prop) → Option CompiledClause → Option CompiledClause → Prop
  | command : TriggerAlike P P none none
  | event {Q : Env → Prop} {c d : CompiledClause} (h : ClauseAlike P Q c d) :
    TriggerAlike P Q (some c) (some d)

/-- Actions for the same target that have the same values. -/
structure OutputAlike (P : Env → Prop) (o o' : CompiledOutput) : Prop where
  target : o.target = o'.target
  values : ∀ env, P env → o.produce env = o'.produce env

/-- Queries that do the same one after the other, and actions that do the same after them. -/
inductive QueriesAlike (os os' : List CompiledOutput) :
    (Env → Prop) → List CompiledClause → List CompiledClause → Prop
  | outputs {P : Env → Prop} (hvars : OfVars P) (h : List.Forall₂ (OutputAlike P) os os') :
    QueriesAlike os os' P [] []
  | query {P Q : Env → Prop} {c d : CompiledClause} {cs ds : List CompiledClause}
    (h : ClauseAlike P Q c d) (hrest : QueriesAlike os os' Q cs ds) :
    QueriesAlike os os' P (c :: cs) (d :: ds)

/-- Rules that do the same in environments with a property. -/
structure RuleAlike (P Q : Env → Prop) (c d : CompiledRule) : Prop where
  trigger : TriggerAlike P Q c.trigger d.trigger
  queries : QueriesAlike c.outputs d.outputs Q c.queries d.queries

section Alike

variable {P Q : Env → Prop} {os os' : List CompiledOutput} {cs ds : List CompiledClause}

/-- Filters that do the same let the same pass. -/
lemma Filter.matched_alike {filter filter' : Filter}
    (h : Chain.Alike P Q (filter.map Step.run) (filter'.map Step.run)) {env : Env} (henv : P env) :
    filter.matched env = filter'.matched env := by
  rw [matched_eq, matched_eq, h.results_eq henv]

lemma Filter.firstMatch_alike {filter filter' : Filter}
    (h : Chain.Alike P Q (filter.map Step.run) (filter'.map Step.run)) {env : Env} (henv : P env) :
    filter.firstMatch env = filter'.firstMatch env := by
  rw [firstMatch_eq, firstMatch_eq, h.firstResult_eq henv]

/-- What the second of two filters lets pass has the property that they lead to. -/
lemma Filter.mem_matched_alike {filter filter' : Filter}
    (h : Chain.Alike P Q (filter.map Step.run) (filter'.map Step.run)) {env env' : Env} (henv : P env)
    {w : World} (hmem : .ok env' ∈ (filter'.matched env w).1) : Q env' := by
  rw [matched_eq] at hmem
  exact h.mem_results henv hmem

lemma ClauseAlike.channel {c d : CompiledClause} (h : ClauseAlike P Q c d) :
    c.invocation.channel = d.invocation.channel :=
  congrArg InvocationShape.channel h.shape

lemma QueriesAlike.ofVars (h : QueriesAlike os os' P cs ds) : OfVars P := by
  cases h with
  | outputs hvars _ => exact hvars
  | query h _ => exact h.ofVars

lemma QueriesAlike.shapes (h : QueriesAlike os os' P cs ds) :
    cs.map (fun query => query.invocation.shape) = ds.map fun query => query.invocation.shape := by
  induction h with
  | outputs _ _ => rfl
  | query h _ ih => rw [List.map_cons, List.map_cons, h.shape, ih]

variable {c d : Option CompiledClause}

lemma TriggerAlike.ofVars (h : TriggerAlike P Q c d) (hvars : OfVars Q) : OfVars P := by
  cases h with
  | command => exact hvars
  | event h => exact h.ofVars

lemma TriggerAlike.shapes (h : TriggerAlike P Q c d) :
    c.map (fun trigger => trigger.invocation.shape) =
      d.map fun trigger => trigger.invocation.shape := by
  cases h with
  | command => rfl
  | event h => rw [Option.map_some, Option.map_some, h.shape]

/-- The inputs of triggers that do the same are handled in the same way. -/
lemma TriggerAlike.forM_inputs {m : Type → Type} [Monad m] (h : TriggerAlike P Q c d) {env : Env}
    (henv : P env) (f : Eval (List (Option Value)) → m PUnit) :
    (c.forM fun trigger => f (trigger.invocation.evaluateInputs env)) =
      d.forM fun trigger => f (trigger.invocation.evaluateInputs env) := by
  cases h with
  | command => rfl
  | event h => exact congrArg f (h.inputs env henv)

lemma TriggerAlike.filter (h : TriggerAlike P Q c d) :
    Chain.Alike P Q (((c.map CompiledClause.filter).getD []).map Step.run)
      (((d.map CompiledClause.filter).getD []).map Step.run) := by
  cases h with
  | command => exact .nil
  | event h => exact h.filter

/-- Actions that have the same values, each in turn. -/
lemma forM_outputs {m : Type → Type} [Monad m] (h : List.Forall₂ (OutputAlike P) os os')
    {f g : CompiledOutput → m PUnit} (hf : ∀ o o', OutputAlike P o o' → f o = g o') :
    os.forM f = os'.forM g := by
  induction h with
  | nil => rfl
  | cons h _ ih => rw [List.forM, List.forM, hf _ _ h, ih]

/-- What passes filters that do the same is handled in the same way, as it comes. -/
lemma visit_cursor_alike {filter filter' : Filter}
    (h : Chain.Alike P Q (filter.map Step.run) (filter'.map Step.run)) {env : Env} (henv : P env)
    {next next' : Except RuntimeError Env → StateM Watch PUnit}
    (hnext : ∀ way, (∀ env, way = .ok env → Q env) → next way = next' way) :
    (filter.cursor env).visit next = (filter'.cursor env).visit next' := by
  rw [Filter.cursor, Filter.cursor, Chain.Cursor.visit_start, Chain.Cursor.visit_start]
  refine h.visit_eq hnext fun a ha => ?_
  cases List.mem_singleton.1 ha
  exact henv

/-- Queries that do the same look the same. -/
lemma driveQueries_alike (deliveries : Deliveries) (h : QueriesAlike os os' P cs ds)
    {way : Except RuntimeError Env} (hway : ∀ env, way = .ok env → P env) :
    driveQueries deliveries os cs way = driveQueries deliveries os' ds way := by
  induction h generalizing way with
  | outputs _ houtputs =>
    cases way with
    | error e => rfl
    | ok env =>
      rw [driveQueries, driveQueries, forM_outputs houtputs]
      intro o o' h
      rw [h.target, h.values env (hway env rfl)]
  | query hclause _ ih =>
    cases way with
    | error e => rfl
    | ok env =>
      have henv := hway env rfl
      rw [driveQueries, driveQueries, hclause.inputs env henv]
      -- All that has been seen is the same, so the same results are delivered.
      refine bind_congr fun _ => bind_congr fun _ => bind_congr fun _ => bind_congr fun watch =>
        forM_congr fun result _ => ?_
      have hquery := hclause.ofVars env (env.setQuery result.1 result.2) (fun _ => rfl) henv
      exact visit_cursor_alike hclause.filter hquery fun way hway => ih hway

/-- Rules that do the same look the same. -/
lemma drive_alike (deliveries : Deliveries) {c d : CompiledRule} (h : RuleAlike P Q c d) {env : Env}
    (henv : P env) (world : World) : c.drive deliveries env world = d.drive deliveries env world := by
  have hvars := h.trigger.ofVars h.queries.ofVars
  have harrived : P (deliveries.trigger.elim env env.setTrigger) := by
    cases deliveries.trigger with
    | none => exact henv
    | some frame => exact hvars env (env.setTrigger frame) (fun _ => rfl) henv
  have hinputs := h.trigger.forM_inputs henv fun inputs => (do
    Watch.see deliveries (.inputs (← inputs.attempt)) : StateM Watch PUnit)
  have hpassed := visit_cursor_alike h.trigger.filter harrived fun way hway =>
    driveQueries_alike deliveries h.queries hway
  rw [CompiledRule.drive, CompiledRule.drive, CompiledRule.watch, CompiledRule.watch, hinputs]
  exact congrArg Watch.seen (congrArg Prod.snd (congrFun (bind_congr fun _ => hpassed) _))

namespace Engine

lemma passing_alike {filter filter' : Filter}
    (h : Chain.Alike P Q (filter.map Step.run) (filter'.map Step.run)) {env : Env} (henv : P env)
    (firstOnly : Bool) : passing firstOnly filter env = passing firstOnly filter' env := by
  rw [passing, passing, Filter.matched_alike h henv, Filter.firstMatch_alike h henv]

lemma mem_matched_of_mem_passing {firstOnly : Bool} {filter : Filter} {env env' : Env} {w : World}
    (h : .ok env' ∈ (passing firstOnly filter env w).1) : .ok env' ∈ (filter.matched env w).1 := by
  unfold passing at h
  split at h
  · apply Filter.mem_matched_of_firstMatch
    change .ok env' ∈ Step.ways ((filter.firstMatch env w).1.map Option.toList) at h
    rcases hfirst : (filter.firstMatch env w).1 with e | _ | first
    · rw [hfirst] at h
      cases List.mem_singleton.1 h
    · rw [hfirst] at h
      cases h
    · rw [hfirst] at h
      cases List.mem_singleton.1 h
      rfl
  · exact h

lemma act_alike {o o' : CompiledOutput} (h : OutputAlike P o o') {env : Env} (henv : P env) :
    act env o = act env o' := by
  rw [act, act, h.values _ henv, h.target]

variable {c d : CompiledRule}

lemma finish_alike (h : List.Forall₂ (OutputAlike P) c.outputs d.outputs) (activation : Activation)
    {env : Env} (henv : P env) : finish c activation env = finish d activation env := by
  rw [finish, finish, forM_outputs h fun o o' ho => act_alike ho henv]

/-- What passes filters that do the same is handled in the same way. -/
lemma forM_passing_alike {filter filter' : Filter}
    (h : Chain.Alike P Q (filter.map Step.run) (filter'.map Step.run)) {env : Env} (henv : P env)
    {next next' : Except RuntimeError Env → Engine PUnit}
    (hnext : ∀ way, (∀ env, way = .ok env → Q env) → next way = next' way) (firstOnly : Bool) :
    (inWorld (passing firstOnly filter env) >>= fun passed => passed.forM next) =
      (inWorld (passing firstOnly filter' env) >>= fun passed => passed.forM next') := by
  rw [passing_alike h henv]
  funext journal
  refine congrFun (forM_congr fun way hmem => hnext way ?_) _
  rintro env' rfl
  exact Filter.mem_matched_alike h henv (mem_matched_of_mem_passing hmem)

/-- Queries that do the same run the same. -/
lemma follow_alike (activation : Activation) (h : QueriesAlike c.outputs d.outputs P cs ds)
    {way : Except RuntimeError Env} (hway : ∀ env, way = .ok env → P env) (stage : Nat)
    (results : List (List (List Value))) :
    follow c activation stage (withResults cs results) way =
      follow d activation stage (withResults ds results) way := by
  induction h generalizing way stage results with
  | outputs hvars houtputs =>
    cases way with
    | error e => rfl
    | ok env => exact finish_alike houtputs activation (hway env rfl)
  | @query _ _ query query' _ _ hclause _ ih =>
    rw [withResults_cons, withResults_cons]
    cases way with
    | error e => rfl
    | ok env =>
      have henv := hway env rfl
      rw [follow, follow, hclause.inputs _ henv]
      refine bind_congr fun inputs => bind_congr fun _ => ?_
      cases inputs with
      | error e => rfl
      | ok inputs =>
        refine forM_congr fun values _ => ?_
        have harrived := hclause.ofVars env (env.setQuery (inputs.filterMap id)
          ⟨query'.invocation.channel, values⟩) (fun _ => rfl) henv
        rw [hclause.channel]
        exact forM_passing_alike hclause.filter harrived
          (fun way hway => ih hway (stage + 1) results.tail) activation.firstOnly

lemma arrived_alike (h : TriggerAlike P Q c.trigger d.trigger) (activation : Activation) (env : Env) :
    arrived c activation env = arrived d activation env := by
  rw [arrived, arrived]
  generalize c.trigger = trigger at h
  generalize d.trigger = trigger' at h
  cases h with
  | command => rfl
  | event h =>
    cases activation.trigger with
    | none => rfl
    | some values => exact congrArg (fun channel => env.setTrigger ⟨channel, values⟩) h.channel

/-- Rules that do the same run the same. -/
lemma run_alike (h : RuleAlike P Q c d) (activation : Activation) {env : Env} (henv : P env)
    (world : World) : run c activation env world = run d activation env world := by
  have hvars := h.trigger.ofVars h.queries.ofVars
  have harrived := arrived_ofVars hvars d activation henv
  have hinputs := h.trigger.forM_inputs henv fun inputs => do
    note (.triggerInputs (← inWorld inputs.attempt))
  have hpassed := forM_passing_alike h.trigger.filter harrived
    (fun way hway => follow_alike activation h.queries hway 0 activation.results)
    activation.firstOnly
  rw [run, run, activate, activate, hinputs, arrived_alike h.trigger]
  exact congrArg Prod.snd (congrFun (bind_congr fun _ => hpassed) _)

end Engine

end Alike

end ChannelRules
