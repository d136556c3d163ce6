import ChannelRules.Pattern.Machine
import ChannelRules.Proofs.Check.Declared
import ChannelRules.Proofs.Code.Bound
import ChannelRules.Proofs.Code.Rule
import ChannelRules.Proofs.Engine

/-!
# Checked rules never meet a name without a value

Whatever events arrive, and however the keywords change on the way, a compiled rule of a checked
program reads only variables that are set and values that its events have. Events are taken to have
a value for each parameter in the schema of their channel.
-/

namespace ChannelRules

open Typed Typed.Touch

/-- An event has a value for each parameter of a channel. -/
def Frame.Fills (ctx : Context) (channel : ChannelRef) (frame : Frame) : Prop :=
  ∀ types, channel.schema? ctx = some types → types.length ≤ frame.values.length

section Seen

variable [PatternEngine]

/-- What can be seen on a way through queries and after them. Between any two steps the world can
change. -/
inductive SeesOn (ctx : Context) (outputs : List CompiledOutput) :
    List CompiledClause → Except RuntimeError Env → Sight → Prop
  | passed (queries : List CompiledClause) (way : Except RuntimeError Env) :
    SeesOn ctx outputs queries way (.passed way)
  | produced {env : Env} {output : CompiledOutput} (world : World) (h : output ∈ outputs) :
    SeesOn ctx outputs [] (.ok env)
      (.produced output.target ((output.produce env).attempt world).1)
  | inputs {query : CompiledClause} {rest : List CompiledClause} {env : Env} (world : World) :
    SeesOn ctx outputs (query :: rest) (.ok env)
      (.inputs ((query.invocation.evaluateInputs env).attempt world).1)
  | result {query : CompiledClause} {rest : List CompiledClause} {env : Env} {frame : Frame}
      {way : Except RuntimeError Env} {sight : Sight} (input : List Value)
      (hfills : frame.Fills ctx query.invocation.channel)
      (hway : Chain.Leads (query.filter.map Step.run) (.ok (env.setQuery input frame)) way)
      (h : SeesOn ctx outputs rest way sight) :
    SeesOn ctx outputs (query :: rest) (.ok env) sight

/-- What can be seen of a rule that starts in an environment. -/
inductive CompiledRule.Sees (ctx : Context) (rule : CompiledRule) (env : Env) : Sight → Prop
  | inputs {trigger : CompiledClause} (world : World) (h : rule.trigger = some trigger) :
    Sees ctx rule env (.inputs ((trigger.invocation.evaluateInputs env).attempt world).1)
  | event {frame : Option Frame} {way : Except RuntimeError Env} {sight : Sight}
      (hfills : ∀ trigger ∈ rule.trigger, ∀ event ∈ frame,
        event.Fills ctx trigger.invocation.channel)
      (hway : Chain.Leads (rule.caller.map Step.run) (.ok { env with trigger := frame }) way)
      (h : SeesOn ctx rule.outputs rule.queries way sight) :
    Sees ctx rule env sight

end Seen

/-- What is seen is no failure at a name without a value. -/
def Sight.AllBound : Sight → Prop
  | inputs values => ChannelRules.AllBound values
  | passed way => ChannelRules.AllBound way
  | produced _ values => ChannelRules.AllBound values

section Stages

variable {ctx : Context} {names : List String} {env : Env}

lemma Eval.AllBound.attempt {α : Type} {x : Eval α} (h : Eval.AllBound x) (world : World) :
    ChannelRules.AllBound (x.attempt world).1 :=
  (Eval.Ensures.attempt h (w := world) trivial).2

lemma Env.Knows.setQuery (h : env.Knows names) (input : List Value) (frame : Frame) :
    (env.setQuery input frame).Knows names := ⟨h.vars, h.formatters⟩

variable [PatternEngine]

lemma clause_inputs_bound {source : EventSource} {parts : List Part} {clause : CompiledClause}
    (hclause : clauseCode? source names parts = some clause) (hknows : env.Knows names) :
    Eval.AllBound (clause.invocation.evaluateInputs env) := by
  unfold clauseCode? at hclause
  split at hclause
  · cases hclause
    exact evaluateInputs_bound hknows _
  · cases hclause

/-- What passes the filter of a clause has values for all names that are known after it. -/
lemma clause_filter_bound {source : EventSource} {parts : List Part} {clause : CompiledClause}
    (hclause : clauseCode? source names parts = some clause)
    (hscoped : Scoped names (parts.flatMap Part.touches)) (hstarts : StartsWithInvocation parts)
    {scope : Scope} (hsound : SoundParts ctx scope parts) (hknows : env.Knows names)
    (hfills : ∀ frame, source.frame env = .ok frame →
      frame.Fills ctx clause.invocation.channel) {way : Except RuntimeError Env}
    (hway : Chain.Leads (clause.filter.map Step.run) (.ok env) way) :
    Bound (fun env' => env'.Knows (names ++ declared (parts.flatMap Part.touches))) way := by
  obtain ⟨i, rest, rfl, hrest⟩ := hstarts
  cases hclause
  suffices hfilled : env.FillsParts source (.invocation i :: rest) by
    have hstart : Bound (fun env => env.Knows names ∧
        env.FillsParts source (.invocation i :: rest)) (.ok env) := ⟨hknows, hfilled⟩
    have hgives := (steps_safe (List.Subset.refl _) hscoped).leads hstart hway
    exact hgives.mono (fun _ h => h.1) fun _ h => h
  intro j hj frame hframe
  rcases List.mem_cons.1 hj with heq | hj
  · cases heq
    cases hsound with
    | cons hpart _ _ =>
      cases hpart with
      | invocation hschema hlength _ =>
        rw [hlength]
        exact hfills frame hframe _ hschema
  · cases hrest _ hj

lemma produce_bound {action : Action} (hvars : ∀ expr ∈ action.exprs, env.Knows expr.vars) :
    Eval.AllBound (action.code.produce env) := by
  refine CompiledInvocation.runInputs_ensures fun code hcode => ?_
  cases action with
  | invocation channel params =>
    obtain ⟨param, hparam, heq⟩ := List.mem_map.1 hcode
    obtain ⟨expr, rfl, rfl⟩ := Option.map_eq_some_iff.1 heq
    exact Expr.code_bound (hvars expr (List.mem_filterMap.2 ⟨_, hparam, rfl⟩))
  | keyword cell expr =>
    cases List.mem_singleton.1 hcode
    exact Expr.code_bound (hvars expr List.mem_cons_self)

lemma outputs_bound {actions : List Action}
    (hscoped : Scoped names (actions.flatMap Action.touches)) (hknows : env.Knows names) :
    ∀ output ∈ actions.map Action.code, Eval.AllBound (output.produce env) := by
  intro output houtput
  obtain ⟨action, haction, rfl⟩ := List.mem_map.1 houtput
  have hnone : declared (actions.flatMap Action.touches) = [] := by
    have htouches : actions.flatMap Action.touches = (actions.flatMap Action.exprs).map .reads :=
      List.map_flatMap.symm
    rw [htouches, declared_map_reads]
  apply produce_bound
  intro expr hexpr
  have hreads : .reads expr ∈ actions.flatMap Action.touches :=
    List.mem_flatMap.2 ⟨action, haction, List.mem_map_of_mem hexpr⟩
  have hvars := mem_of_reads hscoped hreads
  rw [hnone, List.append_nil] at hvars
  exact hknows.mono hvars

/-- Nothing that is seen on a way through queries is a failure at a name. -/
lemma seesOn_bound {actions : List Action} {queries : List (List Part)}
    {clauses : List CompiledClause} (hqueries : queriesCode? names queries = some clauses)
    (hscoped : Scoped names (queries.flatten.flatMap Part.touches))
    (hactions : Scoped (names ++ declared (queries.flatten.flatMap Part.touches))
      (actions.flatMap Action.touches))
    (hstarts : ∀ parts ∈ queries, StartsWithInvocation parts)
    (hsound : ∀ parts ∈ queries, ∃ scope, SoundParts ctx scope parts)
    {way : Except RuntimeError Env} (hway : Bound (fun env => env.Knows names) way) {sight : Sight}
    (h : SeesOn ctx (actions.map Action.code) clauses way sight) : sight.AllBound := by
  induction queries generalizing names clauses way with
  | nil =>
    cases hqueries
    rw [List.flatten_nil, List.flatMap_nil, declared_nil, List.append_nil] at hactions
    cases h with
    | passed _ _ => exact hway.mono (fun _ _ => trivial) fun _ h => h
    | produced world houtput => exact (outputs_bound hactions hway _ houtput).attempt world
  | cons parts rest ih =>
    rw [List.flatten_cons, List.flatMap_append, scoped_append] at hscoped
    rw [List.flatten_cons, List.flatMap_append, declared_append, ← List.append_assoc] at hactions
    simp only [queriesCode?, Option.bind_eq_bind, Option.bind_eq_some_iff, Option.pure_def,
      Option.some.injEq] at hqueries
    obtain ⟨clause, hclause, others, hothers, rfl⟩ := hqueries
    cases h with
    | passed _ _ => exact hway.mono (fun _ _ => trivial) fun _ h => h
    | inputs world => exact (clause_inputs_bound hclause hway).attempt world
    | @result _ _ env frame way _ input hfills hleads hrest =>
      obtain ⟨scope, hparts⟩ := hsound parts List.mem_cons_self
      have hpassed := clause_filter_bound hclause hscoped.1 (hstarts parts List.mem_cons_self)
        hparts (Env.Knows.setQuery hway input frame)
        (fun event hevent => Except.ok.inj hevent ▸ hfills) hleads
      exact ih hothers hscoped.2 hactions (fun p hp => hstarts p (List.mem_cons_of_mem _ hp))
        (fun p hp => hsound p (List.mem_cons_of_mem _ hp)) hpassed hrest

end Stages

/-- An engine sees nothing but what has a property. -/
def Shows (S : Sight → Prop) (x : StateM Watch PUnit) : Prop :=
  ∀ watch, ∀ sight ∈ (x watch).2.seen, sight ∈ watch.seen ∨ S sight

section Shows

variable {S : Sight → Prop} {deliveries : Deliveries}

lemma shows_see {sight : Sight} (h : S sight) : Shows S (Watch.see deliveries sight) := by
  intro watch other hother
  rcases List.mem_append.1 hother with hother | hother
  · exact .inl hother
  · rw [List.mem_singleton.1 hother]
    exact .inr h

lemma Shows.next {x y : StateM Watch PUnit} (hx : Shows S x) (hy : Shows S y) :
    Shows S (x >>= fun _ => y) := by
  intro watch sight h
  rcases hy (x watch).2 sight h with h | h
  · exact hx watch sight h
  · exact .inr h

lemma shows_forM {α : Type} {xs : List α} {f : α → StateM Watch PUnit}
    (h : ∀ x ∈ xs, Shows S (f x)) : Shows S (xs.forM f) := by
  induction xs with
  | nil => exact fun _ _ hsight => .inl hsight
  | cons x xs ih =>
    exact (h x List.mem_cons_self).next (ih fun y hy => h y (List.mem_cons_of_mem _ hy))

lemma shows_lift {α : Type} {x : StateM World α} {f : α → StateM Watch PUnit}
    (h : ∀ world, Shows S (f (x world).1)) : Shows S (liftM x >>= f) :=
  fun watch => h watch.world _

/-- If what a chain leads to is handled without more to see, then so is all of it. -/
lemma shows_visit {handle : Except RuntimeError Env → StateM Watch PUnit}
    (steps : List (Chain.Branching World RuntimeError Env)) (ways : List (Except RuntimeError Env))
    (h : ∀ way ∈ ways, ∀ result, Chain.Leads steps way result → Shows S (handle result)) :
    Shows S (Chain.visit handle steps ways) := by
  fun_induction Chain.visit handle steps ways with
  | case1 steps => exact fun _ _ hsight => .inl hsight
  | case2 steps e ways ih =>
    rw [List.forall_mem_cons] at h
    exact (h.1 _ (.fails steps e)).next (ih h.2)
  | case3 a ways ih =>
    rw [List.forall_mem_cons] at h
    exact (h.1 _ (.done a)).next (ih h.2)
  | case4 step steps a ways ihdeeper ihlater =>
    rw [List.forall_mem_cons] at h
    refine shows_lift fun world => (ihdeeper _ fun way hway result hleads => ?_).next (ihlater h.2)
    exact h.1 result (.next world hway hleads)

end Shows

section Rules

variable [PatternEngine] {ctx : Context} {names : List String} {env : Env} {rule : Rule}
  {code : CompiledRule}

/-- Nothing that can be seen of a well scoped rule is a failure at a name. -/
lemma sees_bound (hcode : rule.code? names = some code) (hscoped : rule.WellScoped names)
    (hsound : ∀ parts ∈ rule.clauses, ∃ scope, SoundParts ctx scope parts)
    (hknows : env.Knows names) {sight : Sight} (h : code.Sees ctx env sight) : sight.AllBound := by
  obtain ⟨htrigger, hqueries, hrest⟩ := code?_eq_some hcode
  obtain ⟨htriggerOrder, hqueriesOrder, hactionsOrder⟩ := hscoped.parts
  have houtputs : code.outputs = rule.actions.map Action.code := by rw [hrest]
  cases h with
  | inputs world hsome =>
    cases hwritten : rule.trigger with
    | none =>
      rw [hwritten, hsome] at htrigger
      cases htrigger
    | some parts =>
      simp only [hwritten, hsome, triggerCode?, Option.bind_eq_bind, Option.bind_eq_some_iff,
        Option.pure_def, Option.some.injEq, exists_eq_right] at htrigger
      exact (clause_inputs_bound htrigger hknows).attempt world
  | @event frame way sight hfills hway hsees =>
    let arrived : Env := { env with trigger := frame }
    have harrived : arrived.Knows names := ⟨hknows.vars, hknows.formatters⟩
    rw [houtputs] at hsees
    refine seesOn_bound hqueries hqueriesOrder hactionsOrder hscoped.queries
      (fun parts hparts => hsound parts (List.mem_append_right _ hparts)) ?_ hsees
    cases hwritten : rule.trigger with
    | none =>
      rw [hwritten] at htrigger
      have hcommand : code.trigger = none := (Option.some.inj htrigger).symm
      rw [CompiledRule.caller, hcommand] at hway
      rw [Option.getD_none, List.flatMap_nil, declared_nil, List.append_nil]
      cases hway
      exact harrived
    | some parts =>
      simp only [hwritten, triggerCode?, Option.bind_eq_bind, Option.bind_eq_some_iff,
        Option.pure_def, Option.some.injEq] at htrigger
      obtain ⟨clause, hclause, hsome⟩ := htrigger
      rw [hwritten] at htriggerOrder
      obtain ⟨scope, hparts⟩ := hsound parts (by
        rw [Rule.clauses, hwritten]
        exact List.mem_cons_self)
      have hcaller : code.caller = clause.filter := by
        rw [CompiledRule.caller, ← hsome]
        rfl
      rw [hcaller] at hway
      refine clause_filter_bound hclause htriggerOrder (hscoped.trigger parts hwritten) hparts
        harrived (fun event hevent => ?_) hway
      cases frame with
      | none => cases hevent
      | some given =>
        cases hevent
        exact hfills clause hsome.symm event rfl

/-- The results that an engine delivers have a value for each parameter of the query that they are
for. -/
def Deliveries.Fill (ctx : Context) (deliveries : Deliveries) (queries : List CompiledClause) :
    Prop :=
  ∀ query ∈ queries, ∀ seen env world, ∀ result ∈ deliveries.results
      (seen ++ [.passed (.ok env)] ++
        [.inputs ((query.invocation.evaluateInputs env).attempt world).1]),
    result.2.Fills ctx query.invocation.channel

lemma driveQueries_shows {deliveries : Deliveries} {outputs : List CompiledOutput}
    {queries : List CompiledClause} (hfill : deliveries.Fill ctx queries)
    (way : Except RuntimeError Env) :
    Shows (SeesOn ctx outputs queries way) (driveQueries deliveries outputs queries way) := by
  induction queries generalizing way with
  | nil =>
    cases way with
    | error e => exact shows_see (.passed [] _)
    | ok env =>
      rw [driveQueries]
      refine (shows_see (.passed [] _)).next (shows_forM fun output houtput => ?_)
      exact shows_lift fun world => shows_see (.produced world houtput)
  | cons query rest ih =>
    cases way with
    | error e => exact shows_see (.passed _ _)
    | ok env =>
      have hlater : deliveries.Fill ctx rest := fun q hq => hfill q (List.mem_cons_of_mem _ hq)
      intro watch sight h
      let inputs := ((query.invocation.evaluateInputs env).attempt
        (deliveries.changes (watch.seen ++ [.passed (.ok env)]) watch.world)).1
      let seen := watch.seen ++ [.passed (.ok env)] ++ [.inputs inputs]
      have hresults : Shows (SeesOn ctx outputs (query :: rest) (.ok env))
          ((deliveries.results seen).forM fun result =>
            (query.filter.cursor (env.setQuery result.1 result.2)).visit
              (driveQueries deliveries outputs rest)) := by
        refine shows_forM fun result hresult => ?_
        rw [Filter.cursor, Chain.Cursor.visit_start]
        refine shows_visit _ _ (List.forall_mem_singleton.2 fun way hway => ?_)
        intro watch' sight hsight
        have hfills := hfill query List.mem_cons_self watch.seen env _ result hresult
        exact (ih hlater way watch' sight hsight).imp_right
          fun hsees => .result result.1 hfills hway hsees
      rw [driveQueries] at h
      rcases hresults ⟨_, seen⟩ sight h with h | h
      · rw [List.mem_append, List.mem_append, List.mem_singleton, List.mem_singleton] at h
        rcases h with (h | rfl) | rfl
        · exact .inl h
        · exact .inr (.passed _ _)
        · exact .inr (.inputs _)
      · exact .inr h

/-- What an engine sees of a rule is what can be seen of it. -/
lemma sees_of_mem_drive {deliveries : Deliveries} (hfill : deliveries.Fill ctx code.queries)
    (hevent : ∀ trigger ∈ code.trigger, ∀ event ∈ deliveries.trigger.or env.trigger,
      event.Fills ctx trigger.invocation.channel) {world : World} {sight : Sight}
    (h : sight ∈ code.drive deliveries env world) : code.Sees ctx env sight := by
  have harrived : deliveries.trigger.elim env env.setTrigger =
      { env with trigger := deliveries.trigger.or env.trigger } := by
    cases deliveries.trigger <;> rfl
  have hshows : Shows (code.Sees ctx env) (code.watch deliveries env) := by
    rw [CompiledRule.watch, harrived, Filter.cursor, Chain.Cursor.visit_start]
    refine Shows.next ?_ (shows_visit _ _ (List.forall_mem_singleton.2 fun way hway => ?_))
    · cases htrigger : code.trigger with
      | none => exact fun _ _ hsight => .inl hsight
      | some trigger => exact shows_lift fun world => shows_see (.inputs world htrigger)
    · intro watch sight hsight
      exact (driveQueries_shows hfill way watch sight hsight).imp_right
        fun hsees => .event hevent hway hsees
  exact (hshows ⟨world, []⟩ sight h).resolve_left (List.not_mem_nil)

end Rules

/-- No compiled rule of a checked program meets a variable that is not set or a value that its event
does not have. This holds for all that can be seen of the rule, at every stage, and so for all that
an engine sees that delivers events with a value for each parameter. -/
theorem compileRule_allBound [PatternEngine] {kinds : Named KindSchemas} {program : Source.Program}
    {typed : Typed.Program} (h : (checkProgram kinds program).result = .ok typed)
    {rule : Typed.Rule} (hrule : rule ∈ typed.rules) {code : CompiledRule}
    (hcode : compileRule typed.params rule = .ok code) {env : Env}
    (hparams : ∀ param ∈ typed.params, Named.has env.params param.1 = true)
    (hformatters : env.FormattersBound) :
    (∀ sight, code.Sees ⟨kinds, typed.keywords⟩ env sight → sight.AllBound) ∧
      ∀ deliveries : Deliveries, deliveries.Fill ⟨kinds, typed.keywords⟩ code.queries →
        (∀ trigger ∈ code.trigger, ∀ event ∈ deliveries.trigger.or env.trigger,
          event.Fills ⟨kinds, typed.keywords⟩ trigger.invocation.channel) →
        ∀ world, ∀ sight ∈ code.drive deliveries env world, sight.AllBound := by
  have hscoped := (checkProgram_wellScoped h rule hrule).1
  have hcompiled := code?_of_compileRule hscoped hcode
  have hknows : env.Knows (typed.params.map Prod.fst) := by
    refine ⟨fun x hx => ?_, hformatters⟩
    obtain ⟨param, hparam, rfl⟩ := List.mem_map.1 hx
    obtain ⟨value, hvalue⟩ := Named.has_eq_true_iff.1 (hparams param hparam)
    unfold View.readVar
    cases Named.get? env.locals param.1 with
    | none => exact ⟨value, by rw [hvalue]⟩
    | some value => exact ⟨value, rfl⟩
  have hsees : ∀ sight, code.Sees ⟨kinds, typed.keywords⟩ env sight → sight.AllBound :=
    fun sight => sees_bound hcompiled hscoped (checkProgram_sound h rule hrule) hknows
  exact ⟨hsees, fun deliveries hfill hevent world sight hsight =>
    hsees sight (sees_of_mem_drive hfill hevent hsight)⟩

/-- A kind of device that receives messages and finds them by a tag. -/
def mailKind : Named KindSchemas :=
  [("com.mail", ⟨[("received", ⟨["sender", "tags"], [.string, .array .string], "", "", ""⟩)],
    [("search", ⟨["tag", "subject"], [.string, .string], "", "", ""⟩)], []⟩)]

/-- A rule that searches for the messages on a topic with the tags of a new one, and shows what it
finds. -/
def sameTopic : Source.Program :=
  ⟨"topic", [("topic", .string)], [.rule
    [.invocation ⟨.globalName "com.mail", "received", [.null, .var "tags"]⟩,
      .predicate (.call "contains" [.var "tags", .var "tag"])]
    [[.invocation ⟨.globalName "com.mail", "search", [.var "tag", .var "subject"]⟩,
      .predicate (.binary "=" (.var "subject") (.var "topic"))]]
    [.invocation ⟨.builtin, "logger", [.call "eventToString" []]⟩]]⟩

/-- A formatter that counts the messages that it formats in a keyword. -/
def countingMail : Formatter := fun _ _ view => do
  match ← Eval.readKeyword "mails" with
  | .number x => view.writeKeyword "mails" (.number (x + 1))
  | _ => throw (.format "no count")
  return [.text "mail"]

/-- A message with two tags, and one search result for each of them. -/
theorem compileRule_allBound_sameTopic :
    ∃ typed rule code env deliveries, (checkProgram mailKind sameTopic).result = .ok typed ∧
      rule ∈ typed.rules ∧ compileRule typed.params rule = .ok code ∧
      (∀ param ∈ typed.params, Named.has env.params param.1 = true) ∧ env.FormattersBound ∧
      env.formatters ≠ [] ∧ deliveries.Fill ⟨mailKind, typed.keywords⟩ code.queries ∧
      ∀ world, ∀ sight ∈ code.drive deliveries env world, sight.AllBound := by
  let received : ChannelRef := ⟨.globalName "com.mail", "com.mail", "received", .triggers⟩
  let search : ChannelRef := ⟨.globalName "com.mail", "com.mail", "search", .queries⟩
  have h : (checkProgram mailKind sameTopic).result = .ok ⟨"topic", [("topic", .string)], [], [
      ⟨0, none, some [
        .invocation ⟨received, [none, some (.declare "tags" (.array .string))],
          [.string, .array .string]⟩,
        .predicate (.contains (.var (.array .string) "tags") (.declare "tag" .string))],
        [[.invocation ⟨search, [some (.expect (.var .string "tag")),
            some (.declare "subject" .string)], [.string, .string]⟩,
          .predicate (.test (.binary .boolean ⟨"=", 0, .calculation .equal⟩
            (.var .string "subject") (.var .string "topic")))]],
        [.invocation ⟨.builtin, Selector.builtinKind, "logger", .actions⟩
          [some (.call .string ⟨"eventToString", 0, .rendering .eventText⟩ [])]]⟩]⟩ := by cbv
  let env : Env := { Env.ofSettings .default with
    params := [("topic", .string "lunch")], formatters := [("com.mail", countingMail)] }
  let deliveries : Deliveries :=
    { trigger := some ⟨received, [.string "ada", .array [.string "food", .string "work"]]⟩
      results := fun _ => [([], ⟨search, [.string "food", .string "lunch"]⟩)]
      changes := fun seen world => { world with
        cells := Named.insert world.cells "mails" (.number seen.length.toFloat) } }
  have hparams : ∀ param ∈ [("topic", Ty.string)], Named.has env.params param.1 = true := by
    rintro param hparam
    cases List.mem_singleton.1 hparam
    rfl
  have hformatters : env.FormattersBound := by
    rintro entry hentry frame hint view
    cases List.mem_singleton.1 hentry
    have hread : Eval.AllBound (Eval.readKeyword "mails") := Code.readKeyword_ensures rfl
    refine hread.bind fun value _ => ?_
    cases value with
    | number x =>
      refine Eval.Ensures.bind (Eval.ensures_writeKeyword (fun _ _ => trivial) rfl) fun _ _ => ?_
      exact Eval.ensures_pure trivial
    | _ => exact Eval.ensures_throw rfl
  have hreceived : ∀ types, received.schema? ⟨mailKind, []⟩ = some types → types.length ≤ 2 := by
    rintro types ⟨⟩
    exact le_rfl
  have hsearch : ∀ types, search.schema? ⟨mailKind, []⟩ = some types → types.length ≤ 2 := by
    rintro types ⟨⟩
    exact le_rfl
  refine ⟨_, _, _, env, deliveries, h, List.mem_cons_self, rfl, hparams, hformatters,
    List.cons_ne_nil _ _, ?fill, (compileRule_allBound h List.mem_cons_self rfl hparams
      hformatters).2 deliveries ?fill ?event⟩
  case fill =>
    intro query hquery seen env world result hresult
    cases List.mem_singleton.1 hquery
    cases List.mem_singleton.1 hresult
    exact hsearch
  case event =>
    rintro trigger ⟨⟩ event ⟨⟩
    exact hreceived

end ChannelRules
