import ChannelRules.Pattern.Machine
import ChannelRules.Proofs.Check.Declared
import ChannelRules.Proofs.Code.Accepted
import ChannelRules.Proofs.Code.Prefilter
import ChannelRules.Proofs.Code.Step

/-!
# The parameters of an invocation

Each parameter of an invocation is open, becomes a variable, is an input or is checked when the event
has arrived, and never two of these. The step of the invocation takes all variables from the event
before the first check.
-/

namespace ChannelRules

open Typed Typed.Touch

/-- What a compiled invocation does with the parameter at one place. -/
@[ext]
structure Treatment where
  input : Option Code
  names : List String
  checks : List Code

def CompiledInvocation.treatment (invocation : CompiledInvocation) (place : Nat) : Treatment where
  input := invocation.inputs[place]?.join
  names := entriesAt invocation.assigned place
  checks := entriesAt invocation.checks place

instance (i : Invocation) (expr : Expr) : Decidable (i.Delays expr) :=
  inferInstanceAs (Decidable (∃ x ∈ expr.vars, _))

/-- What has to be done with a parameter, or with a place that has none. -/
def Typed.Invocation.treatment (i : Invocation) : Option Binder → Treatment
  | none => ⟨none, [], []⟩
  | some (.declare name _) => ⟨none, [name], []⟩
  | some (.expect expr) =>
    if i.Delays expr then ⟨none, [], [expr.code]⟩ else ⟨some expr.code, [], []⟩

section Treatments

variable {names : List String} {i : Invocation}

lemma treatment_code_slot (place : Nat) : (i.code names).treatment place =
    ⟨(i.params[place]?.map (slot names)).bind Slot.input?,
      ((i.params[place]?.map (slot names)).bind Slot.assigned?).toList,
      ((i.params[place]?.map (slot names)).bind
        fun slot => slot.deferred?.map Expr.code).toList⟩ := by
  have hslot : (i.params.map (slot names))[place]? = i.params[place]?.map (slot names) :=
    List.getElem?_map
  ext1
  · rw [CompiledInvocation.treatment, inputs_getElem?]
    cases i.params[place]? <;> rfl
  · have h := entriesAt_placed Slot.assigned? (i.params.map (slot names)) 0 place
    rwa [Nat.zero_add, ← assignedSlots_eq_placed, hslot] at h
  · have h := entriesAt_placed (fun slot => slot.deferred?.map Expr.code)
      (i.params.map (slot names)) 0 place
    rwa [Nat.zero_add, ← map_placed, ← deferredSlots_eq_placed, hslot] at h

/-- Every parameter of a well scoped invocation is treated as its form asks for. -/
lemma treatment_code (hscoped : Scoped names (Part.invocation i).touches) (place : Nat) :
    (i.code names).treatment place = i.treatment i.params[place]?.join := by
  rw [treatment_code_slot]
  match hparam : i.params[place]? with
  | none => rfl
  | some none => rfl
  | some (some (.declare name ty)) => rfl
  | some (some (.expect expr)) =>
    have hdelays := all_contains_eq_false_iff hscoped (List.mem_of_getElem? hparam)
    simp only [Option.map_some, Option.join_some, slot, Invocation.treatment]
    by_cases hlate : i.Delays expr
    · rw [if_pos hlate, hdelays.2 hlate]
      rfl
    · rw [if_neg hlate, Bool.of_not_eq_false (mt hdelays.1 hlate)]
      rfl

lemma checked_pairwise : (i.code names).checked.Pairwise (· < ·) := by
  have h := placed_pairwise Slot.deferred? (i.params.map (slot names)) 0
  rw [← deferredSlots_eq_placed] at h
  simpa [CompiledInvocation.checked, Invocation.code, Function.comp_def] using h

end Treatments

/-- An event has a value for each variable. -/
def Frame.Provides (frame : Frame) (assigned : List (Nat × String)) : Prop :=
  ∀ entry ∈ assigned, ∃ v, frame.values[entry.1]? = some v

/-- The environment with all variables taken from an event. -/
def Frame.bind (frame : Frame) (assigned : List (Nat × String)) (env : Env) : Env :=
  assigned.foldl (fun env entry =>
    match frame.values[entry.1]? with
    | some v => env.setVar entry.2 v
    | none => env) env

section Comparisons

variable [PatternEngine]

/-- Both sides of a check can be computed, which leads from one world to another, and comparing them
gives the given result. -/
def Frame.Compares (frame : Frame) (env : Env) (result : Bool) (check : Nat × Code) (w w' : World) :
    Prop :=
  ∃ expected v, check.2.run env w = .ok expected w' ∧ frame.values[check.1]? = some v ∧
    expected.alike v = result

/-- All checks are passed, one after the other. -/
inductive Frame.Meets (frame : Frame) (env : Env) : List (Nat × Code) → World → World → Prop
  | nil (w : World) : frame.Meets env [] w w
  | cons {check : Nat × Code} {rest : List (Nat × Code)} {w v w' : World}
    (hcheck : frame.Compares env true check w v) (hrest : frame.Meets env rest v w') :
    frame.Meets env (check :: rest) w w'

/-- The first check that is not passed compares different values. -/
def Frame.Rejects (frame : Frame) (env : Env) (checks : List (Nat × Code)) (w w' : World) : Prop :=
  ∃ passed check rest v, checks = passed ++ check :: rest ∧ frame.Meets env passed w v ∧
    frame.Compares env false check v w'

end Comparisons

section Steps

variable {frame : Frame} {env env' : Env} {w w' : World}

lemma Frame.get_eq_ok {index : Nat} {v : Value} :
    frame.get index = .ok v ↔ frame.values[index]? = some v := by
  unfold Frame.get
  cases frame.values[index]? with
  | none => simp
  | some w => simp

lemma takeVars_eq_ok {assigned : List (Nat × String)} :
    Step.takeVars frame assigned env = .ok env' ↔
      frame.Provides assigned ∧ env' = frame.bind assigned env := by
  induction assigned generalizing env with
  | nil => simp [Step.takeVars, Frame.Provides, Frame.bind, eq_comm]
  | cons entry rest ih =>
    obtain ⟨index, name⟩ := entry
    simp only [Step.takeVars, bind_eq_ok, Frame.get_eq_ok, ih]
    constructor
    · rintro ⟨v, hv, hrest, rfl⟩
      refine ⟨List.forall_mem_cons.2 ⟨⟨v, hv⟩, hrest⟩, ?_⟩
      simp [Frame.bind, hv]
    · rintro ⟨hprovides, rfl⟩
      obtain ⟨⟨v, hv⟩, hrest⟩ := List.forall_mem_cons.1 hprovides
      refine ⟨v, hv, hrest, ?_⟩
      simp [Frame.bind, hv]

variable [PatternEngine]

lemma checkValues_cons {check : Nat × Code} {rest : List (Nat × Code)} {b : Bool} :
    Step.checkValues frame env (check :: rest) w = .ok b w' ↔
      (∃ v, frame.Compares env true check w v ∧ Step.checkValues frame env rest v = .ok b w') ∨
        (frame.Compares env false check w w' ∧ b = false) := by
  obtain ⟨index, code⟩ := check
  simp only [Step.checkValues, state_bind_eq_ok, Eval.ofExcept_eq_ok, Frame.get_eq_ok,
    Frame.Compares]
  constructor
  · rintro ⟨expected, v, hexpected, value, u, ⟨hvalue, rfl⟩, h⟩
    cases halike : expected.alike value with
    | true =>
      rw [halike, if_pos rfl] at h
      exact .inl ⟨v, ⟨expected, value, hexpected, hvalue, halike⟩, h⟩
    | false =>
      rw [halike] at h
      obtain ⟨rfl, rfl⟩ := state_pure_eq_ok.1 h
      exact .inr ⟨⟨expected, value, hexpected, hvalue, halike⟩, rfl⟩
  · rintro (⟨v, ⟨expected, value, hexpected, hvalue, halike⟩, h⟩ |
      ⟨⟨expected, value, hexpected, hvalue, halike⟩, rfl⟩)
    · exact ⟨expected, v, hexpected, value, v, ⟨hvalue, rfl⟩, by rwa [halike, if_pos rfl]⟩
    · exact ⟨expected, w', hexpected, value, w', ⟨hvalue, rfl⟩, by rw [halike]; rfl⟩

lemma checkValues_eq_true {checks : List (Nat × Code)} :
    Step.checkValues frame env checks w = .ok true w' ↔ frame.Meets env checks w w' := by
  induction checks generalizing w with
  | nil =>
    constructor
    · rintro ⟨⟩
      exact .nil _
    · rintro ⟨⟩
      rfl
  | cons check rest ih =>
    simp only [checkValues_cons, ih, Bool.true_eq_false, and_false, or_false]
    constructor
    · rintro ⟨v, hcheck, hrest⟩
      exact .cons hcheck hrest
    · rintro (_ | ⟨hcheck, hrest⟩)
      exact ⟨_, hcheck, hrest⟩

lemma checkValues_eq_false {checks : List (Nat × Code)} :
    Step.checkValues frame env checks w = .ok false w' ↔ frame.Rejects env checks w w' := by
  induction checks generalizing w with
  | nil => simp [Step.checkValues, Frame.Rejects, state_pure_eq_ok]
  | cons check rest ih =>
    simp only [checkValues_cons, ih, and_true]
    constructor
    · rintro (⟨v, hpassed, passed, failed, later, u, rfl, hmeets, hfailed⟩ | hfailed)
      · exact ⟨check :: passed, failed, later, u, rfl, .cons hpassed hmeets, hfailed⟩
      · exact ⟨[], check, rest, w, rfl, .nil w, hfailed⟩
    · rintro ⟨passed, failed, later, u, hsplit, hmeets, hfailed⟩
      cases hmeets with
      | nil =>
        cases hsplit
        exact .inr hfailed
      | @cons first passed _ v _ hfirst hmeets =>
        cases hsplit
        exact .inl ⟨v, hfirst, passed, failed, later, u, rfl, hmeets, hfailed⟩

lemma bindEvent_eq_ok {source : EventSource} {assigned : List (Nat × String)}
    {checks : List (Nat × Code)} (hframe : source.frame env = .ok frame) {verdict : Option Env} :
    Step.bindEvent source assigned checks env w = .ok verdict w' ↔ frame.Provides assigned ∧
      ((verdict = some (frame.bind assigned env) ∧
          frame.Meets (frame.bind assigned env) checks w w') ∨
        (verdict = none ∧ frame.Rejects (frame.bind assigned env) checks w w')) := by
  simp only [Step.bindEvent, hframe, Eval.ofExcept_ok, pure_bind, state_bind_eq_ok,
    Eval.ofExcept_eq_ok, takeVars_eq_ok, Step.verdictOf, Eval.map_eq_ok, ← checkValues_eq_true,
    ← checkValues_eq_false]
  constructor
  · rintro ⟨bound, v, ⟨⟨hprovides, rfl⟩, rfl⟩, passed, hpassed, rfl⟩
    refine ⟨hprovides, ?_⟩
    cases passed with
    | true => exact .inl ⟨rfl, hpassed⟩
    | false => exact .inr ⟨rfl, hpassed⟩
  · rintro ⟨hprovides, ⟨rfl, hpassed⟩ | ⟨rfl, hpassed⟩⟩
    · exact ⟨_, w, ⟨⟨hprovides, rfl⟩, rfl⟩, true, hpassed, rfl⟩
    · exact ⟨_, w, ⟨⟨hprovides, rfl⟩, rfl⟩, false, hpassed, rfl⟩

/-- The step of an event passes on the environment with all variables exactly if all checks are
passed, nothing exactly if the first check that is not passed compares different values, and one
failure otherwise. -/
lemma run_event {source : EventSource} (assigned : List (Nat × String)) (checks : List (Nat × Code))
    (hframe : source.frame env = .ok frame) (w : World) :
    (∀ env' w', (Step.event source assigned checks).run env w = ([.ok env'], w') ↔
      env' = frame.bind assigned env ∧ frame.Provides assigned ∧
        frame.Meets (frame.bind assigned env) checks w w') ∧
    (∀ w', (Step.event source assigned checks).run env w = ([], w') ↔
      frame.Provides assigned ∧ frame.Rejects (frame.bind assigned env) checks w w') ∧
    ((∃ e, ((Step.event source assigned checks).run env w).1 = [.error e]) ↔
      ¬ (∃ env', ((Step.event source assigned checks).run env w).1 = [.ok env']) ∧
        ((Step.event source assigned checks).run env w).1 ≠ []) := by
  have hrun : (Step.event source assigned checks).run env w = _ := Step.run_of_verdict rfl w
  have hpassed : ∀ env' w', Step.bindEvent source assigned checks env w = .ok (some env') w' ↔
      env' = frame.bind assigned env ∧ frame.Provides assigned ∧
        frame.Meets (frame.bind assigned env) checks w w' := fun env' w' => by
    simp [bindEvent_eq_ok hframe, and_left_comm]
  have hrejected : ∀ w', Step.bindEvent source assigned checks env w = .ok none w' ↔
      frame.Provides assigned ∧ frame.Rejects (frame.bind assigned env) checks w w' := fun w' => by
    simp [bindEvent_eq_ok hframe]
  simp only [← hpassed, ← hrejected]
  rw [hrun]
  rcases Step.bindEvent source assigned checks env w with ⟨_ | found, v⟩ | ⟨e, v⟩ <;> simp [Id]

end Steps

namespace Typed

section Folded

variable [PatternEngine]

lemma mem_foldAll {constants : Named Expr} {parts : List Part} {part : Part}
    (h : part ∈ (Part.foldAll constants parts).1) :
    ∃ old ∈ parts, ∃ known, part = old.fold known := by
  induction parts generalizing constants with
  | nil => cases h
  | cons first rest ih =>
    rw [foldAll_cons, List.mem_cons] at h
    rcases h with rfl | h
    · exact ⟨first, List.mem_cons_self, constants, rfl⟩
    · obtain ⟨old, hold, hfold⟩ := ih h
      exact ⟨old, List.mem_cons_of_mem _ hold, hfold⟩

lemma mem_foldClauses {constants : Named Expr} {clauses : List (List Part)} {part : Part}
    (h : part ∈ (foldClauses constants clauses).1.flatten) :
    ∃ old ∈ clauses.flatten, ∃ known, part = old.fold known := by
  induction clauses generalizing constants with
  | nil => cases h
  | cons parts rest ih =>
    rw [foldClauses_cons, List.flatten_cons, List.mem_append] at h
    rw [List.flatten_cons]
    rcases h with h | h
    · obtain ⟨old, hold, hfold⟩ := mem_foldAll h
      exact ⟨old, List.mem_append_left _ hold, hfold⟩
    · obtain ⟨old, hold, hfold⟩ := ih h
      exact ⟨old, List.mem_append_right _ hold, hfold⟩

/-- Every part of a folded rule is a folded part of the rule. -/
lemma mem_inputParts_fold {rule : Rule} {part : Part} (h : part ∈ rule.fold.inputParts) :
    ∃ old ∈ rule.inputParts, ∃ known, part = old.fold known := by
  rw [Rule.inputParts, fold_eq, List.mem_append] at h
  rcases h with h | h
  · cases htrigger : rule.trigger with
    | none =>
      rw [htrigger] at h
      cases h
    | some parts =>
      rw [htrigger] at h
      obtain ⟨old, hold, hfold⟩ := mem_foldAll h
      exact ⟨old, List.mem_append_left _ (by rwa [htrigger, Option.getD_some]), hfold⟩
  · obtain ⟨old, hold, hfold⟩ := mem_foldClauses h
    exact ⟨old, List.mem_append_right _ hold, hfold⟩

end Folded

lemma Rule.WellScoped.invocation {names : List String} {rule : Rule} (h : rule.WellScoped names)
    {before after : List Part} {i : Invocation}
    (hparts : rule.inputParts = before ++ .invocation i :: after) :
    Scoped (names ++ declared (before.flatMap Part.touches)) (Part.invocation i).touches := by
  have hinputs : Scoped names (rule.inputParts.flatMap Part.touches) := by
    rw [Rule.inputParts, List.flatMap_append, scoped_append]
    exact ⟨h.parts.1, h.parts.2.1⟩
  rw [hparts, List.flatMap_append, scoped_append, List.flatMap_cons, scoped_append] at hinputs
  exact hinputs.2.1

end Typed

lemma SoundParts.of_mem {ctx : Context} {scope : Scope} {parts : List Part}
    (h : SoundParts ctx scope parts) {part : Part} (hpart : part ∈ parts) :
    ∃ scope, SoundPart ctx scope part := by
  induction h with
  | nil => cases hpart
  | @cons scope _ first rest hfirst _ _ ih =>
    rcases List.mem_cons.1 hpart with rfl | hpart
    · exact ⟨scope, hfirst⟩
    · exact ih hpart

section Programs

variable {kinds : Named KindSchemas} {program : Source.Program} {typed : Typed.Program}
  {rule version : Rule}

lemma checkProgram_schema (h : (checkProgram kinds program).result = .ok typed)
    (hrule : rule ∈ typed.rules) {i : Invocation} (hi : .invocation i ∈ rule.inputParts) :
    ∃ types, i.channel.schema? ⟨kinds, typed.keywords⟩ = some types ∧
      i.params.length = types.length := by
  have hclause : ∃ parts ∈ rule.clauses, .invocation i ∈ parts := by
    rcases List.mem_append.1 hi with hi | hi
    · cases htrigger : rule.trigger with
      | none =>
        rw [htrigger] at hi
        cases hi
      | some parts =>
        rw [htrigger, Option.getD_some] at hi
        exact ⟨parts, List.mem_append_left _ (by rw [htrigger]; exact List.mem_cons_self), hi⟩
    · obtain ⟨parts, hparts, hi⟩ := List.mem_flatten.1 hi
      exact ⟨parts, List.mem_append_right _ hparts, hi⟩
  obtain ⟨parts, hparts, hi⟩ := hclause
  obtain ⟨scope, hsound⟩ := checkProgram_sound h rule hrule parts hparts
  obtain ⟨scope', hpart⟩ := hsound.of_mem hi
  cases hpart with
  | invocation hschema hlength _ => exact ⟨_, hschema, hlength⟩

variable [PatternEngine]

/-- The invocations of a checked rule have as many parameters as their channels, folded or not. -/
lemma checkProgram_schema_version (h : (checkProgram kinds program).result = .ok typed)
    (hrule : rule ∈ typed.rules) (hversion : version = rule ∨ version = rule.fold)
    {i : Invocation} (hi : .invocation i ∈ version.inputParts) :
    ∃ types, i.channel.schema? ⟨kinds, typed.keywords⟩ = some types ∧
      i.params.length = types.length := by
  rcases hversion with rfl | rfl
  · exact checkProgram_schema h hrule hi
  · obtain ⟨old, hold, known, hfold⟩ := mem_inputParts_fold hi
    cases old with
    | invocation j =>
      cases hfold
      obtain ⟨types, hschema, hlength⟩ := checkProgram_schema h hrule hold
      exact ⟨types, hschema, by rw [List.length_map, hlength]⟩
    | binding _ _ => cases hfold
    | predicate _ => cases hfold
    | condition _ => cases hfold

/-- The parameters of an invocation are told apart. There is one input or open place for each
parameter of the channel; a parameter that is open is neither input nor variable nor check, a new
name is a variable only, an expression that reads a name of its own invocation is a check only, and
any other expression is an input only. With an event and from any world, the step of the invocation
passes on one environment, the one with the variables, exactly if the event has a value for each
variable and all checks are passed with these variables, one after the other; it passes on nothing
exactly if the first check that is not passed compares different values; and otherwise it fails once.
The variables in scope are the parameters of the program and
the names of the parts before. The rule can be folded or not. -/
theorem compileInvocation_partitions (h : (checkProgram kinds program).result = .ok typed)
    (hrule : rule ∈ typed.rules) (hversion : version = rule ∨ version = rule.fold)
    {before after : List Part} {i : Invocation}
    (hparts : version.inputParts = before ++ .invocation i :: after) {locals locals' : Locals}
    (hlocals : locals.Holds
      (typed.params.map Prod.fst ++ declared (before.flatMap Part.touches)))
    {compiled : CompiledInvocation} (hcompiled : compileInvocation i locals = .ok compiled locals') :
    (∃ types, i.channel.schema? ⟨kinds, typed.keywords⟩ = some types ∧
      i.params.length = types.length ∧ compiled.inputs.length = types.length) ∧
    (∀ place, compiled.treatment place = i.treatment i.params[place]?.join) ∧
    compiled.checked.Pairwise (· < ·) ∧
    ∀ (source : EventSource) (env : Env) (frame : Frame), source.frame env = .ok frame → ∀ w,
      (∀ env' w', (compiled.step source).run env w = ([.ok env'], w') ↔
        env' = frame.bind compiled.assigned env ∧ frame.Provides compiled.assigned ∧
          frame.Meets (frame.bind compiled.assigned env) compiled.checks w w') ∧
      (∀ w', (compiled.step source).run env w = ([], w') ↔ frame.Provides compiled.assigned ∧
        frame.Rejects (frame.bind compiled.assigned env) compiled.checks w w') ∧
      ((∃ e, ((compiled.step source).run env w).1 = [.error e]) ↔
        ¬ (∃ env', ((compiled.step source).run env w).1 = [.ok env']) ∧
          ((compiled.step source).run env w).1 ≠ []) := by
  have hwellScoped : version.WellScoped (typed.params.map Prod.fst) := by
    have hscoped := (checkProgram_wellScoped h rule hrule).1
    rcases hversion with rfl | rfl
    · exact hscoped
    · exact wellScoped_fold hscoped
  have hscoped := hwellScoped.invocation hparts
  have hi : .invocation i ∈ version.inputParts := by
    rw [hparts]
    exact List.mem_append_right _ List.mem_cons_self
  obtain ⟨types, hschema, hlength⟩ := checkProgram_schema_version h hrule hversion hi
  obtain ⟨rfl, -⟩ := compileInvocation_eq_ok hlocals hcompiled
  refine ⟨⟨types, hschema, hlength, ?_⟩, treatment_code hscoped, checked_pairwise,
    fun source env frame hframe w => run_event _ _ hframe w⟩
  rw [Invocation.code, List.length_map, List.length_map, hlength]

end Programs

/-- A rule that is triggered by greetings that people write to themselves, in whatever room. -/
def greeting : Source.Program :=
  ⟨"greeting", [], [.rule
    [.invocation ⟨.globalName "com.chat", "message",
      [.constant (.string "hello"), .var "sender", .var "sender"]⟩] []
    [.invocation ⟨.builtin, "notify", []⟩]]⟩

/-- The text is an input, the sender a variable, the receiver a check, and the room is open. An event
with another receiver is rejected; one without a receiver fails. -/
theorem compileInvocation_partitions_greeting :
    let kinds : Named KindSchemas :=
      [("com.chat", ⟨[("message", ⟨["text", "from", "to", "room"],
        [.string, .string, .string, .string], "", "", ""⟩)], [], []⟩)]
    ∃ typed rule i compiled locals, (checkProgram kinds greeting).result = .ok typed ∧
      rule ∈ typed.rules ∧ rule.fold.inputParts = [.invocation i] ∧
      compileInvocation i [] = .ok compiled locals ∧
      compiled.treatment 0 = ⟨some (.constant (.string "hello")), [], []⟩ ∧
      compiled.treatment 1 = ⟨none, ["sender"], []⟩ ∧
      compiled.treatment 2 = ⟨none, [], [.var "sender"]⟩ ∧
      compiled.treatment 3 = ⟨none, [], []⟩ ∧
      ∀ env frame w, env.trigger = some frame →
        (frame.values = [.string "hello", .string "a", .string "b", .string "lobby"] →
          (compiled.step .trigger).run env w = ([], w)) ∧
        (frame.values = [.string "hello", .string "a"] →
          ∃ e, ((compiled.step .trigger).run env w).1 = [.error e]) := by
  intro kinds
  let message : ChannelRef := ⟨.globalName "com.chat", "com.chat", "message", .triggers⟩
  let i : Invocation := ⟨message, [some (.expect (.constant .string (.string "hello"))),
    some (.declare "sender" .string), some (.expect (.var .string "sender")), none],
    [.string, .string, .string, .string]⟩
  have h : (checkProgram kinds greeting).result = .ok ⟨"greeting", [], [], [⟨0, none,
      some [.invocation i], [],
      [.invocation ⟨.builtin, Selector.builtinKind, "notify", .actions⟩ []]⟩]⟩ := by cbv
  have hlocals : Locals.Holds [] (([] : List (String × Ty)).map Prod.fst ++
      declared (([] : List Part).flatMap Part.touches)) := by simp [Locals.Holds, Named.has]
  have hparts : (Rule.fold ⟨0, none, some [.invocation i], [],
      [.invocation ⟨.builtin, Selector.builtinKind, "notify", .actions⟩ []]⟩).inputParts =
        [] ++ .invocation i :: [] := rfl
  obtain ⟨-, htreatment, -, hsteps⟩ :=
    compileInvocation_partitions h List.mem_cons_self (.inr rfl) hparts hlocals rfl
  refine ⟨_, _, i, _, _, h, List.mem_cons_self, rfl, rfl, htreatment 0, htreatment 1,
    htreatment 2, htreatment 3, fun env frame w htrigger => ?_⟩
  obtain ⟨hpasses, hrejects, hfails⟩ :=
    hsteps .trigger env frame (by rw [EventSource.frame, htrigger]; rfl) w
  constructor
  · intro hvalues
    refine (hrejects w).2 ⟨?_, [], (2, .var "sender"), [], w, rfl, .nil w, ?_⟩
    · exact List.forall_mem_singleton.2 ⟨.string "a", by rw [hvalues]; rfl⟩
    · refine ⟨.string "a", .string "b", ?_, by rw [hvalues]; rfl, by rfl⟩
      have hbound : frame.bind [(1, "sender")] env = env.setVar "sender" (.string "a") := by
        simp [Frame.bind, hvalues]
      change Code.run (frame.bind [(1, "sender")] env) (.var "sender") w = _
      rw [hbound, Code.run, Env.readVar_setVar]
      rfl
  · intro hvalues
    have hmissing : ∀ env b v v', ¬ frame.Compares env b (2, .var "sender") v v' := by
      rintro env b v v' ⟨-, value, -, hvalue, -⟩
      rw [hvalues] at hvalue
      cases hvalue
    refine hfails.2 ⟨?_, fun hrejected => ?_⟩
    · rintro ⟨env', hpassed⟩
      obtain ⟨-, -, hmeets⟩ := (hpasses env' _).1 (Prod.ext hpassed rfl)
      cases hmeets with
      | cons hcheck _ => exact hmissing _ _ _ _ hcheck
    · obtain ⟨-, passed, check, rest, v, hsplit, -, hfailed⟩ := (hrejects _).1 (Prod.ext hrejected rfl)
      have hcheck : check ∈ passed ++ check :: rest := by simp
      rw [← hsplit] at hcheck
      rw [List.mem_singleton.1 hcheck] at hfailed
      exact hmissing _ _ _ _ hfailed

end ChannelRules
