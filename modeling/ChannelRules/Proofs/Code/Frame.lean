import ChannelRules.Proofs.Code.Kept
import ChannelRules.Proofs.Code.Locals

/-!
# Filters add the names of their clause and nothing else

An environment that passes the filter of a trigger or query has the parameters, formatters, settings
and events of the environment that went in, and its variables except for the names that the clause
declares. The ways through one filter differ from each other in these names only, also when they
have parted at a choice of elements. Filters, inputs and values of actions leave the keyword cells
as they are, unless a formatter writes one.
-/

namespace ChannelRules

open Typed Typed.Touch

lemma Env.SameExcept.symm {names : List String} {env env' : Env} (h : env.SameExcept names env') :
    env'.SameExcept names env := by
  constructor
  · calc { env with locals := env'.locals }
        = { ({ env' with locals := env.locals } : Env) with locals := env'.locals } := by rw [h.rest]
      _ = env' := rfl
  · intro x hx
    exact (h.locals x hx).symm

/-- Environments that differ from one environment in some names differ from each other in these. -/
lemma Env.SameExcept.branches {names : List String} {env env₁ env₂ : Env}
    (h₁ : env.SameExcept names env₁) (h₂ : env.SameExcept names env₂) :
    env₁.SameExcept names env₂ :=
  (h₁.symm.trans h₂).mono fun _ hx => (List.mem_append.1 hx).elim id id

/-- The formatters of an environment format events and do nothing else: they write no keyword cell,
whether they fail or not. -/
def Env.FormattersWriteNothing (env : Env) : Prop :=
  ∀ entry ∈ env.formatters, ∀ frame hint view w,
    ((entry.2 frame hint view).attempt w).2.cells = w.cells

lemma Env.FormattersWriteNothing.keep {env : Env} (h : env.FormattersWriteNothing)
    (cells : Named Value) : env.FormattersKeep (· = cells) := by
  intro entry hentry frame hint view w hw
  have hsame := h entry hentry frame hint view w
  unfold Eval.attempt at hsame
  cases hrun : entry.2 frame hint view w with
  | ok chunks v =>
    rw [hrun] at hsame
    exact ⟨hsame.trans hw, trivial⟩
  | error e v =>
    rw [hrun] at hsame
    exact ⟨hsame.trans hw, trivial⟩

/-- What passes the filter of a trigger or query, first or later, is the environment that went in
except for the variables that the clause declares by its invocation, its patterns, its choices of
elements and its bindings; so the ways through the filter differ in these variables only. The filter,
the inputs and the values of actions write no keyword cell themselves, whether they fail or not:
what the formatters keep of the cells is kept, and all cells are as before if formatters only
format. -/
theorem compileClause_frame [PatternEngine] {source : EventSource} {parts : List Part}
    {locals locals' : Locals} {clause : CompiledClause}
    (h : compileClause source parts locals = .ok clause locals') :
    (∀ env env' w, .ok env' ∈ (clause.filter.matched env w).1 →
      env.SameExcept (declared (parts.flatMap Part.touches)) env') ∧
    (∀ env env' w, (clause.filter.firstMatch env w).1 = .ok (some env') →
      env.SameExcept (declared (parts.flatMap Part.touches)) env') ∧
    (∀ env env₁ env₂ w, .ok env₁ ∈ (clause.filter.matched env w).1 →
      .ok env₂ ∈ (clause.filter.matched env w).1 →
        env₁.SameExcept (declared (parts.flatMap Part.touches)) env₂) ∧
    (∀ (env : Env) (I : Named Value → Prop), env.FormattersKeep I → ∀ w, I w.cells →
      I (clause.filter.matched env w).2.cells ∧
      I (clause.filter.firstMatch env w).2.cells ∧
      I ((clause.invocation.evaluateInputs env).attempt w).2.cells ∧
      ∀ output : CompiledOutput, I ((output.produce env).attempt w).2.cells) ∧
    ∀ env : Env, env.FormattersWriteNothing → ∀ w,
      (clause.filter.matched env w).2.cells = w.cells ∧
      (clause.filter.firstMatch env w).2.cells = w.cells ∧
      ((clause.invocation.evaluateInputs env).attempt w).2.cells = w.cells ∧
      ∀ output : CompiledOutput, ((output.produce env).attempt w).2.cells = w.cells := by
  have hmatched : ∀ env env' w, .ok env' ∈ (clause.filter.matched env w).1 →
      env.SameExcept (declared (parts.flatMap Part.touches)) env' := by
    intro env env' w hpassed
    rw [compileClause_filter (Locals.holds_names locals) h] at hpassed
    exact matched_sameExcept hpassed
  have hkept : ∀ (env : Env) (I : Named Value → Prop), env.FormattersKeep I → ∀ w, I w.cells →
      I (clause.filter.matched env w).2.cells ∧
      I (clause.filter.firstMatch env w).2.cells ∧
      I ((clause.invocation.evaluateInputs env).attempt w).2.cells ∧
      ∀ output : CompiledOutput, I ((output.produce env).attempt w).2.cells := by
    intro env I hkeep w hw
    have hinputs := fun inputs =>
      ((CompiledInvocation.runInputs_keeps hkeep inputs).attempt (w := w) hw).1
    exact ⟨Filter.matched_keeps hkeep hw, Filter.firstMatch_keeps hkeep hw, hinputs _,
      fun _ => hinputs _⟩
  refine ⟨hmatched, fun env env' w hfirst => ?_, fun env env₁ env₂ w h₁ h₂ => ?_, hkept,
    fun env hnothing w => hkept env (· = w.cells) (hnothing.keep w.cells) w rfl⟩
  · exact hmatched env env' w (Filter.mem_matched_of_firstMatch hfirst)
  · exact (hmatched env env₁ w h₁).branches (hmatched env env₂ w h₂)

/-- Of three dishes the second is rejected; the other two are followed, each with its own dish, and
shown by a formatter that reads a keyword and writes none. -/
theorem compileClause_frame_threeDishes :
    ∃ (parts : List Part) (clause : CompiledClause) (locals : Locals) (env env₁ env₂ : Env) (w : World),
      compileClause .query parts [("guest", .string)] = .ok clause locals ∧
      declared (parts.flatMap Part.touches) = ["dishes", "dish", "menu"] ∧
      (clause.filter.matched env w).1 = [.ok env₁, .ok env₂] ∧
      env₁.readVar "dish" = .ok (.string "eggs") ∧ env₂.readVar "dish" = .ok (.string "beans") ∧
      env₂.readVar "menu" = .ok (.string "2") ∧
      env₁.SameExcept ["dishes", "dish", "menu"] env₂ ∧
      env.SameExcept ["dishes", "dish", "menu"] env₂ ∧
      env₂.readVar "guest" = env.readVar "guest" ∧
      env.formatters ≠ [] ∧ env.FormattersWriteNothing ∧
      (clause.filter.matched env w).2.cells = w.cells := by
  let channel : ChannelRef := ⟨.globalName "com.menu", "com.menu", "today", .queries⟩
  let liked : Value := .array [.string "eggs", .string "beans"]
  let shown : Op := ⟨"eventToString", 0, .rendering .eventText⟩
  let parts : List Part :=
    [.invocation ⟨channel, [some (.declare "dishes" (.array .string))], [.array .string]⟩,
      .predicate (.contains (.var (.array .string) "dishes") (.declare "dish" .string)),
      .predicate (.contains (.constant (.array .string) liked) (.expect (.var .string "dish"))),
      .binding "menu" (.call .string shown [])]
  let clause : CompiledClause :=
    ⟨⟨channel, [none], [(0, "dishes")], []⟩,
      [.event .query [(0, "dishes")] [], .each (.var "dishes") "dish",
        .member (.constant liked) (.var "dish"), .assign "menu" (.call shown [])]⟩
  let counted : Formatter := fun _ _ _ => do
    let count ← Eval.readKeyword "count"
    return [.text count.text]
  let dishes : Value := .array [.string "eggs", .string "spam", .string "beans"]
  let env : Env := { Env.ofSettings .default with
    locals := [("guest", .string "Ada")], query := some ⟨channel, [dishes]⟩,
    formatters := [("com.menu", counted)] }
  let w : World := ⟨[("count", .number 2)], fun _ => ⟨⟨0, 0⟩, 0.5, 0⟩, 0⟩
  let eggs : Env :=
    ((env.setVar "dishes" dishes).setVar "dish" (.string "eggs")).setVar "menu" (.string "2")
  let beans : Env :=
    ((env.setVar "dishes" dishes).setVar "dish" (.string "beans")).setVar "menu" (.string "2")
  have hclause : compileClause .query parts [("guest", .string)] = .ok clause
      [("dish", .string), ("dishes", .array .string), ("guest", .string), ("menu", .string)] := rfl
  have hmatched : (clause.filter.matched env w).1 = [.ok eggs, .ok beans] := by
    rw [Filter.matched_eq]
    rfl
  have heggs : .ok eggs ∈ (clause.filter.matched env w).1 := by
    rw [hmatched]
    exact List.mem_cons_self
  have hbeans : .ok beans ∈ (clause.filter.matched env w).1 := by
    rw [hmatched]
    exact List.mem_cons_of_mem _ List.mem_cons_self
  have hnothing : env.FormattersWriteNothing := by
    intro entry hentry frame hint view w
    cases List.mem_singleton.1 hentry
    have hread : Eval.Keeps (· = w.cells) (counted frame hint view) :=
      (Code.readKeyword_ensures trivial).bind fun count _ => Eval.ensures_pure trivial
    exact (hread.attempt rfl).1
  have hframe := compileClause_frame hclause
  have hsame := hframe.1 env beans w hbeans
  exact ⟨parts, clause, _, env, eggs, beans, w, hclause, rfl, hmatched, rfl, rfl, rfl,
    hframe.2.2.1 env eggs beans w heggs hbeans, hsame, hsame.readVar_eq (by decide),
    List.cons_ne_nil _ _, hnothing, (hframe.2.2.2.2 env hnothing w).1⟩

end ChannelRules
