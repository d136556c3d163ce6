import ChannelRules.Pattern.Machine
import ChannelRules.Proofs.Builtin.Conditions
import ChannelRules.Proofs.Check.Declared
import ChannelRules.Proofs.Check.Plain
import ChannelRules.Proofs.Code.Clause
import ChannelRules.Proofs.Fold.Filter

/-!
# Conditions that are predicates and expressions

A pattern test without places for groups and a containment test for a given element can be written
as a predicate of a trigger or query and as an expression. The two forms are accepted alike, although
they are typed in two different ways, and they compile to code that does the same.
-/

namespace ChannelRules

open Typed (Expr Binder Predicate)

/-- A check that leaves the names in scope as they are and whose result depends on them only. -/
def Check.AmountsTo {α : Type} (x : Check α) (scope : Scope) (r : Except CheckError α) : Prop :=
  ∀ s, s.scope = scope → ∃ s', s'.scope = scope ∧
    x s = match r with
      | .ok a => .ok a s'
      | .error e => .error e s'

namespace Check

variable {α β : Type} {scope : Scope} {x : Check α} {r : Except CheckError α}

lemma amountsTo_pure (a : α) : AmountsTo (pure a) scope (.ok a) := fun s hs => ⟨s, hs, rfl⟩

lemma amountsTo_throw (e : CheckError) : AmountsTo (throw e : Check α) scope (.error e) :=
  fun s hs => ⟨s, hs, rfl⟩

lemma amountsTo_ofNoted (x : Noted CheckError α) : AmountsTo (ofNoted x) scope x.result := by
  intro s hs
  refine ⟨{ s with notices := s.notices ++ x.notices }, hs, ?_⟩
  unfold ofNoted
  cases x.result <;> rfl

/-- What is done with the names in scope is done with the given ones. -/
lemma amountsTo_scope_bind {f : Scope → Check α} (h : AmountsTo (f scope) scope r) :
    AmountsTo (Check.scope >>= f) scope r := by
  intro s hs
  obtain ⟨s', hs', hrun⟩ := h s hs
  refine ⟨s', hs', ?_⟩
  rw [← hrun, ← hs]
  rfl

lemma AmountsTo.bind (hx : AmountsTo x scope r) {f : α → Check β} {g : α → Except CheckError β}
    (hf : ∀ a, AmountsTo (f a) scope (g a)) : AmountsTo (x >>= f) scope (r >>= g) := by
  intro s hs
  obtain ⟨s', hs', hrun⟩ := hx s hs
  change ∃ t : CheckState, t.scope = scope ∧ EStateM.bind x f s = _
  rw [EStateM.bind, hrun]
  cases r with
  | ok a => exact hf a s' hs'
  | error e => exact ⟨s', hs', rfl⟩

/-- A check is passed with a result exactly if it amounts to that result. -/
lemma AmountsTo.ok_iff (hx : AmountsTo x scope r) {s : CheckState} (hs : s.scope = scope) {a : α} :
    (∃ s', x s = .ok a s') ↔ r = .ok a := by
  obtain ⟨s', -, hrun⟩ := hx s hs
  rw [hrun]
  cases r <;> simp

variable {ctx : Context}

lemma amountsTo_expr (e : Source.Expr) :
    AmountsTo (expr ctx e) scope (checkExpr scope ctx.keywords e).result :=
  amountsTo_scope_bind (amountsTo_ofNoted _)

lemma amountsTo_agree (a b : Ty) (reason : TypeError → CheckError) :
    AmountsTo (agree a b reason) scope ((Ty.agree a b).result.mapError reason) :=
  amountsTo_ofNoted _

end Check

section Accepted

variable {ctx : Context} {scope : Scope}

/-- An expression that is read as a text. -/
def textOf (scope : Scope) (keywords : Named Ty) (e : Source.Expr) : Except CheckError Expr := do
  let typed ← (checkExpr scope keywords e).result
  if isTextual typed.ty then return typed
  else throw (.noMatchingOverload "regex" [.string, typed.ty])

lemma amountsTo_checkText (e : Source.Expr) :
    (checkText ctx e).AmountsTo scope (textOf scope ctx.keywords e) := by
  refine (Check.amountsTo_expr e).bind fun typed => ?_
  split
  · exact Check.amountsTo_pure typed
  · exact Check.amountsTo_throw _

lemma textOf_eq_ok {keywords : Named Ty} {e : Source.Expr} {te : Expr} :
    textOf scope keywords e = .ok te ↔
      (checkExpr scope keywords e).result = .ok te ∧ isTextual te.ty = true := by
  rw [textOf, bind_eq_ok]
  constructor
  · rintro ⟨typed, htyped, h⟩
    split at h
    · cases h
      exact ⟨htyped, ‹_›⟩
    · cases h
  · rintro ⟨hte, htext⟩
    exact ⟨te, hte, if_pos htext⟩

/-- A pattern test is accepted as a predicate if its three arguments are read as texts. -/
lemma checkPredicate_regex_iff {value pattern flags : Source.Expr} {p : Predicate} {s : CheckState} :
    (∃ s', checkPredicate ctx (.call "regex" [value, pattern, flags]) s = .ok p s') ↔
      ∃ v, textOf s.scope ctx.keywords value = .ok v ∧
        ∃ pt, textOf s.scope ctx.keywords pattern = .ok pt ∧
          ∃ f, textOf s.scope ctx.keywords flags = .ok f ∧ .regex v pt f [] = p := by
  have h : (checkPredicate ctx (.call "regex" [value, pattern, flags])).AmountsTo s.scope (do
      let v ← textOf s.scope ctx.keywords value
      let pt ← textOf s.scope ctx.keywords pattern
      let f ← textOf s.scope ctx.keywords flags
      return .regex v pt f []) := by
    refine (amountsTo_checkText value).bind fun v => ?_
    refine (amountsTo_checkText pattern).bind fun pt => ?_
    exact (amountsTo_checkText flags).bind fun f => Check.amountsTo_pure _
  rw [h.ok_iff rfl]
  simp only [bind_eq_ok, pure_eq_ok]

lemma elementType_iff {container elem : Ty} (hany : container ≠ .any) :
    elementType container = .ok elem ↔ container.element? = some elem := by
  cases container with
  | any => exact (hany rfl).elim
  | _ => simp [elementType, Ty.element?]

lemma amountsTo_checkBinder {ty : Ty} {mismatch : Ty → CheckError} {e : Source.Expr}
    (hgiven : freshName? scope e = none) :
    (checkBinder ctx ty mismatch e).AmountsTo scope (do
      let typed ← (checkExpr scope ctx.keywords e).result
      let agreed ← (Ty.agree ty typed.ty).result.mapError fun _ => mismatch typed.ty
      return (.expect typed, agreed)) := by
  refine Check.amountsTo_scope_bind ?_
  rw [hgiven]
  refine (Check.amountsTo_expr e).bind fun typed => ?_
  exact (Check.amountsTo_agree ty typed.ty _).bind fun agreed => Check.amountsTo_pure _

/-- A containment test for a given element is accepted as a predicate if the element agrees with what
the container has. -/
lemma checkPredicate_contains_iff {container element : Source.Expr} {p : Predicate} {s : CheckState}
    (hgiven : freshName? s.scope element = none) :
    (∃ s', checkPredicate ctx (.call "contains" [container, element]) s = .ok p s') ↔
      ∃ c, (checkExpr s.scope ctx.keywords container).result = .ok c ∧
        ∃ elem, elementType c.ty = .ok elem ∧
          ∃ e, (checkExpr s.scope ctx.keywords element).result = .ok e ∧
            (∃ joined, (Ty.agree elem e.ty).result = .ok joined) ∧ .contains c (.expect e) = p := by
  have h : (checkPredicate ctx (.call "contains" [container, element])).AmountsTo s.scope _ :=
    (Check.amountsTo_expr container).bind fun c =>
      (Check.amountsTo_ofNoted (.ofExcept (elementType c.ty))).bind fun elem =>
        (amountsTo_checkBinder hgiven).bind fun found =>
          Check.amountsTo_pure (Predicate.contains c found.1)
  rw [h.ok_iff rfl]
  simp only [bind_eq_ok, pure_eq_ok, mapError_eq_ok, Noted.result_ofExcept]
  constructor
  · rintro ⟨c, hc, elem, helem, found, ⟨e, he, joined, hjoined, rfl⟩, hp⟩
    exact ⟨c, hc, elem, helem, e, he, ⟨joined, hjoined⟩, Except.ok.inj hp⟩
  · rintro ⟨c, hc, elem, helem, e, he, ⟨joined, hjoined⟩, rfl⟩
    exact ⟨c, hc, elem, helem, (.expect e, joined), ⟨e, he, joined, hjoined, rfl⟩, rfl⟩

variable {keywords : Named Ty} {te : Expr}

lemma checkCall_ok_iff {builtin : Builtin} {args : List Expr} {op : Op} {ty : Ty} :
    (checkCall builtin args).result = .ok (op, ty) ↔
      ∃ params, (builtin.resolve (args.map Expr.ty)).result = .ok ⟨op, params, ty⟩ := by
  simp only [checkCall, Noted.result_bind, Noted.result_mapError, bind_eq_ok, mapError_eq_ok,
    Noted.result_pure, Except.ok.injEq, Prod.mk.injEq]
  constructor
  · rintro ⟨resolution, hresolve, rfl, rfl⟩
    exact ⟨resolution.params, hresolve⟩
  · rintro ⟨params, hresolve⟩
    exact ⟨_, hresolve, rfl, rfl⟩

/-- A pattern test is accepted as an expression if its three arguments are read as texts. -/
lemma checkExpr_regex_iff {value pattern flags : Source.Expr}
    (hplain : PlainItems scope keywords [value, pattern, flags]) :
    (checkExpr scope keywords (.call "regex" [value, pattern, flags])).result = .ok te ↔
      ∃ v, textOf scope keywords value = .ok v ∧
        ∃ pt, textOf scope keywords pattern = .ok pt ∧
          ∃ f, textOf scope keywords flags = .ok f ∧
            .call .boolean ⟨"regex", 0, .calculation .matchesPattern⟩ [v, pt, f] = te := by
  have hknown : knownBuiltin Builtin.function? "regex" = .ok Builtin.regex := rfl
  have hresolve : ∀ {v pt f : Expr}, (checkExpr scope keywords value).result = .ok v →
      (checkExpr scope keywords pattern).result = .ok pt →
      (checkExpr scope keywords flags).result = .ok f → ∀ {op ty}, (∃ params,
        (Builtin.regex.resolve [v.ty, pt.ty, f.ty]).result = .ok ⟨op, params, ty⟩) ↔ _ :=
    fun hv hpt hf _ _ => Builtin.resolve_regex_iff (by
      simp [hplain.hasVars_of_checkExpr (by simp) hv, hplain.hasVars_of_checkExpr (by simp) hpt,
        hplain.hasVars_of_checkExpr (by simp) hf])
  simp only [checkExpr, checkExprs, hknown, Noted.result_bind, Noted.result_ofExcept, bind_eq_ok,
    Noted.result_pure, Except.ok.injEq, textOf_eq_ok, ok_bind, Prod.exists, checkCall_ok_iff]
  constructor
  · rintro ⟨_, ⟨v, hv, _, ⟨pt, hpt, _, ⟨f, hf, rfl⟩, rfl⟩, rfl⟩, op, ty, hop, rfl⟩
    obtain ⟨htexts, rfl, rfl⟩ := (hresolve hv hpt hf).1 hop
    simp only [List.forall_mem_cons] at htexts
    exact ⟨v, ⟨hv, htexts.1⟩, pt, ⟨hpt, htexts.2.1⟩, f, ⟨hf, htexts.2.2.1⟩, rfl⟩
  · rintro ⟨v, ⟨hv, htv⟩, pt, ⟨hpt, htpt⟩, f, ⟨hf, htf⟩, rfl⟩
    have htexts : ∀ arg ∈ [v.ty, pt.ty, f.ty], isTextual arg = true := by simp [htv, htpt, htf]
    exact ⟨[v, pt, f], ⟨v, hv, [pt, f], ⟨pt, hpt, [f], ⟨f, hf, rfl⟩, rfl⟩, rfl⟩, _, _,
      (hresolve hv hpt hf).2 ⟨htexts, rfl, rfl⟩, rfl⟩

/-- A containment test is accepted as an expression if the element agrees with what the container
has. -/
lemma checkExpr_contains_iff {container element : Source.Expr}
    (hplain : PlainItems scope keywords [container, element])
    (htyped : ∀ c, (checkExpr scope keywords container).result = .ok c → c.ty ≠ .any) :
    (checkExpr scope keywords (.call "contains" [container, element])).result = .ok te ↔
      ∃ c, (checkExpr scope keywords container).result = .ok c ∧
        ∃ elem, elementType c.ty = .ok elem ∧
          ∃ e, (checkExpr scope keywords element).result = .ok e ∧
            (∃ joined, (Ty.agree elem e.ty).result = .ok joined) ∧
              .call .boolean (Builtin.containsOp c.ty) [c, e] = te := by
  have hknown : knownBuiltin Builtin.function? "contains" = .ok Builtin.contains := rfl
  have hresolve : ∀ {c e : Expr}, (checkExpr scope keywords container).result = .ok c →
      (checkExpr scope keywords element).result = .ok e → ∀ {op ty}, (∃ params,
        (Builtin.contains.resolve [c.ty, e.ty]).result = .ok ⟨op, params, ty⟩) ↔ _ :=
    fun hc he _ _ => Builtin.resolve_contains_iff (hplain.hasVars_of_checkExpr (by simp) hc)
      (htyped _ hc) (hplain.hasVars_of_checkExpr (by simp) he)
  simp only [checkExpr, checkExprs, hknown, Noted.result_bind, Noted.result_ofExcept, bind_eq_ok,
    Noted.result_pure, Except.ok.injEq, ok_bind, Prod.exists, checkCall_ok_iff]
  constructor
  · rintro ⟨_, ⟨c, hc, _, ⟨e, he, rfl⟩, rfl⟩, op, ty, hop, rfl⟩
    obtain ⟨⟨elem, helem, hjoined⟩, rfl, rfl⟩ := (hresolve hc he).1 hop
    exact ⟨c, hc, elem, (elementType_iff (htyped c hc)).2 helem, e, he, hjoined, rfl⟩
  · rintro ⟨c, hc, elem, helem, e, he, hjoined, rfl⟩
    have hop := (hresolve hc he).2
      ⟨⟨elem, (elementType_iff (htyped c hc)).1 helem, hjoined⟩, rfl, rfl⟩
    exact ⟨[c, e], ⟨c, hc, [e], ⟨e, he, rfl⟩, rfl⟩, _, _, hop, rfl⟩

end Accepted

/-- A predicate and an expression that test the same. -/
inductive SameTest : Predicate → Expr → Prop
  | regex (value pattern flags : Expr) : SameTest (.regex value pattern flags [])
      (.call .boolean ⟨"regex", 0, .calculation .matchesPattern⟩ [value, pattern, flags])
  | contains {container : Expr} {elem : Ty} (helem : container.ty.element? = some elem)
      (element : Expr) : SameTest (.contains container (.expect element))
      (.call .boolean (Builtin.containsOp container.ty) [container, element])

lemma SameTest.ty_eq {p : Predicate} {te : Expr} (h : SameTest p te) : te.ty = .boolean := by
  cases h <;> rfl

section Compiled

variable {p : Predicate} {te : Expr} {locals : Locals}

lemma Compiles.ok_iff {α : Type} {condition : Bool} {a : α} {names : List String}
    {x : EStateM.Result CompileError Locals α} (h : Compiles condition a names x) :
    (∃ b locals', x = .ok b locals') ↔ condition = true := by
  cases x with
  | ok b locals' => exact ⟨fun _ => h.1, fun _ => ⟨b, locals', rfl⟩⟩
  | error e locals' =>
    have hcondition := h.1
    simp [hcondition]

variable [PatternEngine]

/-- Both forms need the same variables. -/
lemma SameTest.compiles (h : SameTest p te) {names : List String} (hlocals : locals.Holds names) :
    Compiles (te.vars.all names.contains) p.step names (compilePredicate p locals) := by
  cases h with
  | regex value pattern flags =>
    have hvars : (Expr.call .boolean ⟨"regex", 0, .calculation .matchesPattern⟩
        [value, pattern, flags]).vars.all names.contains = (value.vars.all names.contains &&
          (pattern.vars.all names.contains && flags.vars.all names.contains)) := by
      simp [List.all_append]
    rw [hvars, compilePredicate]
    refine (compiles_before hlocals hlocals value).bind fun _ h₁ => ?_
    refine (compilePattern_compiles h₁ pattern flags).map fun _ h₂ => ?_
    rw [state_get_bind]
    exact compiles_pure h₂
  | @contains container elem helem element =>
    have hvars : (Expr.call .boolean (Builtin.containsOp container.ty)
        [container, element]).vars.all names.contains =
          (container.vars.all names.contains && element.vars.all names.contains) := by
      simp [List.all_append]
    rw [hvars, compilePredicate]
    refine (compiles_before hlocals hlocals container).bind fun _ h₁ => ?_
    exact (compiles_before h₁ h₁ element).map fun _ => compiles_pure

lemma SameTest.compiles_iff (h : SameTest p te) :
    (∃ step locals', compilePredicate p locals = .ok step locals') ↔
      ∃ code, te.compile locals = .ok code := by
  rw [(h.compiles (Locals.holds_names locals)).ok_iff]
  rcases compile_of_holds (Locals.holds_names locals) te with ⟨hall, hcode⟩ | ⟨hall, x, herror⟩
  · simp [hall, hcode]
  · simp [hall, herror]

end Compiled

/-- A value of the shape that the type of a container promises. -/
def Ty.Shapes : Ty → Value → Prop
  | .array _, v => ∃ items, v = .array items
  | .map _ _, v => ∃ entries, v = .object entries
  | _, _ => True

section Runs

variable {env : Env} {w : World}

/-- A verdict and an outcome that tell the same: the environment passes, is rejected, or both fail.
They leave the same world. -/
def TellsSame (env : Env) (verdict : EStateM.Result RuntimeError World (Option Env))
    (outcome : EStateM.Result RuntimeError World Value) : Prop :=
  (∃ b v, verdict = .ok (if b = true then some env else none) v ∧ outcome = .ok (.boolean b) v) ∨
    ∃ e e' v, verdict = .error e v ∧ outcome = .error e' v

lemma tellsSame_error (e e' : RuntimeError) (w : World) :
    TellsSame env (.error e w) (.error e' w) :=
  .inr ⟨e, e', w, rfl, rfl⟩

lemma tellsSame_test (b : Bool) (w : World) :
    TellsSame env (.ok (if b = true then some env else none) w) (.ok (.boolean b) w) :=
  .inl ⟨b, w, rfl, rfl⟩

/-- What both forms compute first can be computed before them. -/
lemma TellsSame.bind {α : Type} {x : Eval α} {f : α → Verdict} {g : α → Eval Value}
    (h : ∀ a v, x w = .ok a v → TellsSame env (f a v) (g a v)) :
    TellsSame env ((x >>= f) w) ((x >>= g) w) := by
  cases hx : x w with
  | error e v =>
    rw [state_bind_of_error hx, state_bind_of_error hx]
    exact tellsSame_error e e v
  | ok a v =>
    rw [state_bind_of_ok hx, state_bind_of_ok hx]
    exact h a v hx

/-- A step with a verdict and code that tell the same decide alike and leave the same world. -/
lemma TellsSame.spelled [PatternEngine] {step : Step} {verdict : Verdict} {code : Eval Value}
    (hstep : step.pass env = Option.toList <$> verdict)
    (h : TellsSame env (verdict w) (code w)) :
    ((step.run env w).1 = [.ok env] ↔ (code.attempt w).1 = .ok (.boolean true)) ∧
      ((step.run env w).1 = [] ↔ (code.attempt w).1 = .ok (.boolean false)) ∧
        ((∃ e, (step.run env w).1 = [.error e]) ↔ ∃ e, (code.attempt w).1 = .error e) ∧
          (step.run env w).2 = (code.attempt w).2 := by
  rw [Step.run_of_verdict hstep, Eval.attempt]
  rcases h with ⟨_ | _, v, hverdict, houtcome⟩ | ⟨e, e', v, hverdict, houtcome⟩ <;>
    simp [hverdict, houtcome]

variable [PatternEngine]

/-- Whatever the container of a containment test gives in an environment and a world has the shape of
its type. -/
def Typed.Predicate.Shaped (p : Predicate) (env : Env) (w : World) : Prop :=
  match p with
  | .contains container _ => ∀ v w', container.code.run env w = .ok v w' → container.ty.Shapes v
  | _ => True

lemma isMatch_of_buildRegex (hlawful : PatternEngine.Lawful) {pattern flags : String} {regex : Regex}
    (h : buildRegex pattern flags = .ok regex) (text : String) :
    regex.isMatch text = (regex.captures? text).isSome :=
  hlawful _ _ regex (mapError_eq_ok.1 h) text

/-- A pattern without places for groups lets pass exactly where it is found. -/
lemma captures_tellsSame {regex : Regex} {text : String}
    (h : regex.isMatch text = (regex.captures? text).isSome) (w : World) :
    TellsSame env
      ((match regex.captures? text with
        | none => return none
        | some groups => Step.bindCaptures (([] : List Capture).zip (Step.groupTexts groups 0)) env :
          Verdict) w)
      (.ok (.boolean (regex.isMatch text)) w) := by
  rw [h]
  cases regex.captures? text with
  | none => exact tellsSame_test false w
  | some groups => exact tellsSame_test true w

/-- A pattern step and a pattern call need the same values; the step reads its text last. -/
lemma matchPattern_tellsSame (hlawful : PatternEngine.Lawful) (value pattern flags : Code) :
    TellsSame env (Step.matchPattern value (.computed pattern flags) [] env w)
      ((Code.call ⟨"regex", 0, .calculation .matchesPattern⟩ [value, pattern, flags]).run env w) := by
  simp only [Step.matchPattern, PatternSource.read, Code.run, Code.runAll, bind_assoc, pure_bind]
  refine TellsSame.bind fun v _ _ => TellsSame.bind fun p _ _ => TellsSame.bind fun f w _ => ?_
  have hread : ∀ k : Regex → Verdict, (do
      let pattern ← Eval.ofExcept p.textual
      let flags ← Eval.ofExcept f.textual
      let regex ← Eval.ofExcept (buildRegex pattern flags)
      k regex) = Eval.ofExcept (do buildRegex (← p.textual) (← f.textual)) >>= k := fun k => by
    simp only [Eval.ofExcept_bind, bind_assoc]
  have hcall : Op.run ⟨"regex", 0, .calculation .matchesPattern⟩ env [v, p, f] =
      Eval.ofExcept (do
        let text ← v.textual
        let regex ← (do buildRegex (← p.textual) (← f.textual))
        return .boolean (regex.isMatch text)) := by
    simp only [bind_assoc]
    rfl
  rw [hread, hcall]
  cases hregex : (do buildRegex (← p.textual) (← f.textual)) with
  | error e =>
    cases v.textual with
    | error e' => exact tellsSame_error e e' w
    | ok text => exact tellsSame_error e e w
  | ok regex =>
    simp only [bind_eq_ok] at hregex
    obtain ⟨pattern, -, flags, -, hbuild⟩ := hregex
    cases v.textual with
    | error e => exact tellsSame_error e e w
    | ok text => exact captures_tellsSame (isMatch_of_buildRegex hlawful hbuild text) w

lemma hasElement_tellsSame {ty elem : Ty} (helem : ty.element? = some elem) {container : Code}
    (hshape : ∀ v w', container.run env w = .ok v w' → ty.Shapes v) (element : Code) :
    TellsSame env (Step.verdictOf (Step.hasElement container element env) env w)
      ((Code.call (Builtin.containsOp ty) [container, element]).run env w) := by
  simp only [Step.verdictOf, Step.hasElement, Code.run, Code.runAll, map_bind, bind_assoc, pure_bind]
  refine TellsSame.bind fun v w₁ hv => ?_
  have hshape := hshape v w₁ hv
  cases ty with
  | array item =>
    obtain ⟨items, rfl⟩ := hshape
    rw [map_bind]
    exact TellsSame.bind fun needle w₂ _ => tellsSame_test _ w₂
  | map key entry =>
    obtain ⟨entries, rfl⟩ := hshape
    rw [map_bind]
    exact TellsSame.bind fun needle w₂ _ => tellsSame_test _ w₂
  | _ => cases helem

/-- From the same world both forms decide alike and leave the same world. -/
lemma SameTest.run {p : Predicate} {te : Expr} (h : SameTest p te) (hlawful : PatternEngine.Lawful)
    (hshaped : p.Shaped env w) :
    ((p.step.run env w).1 = [.ok env] ↔ ((te.code.run env).attempt w).1 = .ok (.boolean true)) ∧
      ((p.step.run env w).1 = [] ↔ ((te.code.run env).attempt w).1 = .ok (.boolean false)) ∧
        ((∃ e, (p.step.run env w).1 = [.error e]) ↔
          ∃ e, ((te.code.run env).attempt w).1 = .error e) ∧
          (p.step.run env w).2 = ((te.code.run env).attempt w).2 := by
  cases h with
  | regex value pattern flags =>
    have hstep : (Predicate.regex value pattern flags []).step.pass env = Option.toList <$>
        Step.matchPattern value.code (.computed pattern.code flags.code) [] env := by
      simp only [Predicate.step, Step.pass, Step.matchPattern, List.map_nil,
        Typed.read_patternSource]
    exact (matchPattern_tellsSame hlawful _ _ _).spelled hstep
  | contains helem element => exact (hasElement_tellsSame helem hshaped _).spelled rfl

end Runs

/-- Conditions that can be written in both forms: pattern tests without places for groups, and
containment tests for a given element in a container of a known type. -/
inductive BothForms (scope : Scope) (keywords : Named Ty) : Source.Expr → Prop
  | regex (value pattern flags : Source.Expr) :
      BothForms scope keywords (.call "regex" [value, pattern, flags])
  | contains {container element : Source.Expr} (hgiven : freshName? scope element = none)
      (htyped : ∀ c, (checkExpr scope keywords container).result = .ok c → c.ty ≠ .any) :
      BothForms scope keywords (.call "contains" [container, element])

/-- The arguments of a call get types without variables. -/
def PlainCall (scope : Scope) (keywords : Named Ty) : Source.Expr → Prop
  | .call _ args => PlainItems scope keywords args
  | _ => True

section Forms

variable {ctx : Context} {s s' : CheckState} {e : Source.Expr} {p : Predicate} {te : Expr}

/-- What is accepted as a predicate is accepted as an expression, with the same parts. -/
lemma exists_expr_of_predicate (hplain : PlainCall s.scope ctx.keywords e)
    (he : BothForms s.scope ctx.keywords e) (h : checkPredicate ctx e s = .ok p s') :
    ∃ te, (checkExpr s.scope ctx.keywords e).result = .ok te ∧ SameTest p te := by
  cases he with
  | regex value pattern flags =>
    obtain ⟨v, hv, pt, hpt, f, hf, rfl⟩ := checkPredicate_regex_iff.1 ⟨s', h⟩
    have hte := (checkExpr_regex_iff hplain).2 ⟨v, hv, pt, hpt, f, hf, rfl⟩
    exact ⟨_, hte, .regex v pt f⟩
  | contains hgiven htyped =>
    obtain ⟨c, hc, elem, helem, el, hel, hjoined, rfl⟩ :=
      (checkPredicate_contains_iff hgiven).1 ⟨s', h⟩
    have hte := (checkExpr_contains_iff hplain htyped).2
      ⟨c, hc, elem, helem, el, hel, hjoined, rfl⟩
    exact ⟨_, hte, .contains ((elementType_iff (htyped c hc)).1 helem) el⟩

/-- What is accepted as an expression is accepted as a predicate, with the same parts. -/
lemma exists_predicate_of_expr (hplain : PlainCall s.scope ctx.keywords e)
    (he : BothForms s.scope ctx.keywords e)
    (h : (checkExpr s.scope ctx.keywords e).result = .ok te) :
    ∃ p s', checkPredicate ctx e s = .ok p s' ∧ SameTest p te := by
  cases he with
  | regex value pattern flags =>
    obtain ⟨v, hv, pt, hpt, f, hf, rfl⟩ := (checkExpr_regex_iff hplain).1 h
    obtain ⟨s', hp⟩ := checkPredicate_regex_iff.2 ⟨v, hv, pt, hpt, f, hf, rfl⟩
    exact ⟨_, s', hp, .regex v pt f⟩
  | contains hgiven htyped =>
    obtain ⟨c, hc, elem, helem, el, hel, hjoined, rfl⟩ :=
      (checkExpr_contains_iff hplain htyped).1 h
    obtain ⟨s', hp⟩ := (checkPredicate_contains_iff hgiven).2
      ⟨c, hc, elem, helem, el, hel, hjoined, rfl⟩
    exact ⟨_, s', hp, .contains ((elementType_iff (htyped c hc)).1 helem) el⟩

/-- A condition that has both forms is accepted as a predicate if and only if it is accepted as an
expression that is a truth value, unless the type of an argument has variables. If so, one form
compiles if and only if the other one does. From the same world the step then lets an environment pass
exactly if the expression is true in it, rejects it exactly if the expression is false, and fails
exactly if the expression fails, and both leave the same world. The container of a containment test
must not give a value of another shape than its type says. -/
theorem checkPredicate_bothForms [PatternEngine] (hlawful : PatternEngine.Lawful)
    (hplain : PlainCall s.scope ctx.keywords e) (he : BothForms s.scope ctx.keywords e) :
    ((∃ p s', checkPredicate ctx e s = .ok p s') ↔
        ∃ te, (checkExpr s.scope ctx.keywords e).result = .ok te ∧ te.ty = .boolean) ∧
      ∀ p s' te, checkPredicate ctx e s = .ok p s' →
        (checkExpr s.scope ctx.keywords e).result = .ok te → ∀ locals,
          ((∃ step locals', compilePredicate p locals = .ok step locals') ↔
              ∃ code, te.compile locals = .ok code) ∧
            ∀ step locals' code, compilePredicate p locals = .ok step locals' →
              te.compile locals = .ok code → ∀ env w, p.Shaped env w →
                ((step.run env w).1 = [.ok env] ↔
                  ((code.run env).attempt w).1 = .ok (.boolean true)) ∧
                ((step.run env w).1 = [] ↔
                  ((code.run env).attempt w).1 = .ok (.boolean false)) ∧
                ((∃ error, (step.run env w).1 = [.error error]) ↔
                  ∃ error, ((code.run env).attempt w).1 = .error error) ∧
                (step.run env w).2 = ((code.run env).attempt w).2 := by
  constructor
  · constructor
    · rintro ⟨p, s', h⟩
      obtain ⟨te, hte, hsame⟩ := exists_expr_of_predicate hplain he h
      exact ⟨te, hte, hsame.ty_eq⟩
    · rintro ⟨te, hte, -⟩
      obtain ⟨p, s', h, -⟩ := exists_predicate_of_expr hplain he hte
      exact ⟨p, s', h⟩
  · intro p s' te hp hte locals
    have hsame : SameTest p te := by
      obtain ⟨te', hte', hsame⟩ := exists_expr_of_predicate hplain he hp
      rw [hte] at hte'
      cases hte'
      exact hsame
    refine ⟨hsame.compiles_iff, ?_⟩
    intro step locals' code hstep hcode env w hshaped
    have hcompiles := hsame.compiles (Locals.holds_names locals)
    rw [hstep] at hcompiles
    obtain ⟨-, rfl, -⟩ := hcompiles
    obtain ⟨-, rfl⟩ := Expr.compile_eq_ok.1 hcode
    exact hsame.run hlawful hshaped

/-- The engine of machines finds a match exactly where it finds groups. -/
lemma Machine.lawful : PatternEngine.Lawful := by
  intro pattern ignoreCase regex h text
  unfold PatternEngine.build Machine.engine at h
  cases hread : Pattern.ofText? pattern ignoreCase with
  | none =>
    simp only [hread] at h
    cases h
  | some p =>
    simp only [hread] at h
    cases h
    rfl

/-- Whether a list of colours has a colour can be asked in both forms, although the colour is given
as a string. -/
theorem checkPredicate_bothForms_tags :
    let tags : Ty := .array (.enum ["blue", "red"])
    let s : CheckState := ⟨⟨[("tags", ⟨tags, .param⟩)], []⟩, []⟩
    let e : Source.Expr := .call "contains" [.var "tags", .constant (.string "red")]
    let env := (Env.ofSettings .default).setVar "tags" (.array [.string "red"])
    PatternEngine.Lawful ∧ PlainCall s.scope [] e ∧ BothForms s.scope [] e ∧
      ∃ p s' step locals', checkPredicate ⟨[], []⟩ e s = .ok p s' ∧
        compilePredicate p [("tags", tags)] = .ok step locals' ∧
          ∀ w, p.Shaped env w ∧ (step.run env w).1 = [.ok env] := by
  intro tags s e env
  have hscope : s.scope.Plain := by
    intro name entry h
    by_cases hname : "tags" = name
    · subst hname
      cases h
      rfl
    · simp [s, Scope.get?, Scope.layers, Named.get?, hname] at h
  have hkeywords : PlainKeywords [] := by
    intro cell ty h
    cases h
  have hplain : PlainCall s.scope [] e := plainItems_of_plain hscope hkeywords
  have hforms : BothForms s.scope [] e := by
    refine .contains (by rfl) fun c hc hany => ?_
    cases hc
    cases hany
  have hp : checkPredicate ⟨[], []⟩ e s = .ok (.contains (.var tags "tags")
      (.expect (.constant .string (.string "red")))) ⟨s.scope, [.stringFor (.enum ["blue", "red"])]⟩ := by
    rfl
  have hte : (checkExpr s.scope [] e).result = .ok (.call .boolean
      ⟨"contains", 0, .calculation .arrayContains⟩
        [.var tags "tags", .constant .string (.string "red")]) := by
    rfl
  have hshaped : ∀ w, (Predicate.contains (.var tags "tags")
      (.expect (.constant .string (.string "red")))).Shaped env w := by
    rintro w v w' ⟨⟩
    exact ⟨_, rfl⟩
  obtain ⟨hcompiles, hruns⟩ :=
    (@checkPredicate_bothForms ⟨[], []⟩ s e _ Machine.lawful hplain hforms).2 _ _ _ hp hte
      [("tags", tags)]
  obtain ⟨step, locals', hstep⟩ := hcompiles.2 ⟨_, rfl⟩
  exact ⟨Machine.lawful, hplain, hforms, _, _, step, locals', hp, hstep, fun w =>
    ⟨hshaped w, (hruns step locals' _ hstep rfl env w (hshaped w)).1.2 rfl⟩⟩

/-- With type variables in scope one form can be rejected although the other one is accepted. A text
whose type is a variable is tested against a pattern in an expression only, and a key whose type has
the name of a variable of the signature is looked for in a map in a predicate only. -/
theorem checkPredicate_bothForms_open :
    let text : CheckState := ⟨⟨[("text", ⟨.var "a", .param⟩)], []⟩, []⟩
    let test : Source.Expr :=
      .call "regex" [.var "text", .constant (.string "a"), .constant (.string "")]
    let shelf : CheckState :=
      ⟨⟨[("stock", ⟨.map .string .number, .param⟩), ("key", ⟨.var "v", .param⟩)], []⟩, []⟩
    let search : Source.Expr := .call "contains" [.var "stock", .var "key"]
    (BothForms text.scope [] test ∧ (¬∃ p s', checkPredicate ⟨[], []⟩ test text = .ok p s') ∧
        ∃ te, (checkExpr text.scope [] test).result = .ok te ∧ te.ty = .boolean) ∧
      BothForms shelf.scope [] search ∧ (∃ p s', checkPredicate ⟨[], []⟩ search shelf = .ok p s') ∧
        ¬∃ te, (checkExpr shelf.scope [] search).result = .ok te ∧ te.ty = .boolean := by
  intro text test shelf search
  have hrejected : checkPredicate ⟨[], []⟩ test text =
      .error (.noMatchingOverload "regex" [.string, .var "a"]) text := by rfl
  have hunresolved : (checkExpr shelf.scope [] search).result =
      .error (.noMatchingOverload "contains" [.map .string .number, .var "v"]) := by rfl
  have hsearch : BothForms shelf.scope [] search := by
    refine .contains (by rfl) fun c hc hany => ?_
    cases hc
    cases hany
  refine ⟨⟨.regex _ _ _, ?_, _, by rfl, by rfl⟩, hsearch, ⟨_, _, by rfl⟩, ?_⟩
  · rintro ⟨p, s', h⟩
    rw [hrejected] at h
    cases h
  · rintro ⟨te, h, -⟩
    rw [hunresolved] at h
    cases h

end Forms

end ChannelRules
