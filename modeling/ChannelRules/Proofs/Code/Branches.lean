import ChannelRules.Pattern.Machine
import ChannelRules.Proofs.Code.Accepted
import ChannelRules.Proofs.Code.Filter

/-!
# Every way through a filter, once and in order

A filter is walked by a cursor with a stack of levels. What the cursor gives, taken one after the
other or all at once, is what the chain of the steps leads to, and the cursor comes to an end. A
choice of elements therefore gives what the later steps make of the first element, then what they
make of the second, and so on.
-/

namespace ChannelRules

open Typed (Expr Predicate)

namespace Chain

variable {σ ε α : Type}

/-- All results of a chain of steps that know no world. -/
def branches : List (α → List (Except ε α)) → α → List (Except ε α)
  | [], a => [.ok a]
  | step :: steps, a => (step a).flatMap fun
    | .ok b => branches steps b
    | .error e => [.error e]

/-- Steps that leave the world alone lead to the same in every world. -/
lemma results_pure (steps : List (α → List (Except ε α))) (a : α) :
    results (steps.map fun step a => (return step a : StateM σ _)) a = return branches steps a := by
  induction steps generalizing a with
  | nil => rfl
  | cons step steps ih =>
    have hall : ∀ ways : List (Except ε α),
        followAll (results (steps.map fun step a => (return step a : StateM σ _))) ways =
          return ways.flatMap fun
            | .ok b => branches steps b
            | .error e => [.error e] := by
      intro ways
      induction ways with
      | nil => rfl
      | cons way ways ihways =>
        cases way with
        | error e =>
          rw [followAll, ihways]
          rfl
        | ok b =>
          rw [followAll, ih, ihways]
          rfl
    rw [List.map_cons, results, pure_bind, hall]
    rfl

/-- Following environments that all continue. -/
lemma followAll_map_ok {β : Type} (follow : α → StateM σ (List (Except ε α))) (f : β → α)
    (xs : List β) :
    followAll follow (xs.map fun x => .ok (f x)) = xs.flatMapM fun x => follow (f x) := by
  induction xs with
  | nil => rfl
  | cons x xs ih => rw [List.map_cons, followAll, ih, List.flatMapM_cons]

/-- The first result of a chain, or the failure that stands in its place. -/
lemma first_start (steps : List (Branching σ ε α)) (a : α) (s : σ) :
    ((start steps a).first s).1 = (results steps a s).1.head?.sequence := by
  rw [← next_start]
  rfl

end Chain

namespace Filter

/-- A choice of elements: the later steps are run once for each element, in the order of the
elements. -/
lemma matched_each [PatternEngine] {container : Code} {env : Env} {value : Value}
    {values : List Value} {w w' : World} (hvalue : container.run env w = .ok value w')
    (hvalues : Step.elements value = .ok values) (name : String) (rest : Filter) :
    Filter.matched (.each container name :: rest) env w =
      (values.flatMapM fun value => Filter.matched rest (env.setVar name value)) w' := by
  have hrun : (Step.each container name).run env w =
      (values.map fun value => .ok (env.setVar name value), w') := by
    have hpass : (Step.each container name).pass env w =
        .ok (values.map fun value => env.setVar name value) w' := by
      rw [Step.pass]
      simp only [state_bind_eq_ok, Eval.ofExcept_eq_ok, state_pure_eq_ok]
      exact ⟨value, w', hvalue, values, w', ⟨hvalues, rfl⟩, rfl, rfl⟩
    rw [Step.run_of_pass hpass, List.map_map]
    rfl
  simp only [matched_eq]
  rw [List.map_cons, Chain.results, state_bind, hrun]
  exact congrFun (Chain.followAll_map_ok _ _ values) w'

/-- The cursor over a chain of steps ends after finitely many moves with no level left. Until then it
has given the results of the chain, each once and in order, failures among them; asked for one
result at a time it gives the one at each place and then none; and the first match is the first of
them, or its failure. Where steps leave the world alone, the results of the chain are those of the
later steps for each environment that continues, in order. Filters are such chains. In particular a
choice of elements of an array gives what the later steps make of each element, in the order of the
elements. -/
theorem matched_enumerates [PatternEngine] :
    (∀ {σ : Type} (steps : List (Chain.Branching σ RuntimeError Env)) (env : Env) (s : σ),
      (Chain.start steps env).Walks s (Chain.results steps env s).1 []
        (Chain.results steps env s).2 ∧
      (Chain.start steps env).toList s = Chain.results steps env s ∧
      (∀ n, (((Chain.start steps env).after n >>= Chain.Cursor.next) s).1.map Prod.fst =
        (Chain.results steps env s).1[n]?) ∧
      ((Chain.start steps env).first s).1 = (Chain.results steps env s).1.head?.sequence) ∧
    (∀ {σ : Type} (steps : List (Env → List (Except RuntimeError Env))) (env : Env),
      Chain.results (steps.map fun step env => (return step env : StateM σ _)) env =
        return Chain.branches steps env) ∧
    (∀ (filter : Filter) (env : Env),
      filter.matched env = Chain.results (filter.map Step.run) env ∧
      ∀ w, (filter.firstMatch env w).1 =
        (Chain.results (filter.map Step.run) env w).1.head?.sequence) ∧
    (∀ {container : Expr} {name : String} {ty : Ty} {locals locals' : Locals} {step : Step},
      compilePredicate (.contains container (.declare name ty)) locals = .ok step locals' →
      ∃ code, container.compile locals = .ok code ∧
        ∀ (rest : Filter) (env : Env) (items : List Value) (w w' : World),
          code.run env w = .ok (.array items) w' →
          Filter.matched (step :: rest) env w =
            (items.flatMapM fun item => Filter.matched rest (env.setVar name item)) w') := by
  refine ⟨fun steps env s => ⟨?_, ?_, fun n => ?_, Chain.first_start steps env s⟩,
    Chain.results_pure, fun filter env => ⟨matched_eq filter env, fun w => ?_⟩, ?_⟩
  · rw [← Chain.Cursor.left_start]
    exact Chain.Cursor.walks_left _ s
  · rw [Chain.toList_start]
  · rw [Chain.Cursor.next_after, Chain.Cursor.left_start]
  · rw [firstMatch_eq_head, matched_eq]
  · intro container name ty locals locals' step h
    simp only [compilePredicate, state_bind_eq_ok, state_pure_eq_ok] at h
    obtain ⟨code, l, hcode, _, l', -, rfl, -⟩ := h
    rw [Compile.expr, state_get_bind] at hcode
    refine ⟨code, (Compile.ofExcept_eq_ok hcode).1, fun rest env items w w' hitems => ?_⟩
    exact matched_each hitems rfl name rest

/-- Four elements, of which the second is no truth value and the third is rejected. -/
theorem matched_enumerates_fourFlags :
    ∃ step locals, ∃ env : Env,
      compilePredicate (.contains (.var (.array .boolean) "flags") (.declare "flag" .boolean))
        [("flags", .array .boolean)] = .ok step locals ∧
      env.readVar "flags" =
        .ok (.array [.boolean true, .number 7, .boolean false, .boolean true]) ∧
      ∀ w, Filter.matched [step, .test (.var "flag")] env w =
        ([.ok (env.setVar "flag" (.boolean true)), .error (.typeMismatch "Boolean" (.number 7)),
          .ok (env.setVar "flag" (.boolean true))], w) := by
  let env : Env := { Env.ofSettings .default with
    locals := [("flags", .array [.boolean true, .number 7, .boolean false, .boolean true])] }
  have hstep : compilePredicate (.contains (.var (.array .boolean) "flags")
      (.declare "flag" .boolean)) [("flags", .array .boolean)] =
        .ok (.each (.var "flags") "flag") [("flag", .boolean), ("flags", .array .boolean)] := rfl
  obtain ⟨code, hcode, hmatched⟩ := matched_enumerates.2.2.2 hstep
  cases hcode
  refine ⟨_, _, env, hstep, rfl, fun w => ?_⟩
  rw [hmatched [.test (.var "flag")] env _ w w rfl]
  simp only [matched_eq]
  rfl

end Filter

end ChannelRules
