import ChannelRules.Proofs.Code.Clause

/-!
# Clauses that compile

When a trigger or query compiles, its filter consists of the steps of its parts. Nothing is asked of
the names in scope: that compilation succeeds is enough.
-/

namespace ChannelRules

open Typed Typed.Touch

variable {names : List String} {locals locals' : Locals}

lemma Compiles.of_eq_ok {α : Type} {condition : Bool} {a b : α}
    {result : EStateM.Result CompileError Locals α} (h : Compiles condition a names result)
    (hresult : result = .ok b locals') : b = a ∧ locals'.Holds names := by
  rw [hresult] at h
  exact h.2

lemma Compile.ofExcept_eq_ok {α : Type} {x : Except CompileError α} {a : α}
    (h : Compile.ofExcept x locals = .ok a locals') : x = .ok a ∧ locals' = locals := by
  unfold Compile.ofExcept at h
  split at h
  · cases h
    exact ⟨rfl, rfl⟩
  · cases h

lemma Compile.expr_eq_ok {expr : Expr} {code : Code}
    (h : Compile.expr expr locals = .ok code locals') : code = expr.code ∧ locals' = locals := by
  rw [Compile.expr, state_get_bind] at h
  obtain ⟨hcompiled, hsame⟩ := Compile.ofExcept_eq_ok h
  exact ⟨(Expr.compile_eq_ok.1 hcompiled).2.symm, hsame⟩

lemma compileChecks_eq_ok {checks : List (Nat × Expr)} {codes : List (Nat × Code)}
    (h : compileChecks checks locals = .ok codes locals') :
    codes = checks.map (fun check => (check.1, check.2.code)) ∧ locals' = locals := by
  induction checks generalizing codes locals with
  | nil =>
    cases h
    exact ⟨rfl, rfl⟩
  | cons check rest ih =>
    obtain ⟨index, expr⟩ := check
    simp only [compileChecks, state_bind_eq_ok, state_pure_eq_ok] at h
    obtain ⟨code, l, hcode, codes, l', hcodes, rfl, rfl⟩ := h
    obtain ⟨rfl, rfl⟩ := Compile.expr_eq_ok hcode
    obtain ⟨rfl, rfl⟩ := ih hcodes
    exact ⟨rfl, rfl⟩

lemma compileInvocation_eq_ok (h : locals.Holds names) {i : Invocation} {code : CompiledInvocation}
    (hcode : compileInvocation i locals = .ok code locals') :
    code = i.code names ∧ locals'.Holds (names ++ declared (Part.invocation i).touches) := by
  rw [compileInvocation, state_get_bind] at hcode
  simp only [state_bind_eq_ok, state_pure_eq_ok] at hcode
  obtain ⟨slots, l, hslots, checks, l', hchecks, rfl, rfl⟩ := hcode
  obtain ⟨rfl, hl⟩ := (compileSlots_compiles h h i.params).of_eq_ok hslots
  obtain ⟨rfl, rfl⟩ := compileChecks_eq_ok hchecks
  exact ⟨rfl, hl⟩

variable [PatternEngine]

lemma compilePattern_eq_ok {pattern flags : Expr} {source : PatternSource}
    (h : compilePattern pattern flags locals = .ok source locals') :
    source = patternSource pattern flags ∧ locals' = locals := by
  have hcomputed : (do return .computed (← Compile.expr pattern) (← Compile.expr flags) :
      Compile PatternSource) locals = .ok source locals' →
        source = .computed pattern.code flags.code ∧ locals' = locals := by
    intro hsource
    simp only [state_bind_eq_ok, state_pure_eq_ok] at hsource
    obtain ⟨p, l, hp, f, l', hf, rfl, rfl⟩ := hsource
    obtain ⟨rfl, rfl⟩ := Compile.expr_eq_ok hp
    obtain ⟨rfl, rfl⟩ := Compile.expr_eq_ok hf
    exact ⟨rfl, rfl⟩
  unfold patternSource
  unfold compilePattern at h
  match hp : pattern.constantText?, hf : flags.constantText? with
  | some _, some _ =>
    rw [hp, hf] at h
    cases h
    exact ⟨rfl, rfl⟩
  | some _, none =>
    rw [hp, hf] at h
    exact hcomputed h
  | none, _ =>
    rw [hp] at h
    exact hcomputed h

lemma compilePredicate_eq_ok (h : locals.Holds names) {p : Predicate} {step : Step}
    (hstep : compilePredicate p locals = .ok step locals') :
    step = p.step ∧ locals'.Holds (names ++ declared p.touches) := by
  match p with
  | .regex value pattern flags captures =>
    simp only [compilePredicate, state_bind_eq_ok, state_pure_eq_ok] at hstep
    obtain ⟨code, l, hcode, source, l₁, hsource, before, l₂, hget, found, l₃, hfound, rfl, rfl⟩ :=
      hstep
    obtain ⟨rfl, rfl⟩ := Compile.expr_eq_ok hcode
    obtain ⟨rfl, rfl⟩ := compilePattern_eq_ok hsource
    cases hget
    obtain ⟨rfl, hl⟩ := (compileCaptures_compiles h h captures).of_eq_ok hfound
    exact ⟨rfl, hl⟩
  | .contains container (.declare name ty) =>
    simp only [compilePredicate, state_bind_eq_ok, state_pure_eq_ok] at hstep
    obtain ⟨code, l, hcode, _, l₁, hdeclare, rfl, rfl⟩ := hstep
    obtain ⟨rfl, rfl⟩ := Compile.expr_eq_ok hcode
    exact ⟨rfl, ((compiles_declare h name ty).of_eq_ok hdeclare).2⟩
  | .contains container (.expect element) =>
    simp only [compilePredicate, state_bind_eq_ok, state_pure_eq_ok] at hstep
    obtain ⟨code, l, hcode, needle, l₁, hneedle, rfl, rfl⟩ := hstep
    obtain ⟨rfl, rfl⟩ := Compile.expr_eq_ok hcode
    obtain ⟨rfl, rfl⟩ := Compile.expr_eq_ok hneedle
    have hsame : names ++ declared (Predicate.contains container (.expect element)).touches =
        names := List.append_nil names
    rw [hsame]
    exact ⟨rfl, h⟩
  | .test expr =>
    simp only [compilePredicate, state_bind_eq_ok, state_pure_eq_ok] at hstep
    obtain ⟨code, l, hcode, rfl, rfl⟩ := hstep
    obtain ⟨rfl, rfl⟩ := Compile.expr_eq_ok hcode
    have hsame : names ++ declared (Predicate.test expr).touches = names := List.append_nil names
    rw [hsame]
    exact ⟨rfl, h⟩

/-- Parts that compile give their steps. The invocation that is found, if none was found before, is
that of one of the parts. -/
lemma compileParts_eq_ok {source : EventSource} (h : locals.Holds names) {parts : List Part}
    {invocation found : Option CompiledInvocation} {filter : Filter}
    (hparts : compileParts source invocation parts locals = .ok (found, filter) locals') :
    filter = steps source names parts ∧
      (found = invocation ∨ ∃ i names', .invocation i ∈ parts ∧ found = some (i.code names')) := by
  induction parts generalizing names locals invocation filter with
  | nil =>
    rw [compileParts, state_pure_eq_ok] at hparts
    have heq := Prod.mk.inj hparts.1
    exact ⟨heq.2.symm, .inl heq.1.symm⟩
  | cons part rest ih =>
    have hlater : ∀ {found : Option CompiledInvocation} {before : Option CompiledInvocation},
        (found = before ∨ ∃ i names', .invocation i ∈ rest ∧ found = some (i.code names')) →
          found = before ∨ ∃ i names', .invocation i ∈ part :: rest ∧ found = some (i.code names') :=
      fun hfound => hfound.imp_right fun ⟨i, names', hi, hcode⟩ =>
        ⟨i, names', List.mem_cons_of_mem _ hi, hcode⟩
    rw [steps]
    cases part with
    | invocation i =>
      cases invocation with
      | some _ => exact absurd hparts state_throw_ne_ok
      | none =>
        simp only [compileParts, state_bind_eq_ok, state_pure_eq_ok] at hparts
        obtain ⟨code, l, hcode, ⟨others, tail⟩, l', htail, heq, rfl⟩ := hparts
        obtain ⟨rfl, hl⟩ := compileInvocation_eq_ok h hcode
        cases heq
        obtain ⟨hsteps, hfound⟩ := ih hl htail
        rw [hsteps]
        refine ⟨rfl, .inr ?_⟩
        rcases hlater hfound with hsame | hfound
        · exact ⟨i, names, List.mem_cons_self, hsame⟩
        · exact hfound
    | binding name expr =>
      simp only [compileParts, state_bind_eq_ok, state_pure_eq_ok] at hparts
      obtain ⟨code, l, hcode, _, l₁, hdeclare, ⟨others, tail⟩, l', htail, heq, rfl⟩ := hparts
      obtain ⟨rfl, rfl⟩ := Compile.expr_eq_ok hcode
      have hl := ((compiles_declare h name expr.ty).of_eq_ok hdeclare).2
      cases heq
      obtain ⟨hsteps, hfound⟩ := ih hl htail
      rw [hsteps]
      exact ⟨rfl, hlater hfound⟩
    | condition expr =>
      simp only [compileParts, state_bind_eq_ok, state_pure_eq_ok] at hparts
      obtain ⟨code, l, hcode, ⟨others, tail⟩, l', htail, heq, rfl⟩ := hparts
      obtain ⟨rfl, rfl⟩ := Compile.expr_eq_ok hcode
      have hsame : names ++ declared (Part.condition expr).touches = names := List.append_nil names
      cases heq
      obtain ⟨hsteps, hfound⟩ := ih h htail
      rw [hsteps, hsame]
      exact ⟨rfl, hlater hfound⟩
    | predicate p =>
      simp only [compileParts, state_bind_eq_ok, state_pure_eq_ok] at hparts
      obtain ⟨step, l, hstep, ⟨others, tail⟩, l', htail, heq, rfl⟩ := hparts
      obtain ⟨rfl, hl⟩ := compilePredicate_eq_ok h hstep
      cases heq
      obtain ⟨hsteps, hfound⟩ := ih hl htail
      rw [hsteps]
      exact ⟨rfl, hlater hfound⟩

/-- The filter of a clause that compiles. -/
theorem compileClause_filter {source : EventSource} (h : locals.Holds names) {parts : List Part}
    {clause : CompiledClause} (hclause : compileClause source parts locals = .ok clause locals') :
    clause.filter = steps source names parts := by
  simp only [compileClause, state_bind_eq_ok] at hclause
  obtain ⟨⟨found, filter⟩, l, hparts, hclause⟩ := hclause
  have hfilter := (compileParts_eq_ok h hparts).1
  cases found with
  | none => exact absurd hclause state_throw_ne_ok
  | some invocation =>
    cases hclause
    exact hfilter

/-- The invocation of a clause that compiles is that of one of its parts. -/
lemma compileClause_invocation {source : EventSource} {parts : List Part} {clause : CompiledClause}
    (h : compileClause source parts locals = .ok clause locals') :
    ∃ i names, .invocation i ∈ parts ∧ clause.invocation = i.code names := by
  simp only [compileClause, state_bind_eq_ok] at h
  obtain ⟨⟨found, filter⟩, l, hparts, hclause⟩ := h
  rcases (compileParts_eq_ok (Locals.holds_names locals) hparts).2 with rfl | ⟨i, names, hi, rfl⟩
  · exact absurd hclause state_throw_ne_ok
  · cases hclause
    exact ⟨i, names, hi, rfl⟩

end ChannelRules
