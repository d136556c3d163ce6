import ChannelRules.Proofs.Check.Gathered
import ChannelRules.Proofs.Check.Naming

/-!
# Keywords are used as they are declared

The cells that a checked rule reads and writes are those that its names stand for, and each is used
with the type of its declaration. The names in scope agree with the naming of the program at the
start of every rule, and no name that a rule introduces changes that.
-/

namespace ChannelRules

open Typed (Expr Part Action Rule)

/-- Expressions that read the given cells, and keywords of which have the types of their cells. -/
structure Found (keywords : Named Ty) (cells : List String) (exprs : List Expr) : Prop where
  reads : exprs.flatMap Expr.reads = cells
  typed : ∀ expr ∈ exprs, expr.KeywordsTyped keywords

section Found

variable {keywords : Named Ty}

lemma found_nil : Found keywords [] [] := ⟨rfl, fun _ h => (List.not_mem_nil h).elim⟩

lemma Found.append {cells cells' : List String} {exprs exprs' : List Expr}
    (h : Found keywords cells exprs) (h' : Found keywords cells' exprs') :
    Found keywords (cells ++ cells') (exprs ++ exprs') where
  reads := by rw [List.flatMap_append, h.reads, h'.reads]
  typed := List.forall_mem_append.2 ⟨h.typed, h'.typed⟩

/-- What is found for items one by one is found for all of them. -/
lemma found_flatMap {α β : Type} {cells : α → List String} {exprs : β → List Expr} {items : List α}
    {found : List β}
    (h : List.Forall₂ (fun item b => Found keywords (cells item) (exprs b)) items found) :
    Found keywords (items.flatMap cells) (found.flatMap exprs) := by
  induction h with
  | nil => exact found_nil
  | cons hfirst _ ih => exact hfirst.append ih

end Found

section Clauses

open Check

variable {naming : Naming} {ctx : Context}

lemma Naming.Holds.declare {scope scope' : Scope} (h : naming.Holds ctx.keywords scope)
    {name : String} {ty : Ty} (hdeclare : scope.declare? name ⟨ty, .introduced⟩ = some scope') :
    naming.Holds ctx.keywords scope' where
  keyword x cell := by
    simp only [Scope.get?_declare_iff hdeclare, h.keyword, exists_or]
    simp
  typed x ty' cell hget := by
    rcases (Scope.get?_declare_iff hdeclare).1 hget with hget | ⟨-, heq⟩
    · exact h.typed x ty' cell hget
    · cases heq
  module x := by
    simp only [Scope.get?_declare_iff hdeclare, h.module, exists_or]
    simp

/-- A name that nothing declares stands for no cell. -/
lemma reads_eq_nil_of_freshName? {scope : Scope} (h : naming.Holds ctx.keywords scope)
    {e : Source.Expr} {name : String} (hfresh : freshName? scope e = some name) :
    naming.reads e = [] := by
  have hcell : ∀ x, scope.has x = false → naming.cell? x = none := by
    intro x hx
    refine h.cell?_eq_none fun ty cell hget => ?_
    rw [Scope.has, hget] at hx
    cases hx
  unfold freshName? at hfresh
  split at hfresh
  · rename_i x hbare
    split at hfresh
    · cases hfresh
    · rename_i hhas
      have hnone := hcell x (Bool.eq_false_iff.2 hhas)
      unfold bareName? at hbare
      split at hbare
      · cases hbare
        rw [Naming.reads, hnone]
        rfl
      · cases hbare
        rw [Naming.reads, hnone]
        rfl
      · cases hbare
  · cases hfresh

lemma Naming.clauseReads_eq (naming : Naming) (parts : List Source.Part) :
    naming.clauseReads parts = naming.readsAll
      ((PartOrder.canonical.arrange Source.Part.rank parts).flatMap Source.Part.exprs) := by
  rw [clauseReads, readsAll_eq, List.flatMap_assoc]
  congr 1
  funext part
  cases part with
  | invocation i => exact naming.readsAll_eq i.params
  | _ => exact (List.flatMap_singleton _ _).symm

/-- An expression reads the cells that its names stand for. -/
lemma gathers_found : Gathers (naming.Holds ctx.keywords) ctx fun es exprs =>
    Found ctx.keywords (naming.readsAll es) exprs where
  keeps := fun _ _ _ _ h hdeclare => h.declare hdeclare
  checked := by
    intro scope e te hscope hte
    refine ⟨?_, fun expr hexpr => ?_⟩
    · rw [List.flatMap_singleton, checkExpr_reads hscope e hte, naming.readsAll_singleton]
    · cases List.mem_singleton.1 hexpr
      exact (checkExpr_checked scope ctx.keywords e hte).keywordsTyped hscope
  fresh := by
    intro scope e name hscope hfresh
    rw [naming.readsAll_singleton, reads_eq_nil_of_freshName? hscope hfresh]
    exact found_nil
  null := found_nil
  nil := found_nil
  append := by
    intro es es' exprs exprs' h h'
    rw [naming.readsAll_eq, List.flatMap_append, ← naming.readsAll_eq, ← naming.readsAll_eq]
    exact h.append h'
  call := by
    intro name es exprs h
    rw [naming.readsAll_singleton, Naming.reads]
    exact h

lemma yields_checkClause (sort : Section) (parts : List Source.Part) :
    Yields (naming.Holds ctx.keywords) (checkClause ctx sort parts)
      fun found => Found ctx.keywords (naming.clauseReads parts) (found.flatMap Part.exprs) := by
  intro s s' found hs h
  obtain ⟨hs', hfound⟩ := gathered_checkClause gathers_found sort parts s s' found hs h
  rw [← naming.clauseReads_eq] at hfound
  exact ⟨hs', hfound⟩

lemma yields_checkTrigger (source : Option (List Source.Part)) :
    Yields (naming.Holds ctx.keywords) (checkTrigger ctx source) fun trigger =>
      Found ctx.keywords (source.toList.flatMap naming.clauseReads)
        ((trigger.getD []).flatMap Part.exprs) := by
  cases source with
  | none => exact yields_pure found_nil
  | some parts =>
    refine (yields_checkClause .triggers parts).bind fun found hfound => yields_pure ?_
    rw [Option.toList_some, List.flatMap_singleton]
    exact hfound

end Clauses

section Actions

open Check

variable {naming : Naming} {ctx : Context}

/-- A parameter reads what its names stand for, and agrees with its type. -/
def ArgumentFound (naming : Naming) (keywords : Named Ty) (arg : Source.Expr × Ty)
    (found : Option Expr) : Prop :=
  Found keywords (naming.reads arg.1) found.toList ∧
    ∀ te ∈ found, ∃ joined, (Ty.agree arg.2 te.ty).result = .ok joined

lemma yields_checkArguments (channel : ChannelRef) (params : List Source.Expr) (types : List Ty)
    (index : Nat) :
    Yields (naming.Holds ctx.keywords) (checkArguments ctx channel index params types)
      (List.Forall₂ (ArgumentFound naming ctx.keywords) (params.zip types)) := by
  intro s s' found hs h
  obtain ⟨hs', hfound⟩ :=
    gathered_checkArguments gathers_found channel params types index s s' found hs h
  refine ⟨hs', hfound.imp fun arg te harg => ?_⟩
  rw [naming.readsAll_singleton] at harg
  exact harg

lemma found_arguments {params : List Source.Expr} {types : List Ty} {found : List (Option Expr)}
    (h : List.Forall₂ (ArgumentFound naming ctx.keywords) (params.zip types) found) :
    Found ctx.keywords (naming.readsAll (params.take found.length)) (found.filterMap id) := by
  have hargs : (params.zip types).map Prod.fst = params.take found.length := by
    rw [← h.length_eq, List.length_zip, List.zip_eq_zip_take_min]
    exact List.map_fst_zip (by simp)
  have hall := found_flatMap (h.imp fun _ _ harg => harg.1)
  rw [← hargs, naming.readsAll_eq, List.flatMap_map, List.filterMap_eq_flatMap_toList]
  exact hall

/-- What is known about an action and the part that it is made of. -/
structure ActionFound (naming : Naming) (keywords : Named Ty) (part : Source.Part)
    (action : Action) : Prop where
  acts : naming.Acts part action
  written : action.KeywordTyped keywords
  typed : ∀ expr ∈ action.exprs, expr.KeywordsTyped keywords

lemma channelTypes_computeModule {module name kind : String} {sort : Section} {types : List Ty}
    (h : channelTypes ctx (.computeModule module) name sort = .ok (kind, types)) :
    ∃ ty, Named.get? ctx.keywords (moduleCell module name) = some ty ∧ types = [ty] := by
  cases hget : Named.get? ctx.keywords (moduleCell module name) with
  | none =>
    simp only [channelTypes, hget] at h
    cases h
  | some ty =>
    simp only [channelTypes, hget] at h
    cases h
    exact ⟨ty, rfl, rfl⟩

lemma actionOf_found {invocation : Source.Invocation} {channel : ChannelRef} {types : List Ty}
    (hresolve : resolveChannel ctx invocation .actions = .ok (channel, types))
    {params : List (Option Expr)}
    (hparams : List.Forall₂ (ArgumentFound naming ctx.keywords) (invocation.params.zip types)
      params)
    {action : Action} (h : actionOf channel params = .ok action) :
    ActionFound naming ctx.keywords (.invocation invocation) action := by
  simp only [resolveChannel, bind_eq_ok, pure_eq_ok] at hresolve
  obtain ⟨⟨kind, types⟩, htypes, heq⟩ := hresolve
  cases heq
  unfold actionOf at h
  split at h
  · rename_i module hselector
    split at h
    · rename_i expr rest
      cases h
      obtain ⟨selector, name, args⟩ := invocation
      cases hselector
      obtain ⟨ty, hget, rfl⟩ := channelTypes_computeModule htypes
      cases args with
      | nil => cases hparams
      | cons e args =>
        obtain ⟨⟨hfound, hagrees⟩, -⟩ := List.forall₂_cons.1 hparams
        have hreads := hfound.reads
        rw [Option.toList_some, List.flatMap_singleton] at hreads
        exact ⟨.writeMember hreads, ⟨ty, hget, hagrees expr rfl⟩, hfound.typed⟩
    · cases h
  · rename_i hselector
    cases h
    have hfound := found_arguments hparams
    exact ⟨.invoke hselector hfound.reads, trivial, hfound.typed⟩

lemma yields_checkAction (part : Source.Part) :
    Yields (naming.Holds ctx.keywords) (checkAction ctx part)
      (ActionFound naming ctx.keywords part) := by
  cases part with
  | invocation i =>
    refine (yields_ofNoted (P := fun found => resolveChannel ctx i .actions = .ok found)
      fun _ h => h).bind fun found hresolve => ?_
    dsimp only
    split
    · exact (yields_throw (P := fun _ => False) _).bind fun _ h => h.elim
    · exact (yields_checkArguments _ _ _ _).bind fun params hparams =>
        yields_ofNoted fun action haction => actionOf_found hresolve hparams haction
  | binding name e =>
    refine yields_scope.bind fun scope hscope => (yields_ofNoted
      (P := fun found => keywordCell scope name = .ok found) fun _ h => h).bind fun found hcell =>
        (gathered_expr gathers_found e).bind fun te hte => (yields_agree _ _ _).bind
          fun joined hjoined => yields_pure ?_
    obtain ⟨cell, ty⟩ := found
    unfold keywordCell at hcell
    split at hcell
    · cases hcell
    · rename_i hget
      cases hcell
      have hreads := hte.reads
      rw [List.flatMap_singleton, naming.readsAll_singleton] at hreads
      exact ⟨.write ((hscope.keyword name cell).2 ⟨ty, hget⟩) hreads,
        ⟨ty, hscope.typed name ty cell hget, joined, hjoined⟩, hte.typed⟩
    · cases hcell
  | predicate e => exact yields_throw _
  | condition e => exact yields_throw _

end Actions

/-- In a checked rule the names of keywords stand for the cells that the naming gives them, and all
keywords have the types of their cells. -/
structure Naming.Settles (naming : Naming) (keywords : Named Ty) (source : RuleSource)
    (rule : Rule) : Prop where
  module : rule.module = source.module
  reads : rule.inputReads = naming.inputReads source
  acts : List.Forall₂ naming.Acts source.actions rule.actions
  typed : ∀ expr ∈ rule.exprs, expr.KeywordsTyped keywords
  written : ∀ action ∈ rule.actions, action.KeywordTyped keywords

section Rules

variable {naming : Naming} {ctx : Context}

lemma settles_of_stages {source : RuleSource} {rule : Rule} {t t₁ t₂ t₃ : CheckState}
    (hmodule : rule.module = source.module) (ht : naming.Holds ctx.keywords t.scope)
    (htrigger : checkTrigger ctx source.trigger t = .ok rule.trigger t₁)
    (hqueries : Check.forAll (checkClause ctx .queries) source.queries t₁ = .ok rule.queries t₂)
    (hactions : checkActions ctx source.actions t₂ = .ok rule.actions t₃) :
    naming.Settles ctx.keywords source rule := by
  obtain ⟨ht₁, htrigger⟩ := yields_checkTrigger source.trigger t t₁ rule.trigger ht htrigger
  obtain ⟨ht₂, hqueries⟩ :=
    Check.yields_forAll (yields_checkClause .queries) _ t₁ t₂ rule.queries ht₁ hqueries
  obtain ⟨-, hactions⟩ := Check.yields_forAll yields_checkAction _ t₂ t₃ rule.actions ht₂ hactions
  have hinputs := htrigger.append (found_flatMap hqueries)
  have hparts : rule.inputParts.flatMap Part.exprs = (rule.trigger.getD []).flatMap Part.exprs ++
      rule.queries.flatMap fun parts => parts.flatMap Part.exprs := by
    rw [Rule.inputParts, List.flatMap_append, ← List.flatMap_id, List.flatMap_assoc]
    rfl
  rw [← hparts, ← List.flatMap_append] at hinputs
  -- The actions are related to their parts one by one; the types hold for each of them alone.
  have hfound : ∀ action ∈ rule.actions, ∃ part, ActionFound naming ctx.keywords part action := by
    intro action haction
    obtain ⟨part, -, hpart⟩ := exists_of_mem_forall₂ hactions haction
    exact ⟨part, hpart⟩
  refine ⟨hmodule, hinputs.reads, hactions.imp fun _ _ h => h.acts, fun expr hexpr => ?_,
    fun action haction => ?_⟩
  · rcases List.mem_append.1 hexpr with hexpr | hexpr
    · exact hinputs.typed expr hexpr
    · obtain ⟨action, haction, hexpr⟩ := List.mem_flatMap.1 hexpr
      obtain ⟨_, hpart⟩ := hfound action haction
      exact hpart.typed expr hexpr
  · obtain ⟨_, hpart⟩ := hfound action haction
    exact hpart.written

lemma Naming.Holds.declare_inside {keywords : Named Ty} {scope scope' : Scope}
    (h : naming.Holds keywords scope) {module name : String} {ty : Ty}
    (hget : Named.get? keywords (moduleCell module name) = some ty)
    (hdeclare : scope.declare? name ⟨ty, .keyword (moduleCell module name)⟩ = some scope') :
    (naming.inside module [name]).Holds keywords scope' where
  keyword x cell := by
    simp only [Scope.get?_declare_iff hdeclare, exists_or, ← h.keyword]
    by_cases hx : x = name
    · have hnone : naming.cell? x = none := by
        refine h.cell?_eq_none fun ty' cell' hget' => ?_
        rw [hx, (Scope.get?_declare hdeclare).1] at hget'
        cases hget'
      simp [Naming.inside, hx ▸ hnone, hx, eq_comm]
    · simp [Naming.inside, hx]
  typed x ty' cell hget' := by
    rcases (Scope.get?_declare_iff hdeclare).1 hget' with hget' | ⟨-, heq⟩
    · exact h.typed x ty' cell hget'
    · cases heq
      exact hget
  module x := by
    simp only [Scope.get?_declare_iff hdeclare, exists_or, ← h.module]
    simp [Naming.inside]

/-- Inside a compute module its keywords are in scope by their bare names. -/
lemma Naming.Holds.inside {module : String} {names : List String} {u : PUnit} {s s' : CheckState}
    (hs : naming.Holds ctx.keywords s.scope)
    (hcells : ∀ name ∈ names, ∃ ty, Named.get? ctx.keywords (moduleCell module name) = some ty)
    (h : declareModuleNames ctx module names s = .ok u s') :
    (naming.inside module names).Holds ctx.keywords s'.scope := by
  induction names generalizing naming s with
  | nil =>
    cases h
    refine ⟨fun name cell => ?_, hs.typed, hs.module⟩
    rw [← hs.keyword name cell, Naming.inside]
    simp
  | cons name rest ih =>
    obtain ⟨⟨ty, hget⟩, hothers⟩ := List.forall_mem_cons.1 hcells
    simp only [declareModuleNames, state_bind_eq_ok, hget, Option.getD_some] at h
    obtain ⟨_, t, hdeclare, hrest⟩ := h
    have hfirst := hs.declare_inside hget (Check.declare_eq_ok hdeclare)
    have hall := ih hfirst hothers hrest
    rw [naming.inside_cons] at hall
    exact hall

end Rules

section Programs

variable {program : Source.Program} {declarations : Declarations} {scope : Scope}

/-- Outside of all compute modules the naming of a program agrees with its declarations. -/
lemma outside_holds (h : declarations.Of program scope) (hdots : program.Undotted) :
    program.outside.Holds declarations.keywords scope := by
  refine ⟨fun name cell => ?_, fun name ty cell hget => ?_, fun name => ?_⟩
  · simp only [h.inScope.keyword, Source.Program.outside]
    constructor
    · intro hcell
      split at hcell
      · rename_i hmem
        cases hcell
        obtain ⟨⟨_, ty⟩, hkeyword, rfl⟩ := List.mem_map.1 hmem
        exact ⟨ty, hkeyword, rfl⟩
      · cases hcell
    · rintro ⟨ty, hkeyword, rfl⟩
      exact if_pos (List.mem_map_of_mem hkeyword)
  · obtain ⟨hmem, rfl⟩ := (h.inScope.keyword name ty cell).1 hget
    exact (h.get?_eq_some_iff hdots).2 (List.mem_append_left _ hmem)
  · rw [h.inScope.module]
    exact decide_eq_true_iff

lemma Naming.Holds.enter {naming : Naming} {keywords : Named Ty} {scope : Scope}
    (h : naming.Holds keywords scope) : naming.Holds keywords scope.enter := by
  refine ⟨fun name cell => ?_, fun name ty cell => ?_, fun name => ?_⟩
  · simp only [Scope.get?_enter, h.keyword]
  · rw [Scope.get?_enter]
    exact h.typed name ty cell
  · simp only [Scope.get?_enter, h.module]

/-- A rule that stands in a compute module stands in one of the modules of its program. -/
lemma exists_module_of_mem_rules {source : RuleSource} (hsource : source ∈ program.rules)
    {module : String} (hmodule : source.module = some module) :
    ∃ keywords, (module, keywords) ∈ program.modules := by
  obtain ⟨statement, hstatement, hsource⟩ := List.mem_flatMap.1 hsource
  cases statement with
  | computeModule name statements =>
    obtain ⟨inner, -, hinner⟩ := List.mem_filterMap.1 hsource
    have hname : source.module = some name := by
      cases inner <;> cases hinner <;> rfl
    cases hname.symm.trans hmodule
    exact ⟨_, List.mem_filterMap.2 ⟨_, hstatement, rfl⟩⟩
  | keyword _ _ => cases hsource
  | rule _ _ _ | command _ _ =>
    cases List.mem_singleton.1 hsource
    cases hmodule

lemma exists_type_of_moduleCell (h : declarations.Of program scope) (hdots : program.Undotted)
    {module : String × List (String × Ty)} (hmodule : module ∈ program.modules) :
    ∀ name ∈ module.2.map Prod.fst,
      ∃ ty, Named.get? declarations.keywords (moduleCell module.1 name) = some ty := by
  intro name hname
  obtain ⟨⟨_, ty⟩, hkeyword, rfl⟩ := List.mem_map.1 hname
  have hcell : (moduleCell module.1 _, ty) ∈ Source.moduleCells module :=
    List.mem_map.2 ⟨_, hkeyword, rfl⟩
  exact ⟨ty, (h.get?_eq_some_iff hdots).2
    (List.mem_append_right _ (List.mem_flatMap.2 ⟨module, hmodule, hcell⟩))⟩

/-- A rule that is checked after the declarations uses keywords as the naming of its program
says. -/
lemma checkRuleBody_settles (h : declarations.Of program scope) (hdots : program.Undotted)
    {source : RuleSource} (hsource : source ∈ program.rules) {kinds : Named KindSchemas} {id : Nat}
    {rule : Rule} {t t' : CheckState} (ht : t.scope = scope.enter)
    (hrule : checkRuleBody ⟨kinds, declarations.keywords⟩ declarations.modules source id t =
      .ok rule t') :
    (program.naming source.module).Settles declarations.keywords source rule := by
  obtain ⟨hsame, t₀, t₁, t₂, t₃, houtside, hinside, htrigger, hqueries, hactions⟩ :=
    checkRuleBody_stages _ hrule
  have hdeclared := (outside_holds h hdots).enter
  rw [← ht] at hdeclared
  -- A rule in a compute module sees the keywords of the module on top of the declarations.
  have hholds : (program.naming source.module).Holds declarations.keywords t₀.scope := by
    cases hmodule : source.module with
    | none =>
      rw [houtside hmodule]
      exact hdeclared
    | some module =>
      obtain ⟨u, hdeclare⟩ := hinside module hmodule
      obtain ⟨keywords, hmem⟩ := exists_module_of_mem_rules hsource hmodule
      obtain ⟨hnames, hkeywords⟩ := h.module_keywords hmem
      rw [hnames, Option.getD_some] at hdeclare
      rw [Source.Program.naming, hkeywords, Option.getD_some]
      exact hdeclared.inside (exists_type_of_moduleCell h hdots hmem) hdeclare
  exact settles_of_stages hsame hholds htrigger hqueries hactions

/-- **Keywords are used as they are declared.** If no declared name holds a dot, every declaration
of a keyword has a cell of its own, of the declared type, and rules read and write the cells that
their names stand for, with the types of these cells. Inside a compute module the bare name of one
of its keywords stands for the cell of that module. -/
theorem checkProgram_keywords {kinds : Named KindSchemas} {program : Source.Program}
    {typed : Typed.Program} (h : (checkProgram kinds program).result = .ok typed)
    (hdots : program.Undotted) :
    (program.cells.map Prod.fst).Nodup ∧ typed.keywords.Perm program.cells ∧
      List.Forall₂ (fun source rule =>
        (program.naming source.module).Settles typed.keywords source rule)
          program.rules typed.rules ∧
      ∀ module ∈ program.modules, ∀ keyword ∈ module.2,
        (program.naming (some module.1)).cell? keyword.1 =
          some (moduleCell module.1 keyword.1) := by
  obtain ⟨declarations, s, rules, hdeclarations, hrules, rfl⟩ := checkProgram_eq_ok_iff.1 h
  have hof := checkDeclarations_of hdeclarations
  have hnodup := hof.nodup_cells hdots
  have hperm : declarations.keywords.Perm program.cells := by
    rw [hof.keywords]
    exact Named.perm_ofEntries hnodup
  refine ⟨hnodup, hperm, ?_, fun module hmodule keyword hkeyword => ?_⟩
  · have hmem : ∀ source ∈ program.rules.zipIdx, source.1 ∈ program.rules :=
      fun source hsource => List.fst_mem_of_mem_zipIdx hsource
    have hall := (List.forall₂_and_left _ _).2 ⟨hmem, hrules⟩
    rw [← List.zipIdx_map_fst 0 program.rules, List.forall₂_map_left_iff]
    refine hall.imp fun source rule hrule => ?_
    obtain ⟨t', ht'⟩ := Check.run_eq_ok_iff.1 hrule.2
    exact checkRuleBody_settles hof hdots hrule.1 rfl ht'
  · rw [Source.Program.naming, (hof.module_keywords hmodule).2]
    exact if_pos (List.mem_map_of_mem hkeyword)

/-- A program that names the keyword `page` of its module `book` in three ways. -/
def ledger : Source.Program :=
  ⟨"ledger", [], [.keyword "last" .string,
    .computeModule "book" [.keyword "page" .string, .command [] [.binding "last" (.var "page")]],
    .command [] [.invocation ⟨.computeModule "book", "page", [.var "last"]⟩,
      .binding "last" (.member (.var "book") "page")]]⟩

/-- All three names stand for the cell `book.page`. -/
theorem checkProgram_keywords_ledger :
    ∃ typed, (checkProgram [] ledger).result = .ok typed ∧ ledger.Undotted ∧
      typed.keywords.Perm [("last", .string), ("book.page", .string)] ∧
      List.Forall₂ (fun source rule =>
        (ledger.naming source.module).Settles typed.keywords source rule) ledger.rules typed.rules ∧
      (ledger.naming (some "book")).cell? "page" = some "book.page" := by
  have h : (checkProgram [] ledger).result = .ok ⟨"ledger", [],
      [("book.page", .string), ("last", .string)], [
        ⟨0, some "book", none, [], [.keyword "last" (.keyword .string "book.page")]⟩,
        ⟨1, none, none, [], [.keyword "book.page" (.keyword .string "last"),
          .keyword "last" (.keyword .string "book.page")]⟩]⟩ := by
    cbv
  have hdots : ledger.Undotted := by
    unfold Source.Program.Undotted
    decide
  obtain ⟨-, hperm, hrules, hmodules⟩ := checkProgram_keywords h hdots
  exact ⟨_, h, hdots, hperm, hrules,
    hmodules _ List.mem_cons_self _ List.mem_cons_self⟩

end Programs

end ChannelRules
