import ChannelRules.Proofs.Check.Scoped
import ChannelRules.Proofs.Named
import Mathlib.Data.List.Nodup

/-!
# Keywords and their cells

Every declaration of a keyword has a cell of its own: a top-level keyword the cell of its name, a
keyword of a compute module the cell of the two names with a dot in between. As long as the declared
names hold no dots, cells of different declarations are different. The checker gives each cell the
type of its declaration.
-/

namespace ChannelRules

namespace Source

/-- The keyword that a statement declares, with its type. -/
def Statement.keyword? : Statement → Option (String × Ty)
  | keyword name ty => some (name, ty)
  | _ => none

/-- The compute module that a statement is, with the keywords it declares. -/
def Statement.module? : Statement → Option (String × List (String × Ty))
  | computeModule name statements => some (name, statements.filterMap keyword?)
  | _ => none

/-- The cells of the keywords of a compute module, with their types. -/
def moduleCells (module : String × List (String × Ty)) : List (String × Ty) :=
  module.2.map fun keyword => (moduleCell module.1 keyword.1, keyword.2)

namespace Program

/-- The top-level keywords, with their types. -/
def keywords (program : Program) : List (String × Ty) :=
  program.statements.filterMap Statement.keyword?

/-- The compute modules, each with its keywords. -/
def modules (program : Program) : List (String × List (String × Ty)) :=
  program.statements.filterMap Statement.module?

/-- The cells of all keywords, with their types: one for each declaration. -/
def cells (program : Program) : List (String × Ty) :=
  program.keywords ++ program.modules.flatMap moduleCells

/-- The names of the parameters, the keywords and the compute modules. -/
def declaredNames (program : Program) : List String :=
  program.params.map Prod.fst ++ program.keywords.map Prod.fst ++ program.modules.map Prod.fst ++
    program.modules.flatMap fun module => module.2.map Prod.fst

/-- No declared name holds a dot. -/
def Undotted (program : Program) : Prop :=
  ∀ name ∈ program.declaredNames, '.' ∉ name.toList

variable {program : Program}

lemma Undotted.keyword (h : program.Undotted) {keyword : String × Ty}
    (hkeyword : keyword ∈ program.keywords) : '.' ∉ keyword.1.toList := by
  refine h _ ?_
  simp only [declaredNames, List.mem_append]
  exact .inl (.inl (.inr (List.mem_map_of_mem hkeyword)))

lemma Undotted.module (h : program.Undotted) {module : String × List (String × Ty)}
    (hmodule : module ∈ program.modules) : '.' ∉ module.1.toList := by
  refine h _ ?_
  simp only [declaredNames, List.mem_append]
  exact .inl (.inr (List.mem_map_of_mem hmodule))

lemma Undotted.moduleKeyword (h : program.Undotted) {module : String × List (String × Ty)}
    (hmodule : module ∈ program.modules) {name : String} (hname : name ∈ module.2.map Prod.fst) :
    '.' ∉ name.toList := by
  refine h _ ?_
  simp only [declaredNames, List.mem_append]
  exact .inr (List.mem_flatMap.2 ⟨module, hmodule, hname⟩)

end Program

end Source

open Source

lemma toList_moduleCell (module name : String) :
    (moduleCell module name).toList = module.toList ++ '.' :: name.toList := by
  rw [moduleCell, String.toList_append, String.toList_append, List.append_assoc]
  rfl

/-- Names without dots can be read off their cell. -/
lemma moduleCell_inj {module name module' name' : String} (hmodule : '.' ∉ module.toList)
    (hname : '.' ∉ name.toList) :
    moduleCell module name = moduleCell module' name' ↔ module = module' ∧ name = name' := by
  rw [← String.toList_inj, toList_moduleCell, toList_moduleCell,
    List.append_cons_inj_of_notMem hmodule hname, String.toList_inj, String.toList_inj]
  simp only [true_and]

lemma map_fst_moduleCells (module : String × List (String × Ty)) :
    (moduleCells module).map Prod.fst = (module.2.map Prod.fst).map (moduleCell module.1) := by
  rw [moduleCells, List.map_map, List.map_map]
  rfl

lemma exists_of_mem_moduleCells {module : String × List (String × Ty)} {cell : String}
    (h : cell ∈ (moduleCells module).map Prod.fst) :
    ∃ name ∈ module.2.map Prod.fst, moduleCell module.1 name = cell := by
  rw [map_fst_moduleCells] at h
  exact List.mem_map.1 h

/-- Without dots in the names, and without a name declared twice in one place, all cells are
different. -/
lemma Source.Program.nodup_cells {program : Program} (hdots : program.Undotted)
    (hnames : (program.keywords.map Prod.fst ++ program.modules.map Prod.fst).Nodup)
    (hmodules : ∀ module ∈ program.modules, (module.2.map Prod.fst).Nodup) :
    (program.cells.map Prod.fst).Nodup := by
  obtain ⟨hkeywords, hmoduleNames, -⟩ := List.nodup_append.1 hnames
  rw [cells, List.map_append, List.map_flatMap, List.nodup_append]
  refine ⟨hkeywords, List.nodup_flatMap.2 ⟨fun module hmodule => ?_, ?_⟩, ?_⟩
  · rw [map_fst_moduleCells]
    refine (hmodules module hmodule).map_on fun name hname _ _ heq => ?_
    exact ((moduleCell_inj (hdots.module hmodule) (hdots.moduleKeyword hmodule hname)).1 heq).2
  · have hdistinct : program.modules.Pairwise fun a b => a.1 ≠ b.1 :=
      List.pairwise_map.1 hmoduleNames
    refine hdistinct.imp_of_mem fun {a b} ha hb hne => ?_
    intro cell hcell hcell'
    obtain ⟨name, hname, rfl⟩ := exists_of_mem_moduleCells hcell
    obtain ⟨_, -, heq⟩ := exists_of_mem_moduleCells hcell'
    exact hne ((moduleCell_inj (hdots.module ha) (hdots.moduleKeyword ha hname)).1 heq.symm).1
  · -- Only the cells of modules hold dots.
    intro name hname cell hcell heq
    obtain ⟨keyword, hkeyword, rfl⟩ := List.mem_map.1 hname
    obtain ⟨module, -, hcell⟩ := List.mem_flatMap.1 hcell
    obtain ⟨name, -, rfl⟩ := exists_of_mem_moduleCells hcell
    refine hdots.keyword hkeyword ?_
    rw [heq, toList_moduleCell]
    exact List.mem_append_right _ List.mem_cons_self

/-- The keywords and compute modules in scope are the given ones, and keywords have the cells of
their names. -/
structure Scope.Declares (scope : Scope) (keywords : List (String × Ty)) (modules : List String) :
    Prop where
  keyword : ∀ name ty cell, scope.get? name = some ⟨ty, .keyword cell⟩ ↔
    (name, ty) ∈ keywords ∧ cell = name
  module : ∀ name, (∃ ty, scope.get? name = some ⟨ty, .module⟩) ↔ name ∈ modules
  nodup : (keywords.map Prod.fst ++ modules).Nodup

section Declares

variable {scope scope' : Scope} {keywords : List (String × Ty)} {modules : List String}
  {name : String} {ty : Ty}

lemma Scope.declares_empty : Scope.empty.Declares [] [] where
  keyword := by simp [get?, layers, empty]
  module := by simp [get?, layers, empty]
  nodup := List.nodup_nil

lemma Scope.Declares.fresh (h : scope.Declares keywords modules) (hnone : scope.get? name = none) :
    name ∉ keywords.map Prod.fst ++ modules := by
  rw [List.mem_append]
  rintro (hkeyword | hmodule)
  · obtain ⟨⟨_, ty⟩, hmem, rfl⟩ := List.mem_map.1 hkeyword
    rw [(h.keyword _ ty _).2 ⟨hmem, rfl⟩] at hnone
    cases hnone
  · obtain ⟨ty, hget⟩ := (h.module name).2 hmodule
    rw [hnone] at hget
    cases hget

lemma Scope.get?_declare_iff {entry found : Entry} {x : String}
    (h : scope.declare? name entry = some scope') :
    scope'.get? x = some found ↔ scope.get? x = some found ∨ x = name ∧ found = entry := by
  obtain ⟨hnone, hself, hother⟩ := get?_declare h
  by_cases hx : x = name
  · rw [hx, hself, hnone]
    simp [eq_comm]
  · rw [hother x hx]
    simp [hx]

lemma Scope.Declares.declare_param (h : scope.Declares keywords modules)
    (hdeclare : scope.declare? name ⟨ty, .param⟩ = some scope') :
    scope'.Declares keywords modules where
  keyword x ty' cell := by
    rw [get?_declare_iff hdeclare, h.keyword]
    simp
  module x := by
    simp only [get?_declare_iff hdeclare, exists_or, h.module]
    simp
  nodup := h.nodup

lemma Scope.Declares.declare_keyword (h : scope.Declares keywords modules)
    (hdeclare : scope.declare? name ⟨ty, .keyword name⟩ = some scope') :
    scope'.Declares (keywords ++ [(name, ty)]) modules where
  keyword x ty' cell := by
    rw [get?_declare_iff hdeclare, h.keyword, List.mem_append, List.mem_singleton]
    constructor
    · rintro (⟨hmem, rfl⟩ | ⟨rfl, heq⟩)
      · exact ⟨.inl hmem, rfl⟩
      · cases heq
        exact ⟨.inr rfl, rfl⟩
    · rintro ⟨hmem | heq, rfl⟩
      · exact .inl ⟨hmem, rfl⟩
      · cases heq
        exact .inr ⟨rfl, rfl⟩
  module x := by
    simp only [get?_declare_iff hdeclare, exists_or, h.module]
    simp
  nodup := by
    have hperm : ((keywords ++ [(name, ty)]).map Prod.fst ++ modules).Perm
        (name :: (keywords.map Prod.fst ++ modules)) := by
      rw [List.map_append, List.append_assoc]
      exact List.perm_middle
    have hfresh := h.fresh (get?_declare hdeclare).1
    exact hperm.nodup_iff.2 (List.nodup_cons.2 ⟨hfresh, h.nodup⟩)

lemma Scope.Declares.declare_module (h : scope.Declares keywords modules)
    (hdeclare : scope.declare? name ⟨ty, .module⟩ = some scope') :
    scope'.Declares keywords (modules ++ [name]) where
  keyword x ty' cell := by
    rw [get?_declare_iff hdeclare, h.keyword]
    simp
  module x := by
    simp only [get?_declare_iff hdeclare, exists_or, h.module, List.mem_append, List.mem_singleton]
    simp
  nodup := by
    have hfresh := h.fresh (get?_declare hdeclare).1
    rw [← List.append_assoc]
    exact List.nodup_append_comm.2 (List.nodup_cons.2 ⟨hfresh, h.nodup⟩)

lemma declareParams_declares {params : List (String × Ty)} {u : PUnit} {s s' : CheckState}
    (hs : s.scope.Declares keywords modules) (h : declareParams params s = .ok u s') :
    s'.scope.Declares keywords modules := by
  induction params generalizing s with
  | nil =>
    cases h
    exact hs
  | cons param rest ih =>
    simp only [declareParams, state_bind_eq_ok] at h
    obtain ⟨_, t, hdeclare, hrest⟩ := h
    exact ih (hs.declare_param (Check.declare_eq_ok hdeclare)) hrest

/-- Set the entries of several names, one after the other. -/
def Named.insertAll {α : Type} (map : Named α) (entries : List (String × α)) : Named α :=
  entries.foldl (fun map entry => Named.insert map entry.1 entry.2) map

lemma declareTopLevel_declares {statements : List Statement} {table found : Named Ty}
    {s s' : CheckState} (hs : s.scope.Declares keywords modules)
    (h : declareTopLevel table statements s = .ok found s') :
    s'.scope.Declares (keywords ++ statements.filterMap Statement.keyword?)
        (modules ++ (statements.filterMap Statement.module?).map Prod.fst) ∧
      found = Named.insertAll table (statements.filterMap Statement.keyword?) := by
  induction statements generalizing s keywords modules table with
  | nil =>
    cases h
    rw [List.filterMap_nil, List.filterMap_nil, List.map_nil, List.append_nil, List.append_nil]
    exact ⟨hs, rfl⟩
  | cons statement rest ih =>
    cases statement with
    | keyword name ty =>
      simp only [declareTopLevel, state_bind_eq_ok] at h
      obtain ⟨_, t, hdeclare, hrest⟩ := h
      have hall := ih (hs.declare_keyword (Check.declare_eq_ok hdeclare)) hrest
      rw [List.append_assoc] at hall
      exact hall
    | computeModule name statements =>
      simp only [declareTopLevel, state_bind_eq_ok] at h
      obtain ⟨_, t, hdeclare, hrest⟩ := h
      have hall := ih (hs.declare_module (Check.declare_eq_ok hdeclare)) hrest
      rw [List.append_assoc] at hall
      exact hall
    | rule _ _ _ | command _ _ => exact ih hs h

lemma moduleKeywords_eq_ok {module : String} {names : List String} {table : Named Ty}
    {statements : List Statement} {found : List String × Named Ty} (hnames : names.Nodup)
    (h : moduleKeywords scope module names table statements = .ok found) :
    found.1 = names ++ (statements.filterMap Statement.keyword?).map Prod.fst ∧ found.1.Nodup ∧
      found.2 =
        Named.insertAll table (moduleCells (module, statements.filterMap Statement.keyword?)) := by
  induction statements generalizing names table with
  | nil =>
    cases h
    exact ⟨(List.append_nil names).symm, hnames, rfl⟩
  | cons statement rest ih =>
    cases statement with
    | keyword name ty =>
      rw [moduleKeywords] at h
      split at h
      · cases h
      · rename_i hfresh
        have hmem : name ∉ names := fun hmem => hfresh (by simp [hmem])
        have hall := ih (List.nodup_append_comm.2 (List.nodup_cons.2 ⟨hmem, hnames⟩)) h
        rw [List.append_assoc] at hall
        exact hall
    | computeModule name inner => cases h
    | rule _ _ _ | command _ _ => exact ih hnames h

lemma allModuleKeywords_eq_ok {tables : Named (List String)} {table : Named Ty}
    {statements : List Statement} {found : Named (List String) × Named Ty}
    (h : allModuleKeywords scope tables table statements = .ok found) :
    found.1 = Named.insertAll tables ((statements.filterMap Statement.module?).map fun module =>
        (module.1, module.2.map Prod.fst)) ∧
      found.2 =
        Named.insertAll table ((statements.filterMap Statement.module?).flatMap moduleCells) ∧
      ∀ module ∈ statements.filterMap Statement.module?, (module.2.map Prod.fst).Nodup := by
  induction statements generalizing tables table with
  | nil =>
    cases h
    exact ⟨rfl, rfl, fun _ hmodule => (List.not_mem_nil hmodule).elim⟩
  | cons statement rest ih =>
    cases statement with
    | computeModule name inner =>
      simp only [allModuleKeywords, bind_eq_ok] at h
      obtain ⟨⟨names, table'⟩, hmodule, hrest⟩ := h
      obtain ⟨rfl, hnodup, rfl⟩ := moduleKeywords_eq_ok List.nodup_nil hmodule
      obtain ⟨htables, htable, hothers⟩ := ih hrest
      refine ⟨htables, ?_, List.forall_mem_cons.2 ⟨hnodup, hothers⟩⟩
      rw [htable, Named.insertAll, Named.insertAll, ← List.foldl_append]
      rfl
    | keyword _ _ | rule _ _ _ | command _ _ => exact ih h

end Declares

/-- What checking the declarations of a program finds, with the names in scope afterwards. -/
structure Declarations.Of (declarations : Declarations) (program : Program) (scope : Scope) :
    Prop where
  inScope : scope.Declares program.keywords (program.modules.map Prod.fst)
  moduleNodup : ∀ module ∈ program.modules, (module.2.map Prod.fst).Nodup
  keywords : declarations.keywords = .ofEntries program.cells
  modules : declarations.modules =
    .ofEntries (program.modules.map fun module => (module.1, module.2.map Prod.fst))

lemma checkDeclarations_of {program : Program} {declarations : Declarations} {s : CheckState}
    (h : checkDeclarations program ⟨.empty, []⟩ = .ok declarations s) :
    declarations.Of program s.scope := by
  simp only [checkDeclarations, state_bind_eq_ok, state_pure_eq_ok] at h
  obtain ⟨_, t₁, hparams, topLevel, t₂, htop, shown, t₃, hscope, ⟨tables, table⟩, t₄, hmodules, rfl,
    rfl⟩ := h
  obtain ⟨rfl, rfl⟩ := Check.scope_eq_ok hscope
  obtain ⟨hmodules, hscope⟩ := Check.ofNoted_eq_ok hmodules
  obtain ⟨hdeclares, rfl⟩ :=
    declareTopLevel_declares (declareParams_declares Scope.declares_empty hparams) htop
  obtain ⟨htables, htable, hnodup⟩ := allModuleKeywords_eq_ok hmodules
  rw [hscope]
  exact ⟨hdeclares, hnodup, htable.trans List.foldl_append.symm, htables⟩

section Declarations

variable {program : Program} {declarations : Declarations} {scope : Scope}

lemma Declarations.Of.nodup_cells (h : declarations.Of program scope) (hdots : program.Undotted) :
    (program.cells.map Prod.fst).Nodup :=
  Program.nodup_cells hdots h.inScope.nodup h.moduleNodup

/-- With undotted names the checker gives each cell the type of its declaration. -/
lemma Declarations.Of.get?_eq_some_iff (h : declarations.Of program scope)
    (hdots : program.Undotted) {cell : String} {ty : Ty} :
    Named.get? declarations.keywords cell = some ty ↔ (cell, ty) ∈ program.cells := by
  rw [h.keywords, Named.get?_ofEntries_iff (h.nodup_cells hdots)]

/-- What the checker and the program know about the keywords of a compute module. -/
lemma Declarations.Of.module_keywords (h : declarations.Of program scope)
    {module : String × List (String × Ty)} (hmodule : module ∈ program.modules) :
    Named.get? declarations.modules module.1 = some (module.2.map Prod.fst) ∧
      Named.get? program.modules module.1 = some module.2 := by
  have hnodup : (program.modules.map Prod.fst).Nodup := (List.nodup_append.1 h.inScope.nodup).2.1
  refine ⟨?_, (Named.get?_eq_some_iff hnodup).2 hmodule⟩
  rw [h.modules, Named.get?_ofEntries_iff (by rwa [List.map_map])]
  exact List.mem_map.2 ⟨module, hmodule, rfl⟩

end Declarations

end ChannelRules
