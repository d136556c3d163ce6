import ChannelRules.Check.State
import ChannelRules.Proofs.Named
import Mathlib.Data.List.Infix

/-!
# Layers through a run

Names come into scope and leave it by four changes: a layer is entered or left, a name is declared,
or its type is refined. Whatever the order of the changes, a name stands in one layer only. A run
that leaves no layer it has not entered gives the layers around it back as they were, up to the types
that it has refined.
-/

namespace ChannelRules

namespace Scope

/-- A change of the names in scope. -/
inductive Change where
  | enter
  | exit
  | declare (name : String) (entry : Entry)
  | refine (name : String) (ty : Ty)
  deriving DecidableEq

/-- The names in scope after a change; a declaration can fail. -/
def after (scope : Scope) : Change → Scope
  | .enter => scope.enter
  | .exit => scope.exit
  | .declare name entry => (scope.declare? name entry).getD scope
  | .refine name ty => scope.refine name ty

/-- The names in scope after some changes. -/
def run (scope : Scope) (changes : List Change) : Scope := changes.foldl after scope

/-- What a change makes of the type of a name that is declared already. -/
def Change.onType (name : String) (ty : Ty) : Change → Ty
  | .refine other new => if other = name then new else ty
  | _ => ty

/-- The type of a name after some changes: that of the last refinement, if there is any. -/
def typeAfter (name : String) (changes : List Change) (ty : Ty) : Ty :=
  changes.foldl (Change.onType name) ty

/-- A layer with the types after some changes. -/
def refinedBy (changes : List Change) (layer : Named Entry) : Named Entry :=
  layer.map fun x => (x.1, { x.2 with ty := typeAfter x.1 changes x.2.ty })

/-- No first part of a run leaves more layers than it has entered. -/
def StaysInside (changes : List Change) : Prop :=
  ∀ before, before <+: changes → before.count .exit ≤ before.count .enter

instance (changes : List Change) : Decidable (StaysInside changes) :=
  decidable_of_iff (∀ before ∈ changes.inits, before.count .exit ≤ before.count .enter)
    (by simp only [List.mem_inits, StaysInside])

/-- Layers in order, of which no two have a name in common. -/
structure Apart (layers : List (Named Entry)) : Prop where
  ordered : ∀ layer ∈ layers, Named.Ordered layer
  disjoint : (layers.map Named.names).Pairwise List.Disjoint

@[simp] lemma refinedBy_nil : refinedBy [] = id := by
  funext layer
  exact List.map_id layer

lemma refinedBy_cons (change : Change) (rest : List Change) :
    refinedBy (change :: rest) = refinedBy rest ∘ refinedBy [change] := by
  funext layer
  rw [Function.comp_apply, refinedBy, refinedBy, refinedBy, List.map_map]
  rfl

@[simp] lemma names_refinedBy (changes : List Change) (layer : Named Entry) :
    Named.names (refinedBy changes layer) = Named.names layer := List.map_map

lemma refinedBy_eq_self {change : Change} (h : ∀ name ty, change.onType name ty = ty) :
    refinedBy [change] = id := by
  funext layer
  have hentry : ∀ x : String × Entry,
      (x.1, { x.2 with ty := typeAfter x.1 [change] x.2.ty }) = x := fun x => by
    rw [typeAfter, List.foldl_cons, List.foldl_nil, h]
  exact (List.map_congr_left fun x _ => hentry x).trans (List.map_id layer)

section Refine

variable {name : String} {ty : Ty} {layer : Named Entry}

lemma refinedBy_refine_of_notMem (h : name ∉ Named.names layer) :
    refinedBy [.refine name ty] layer = layer := by
  refine (List.map_congr_left fun x hx => ?_).trans (List.map_id layer)
  have hne : name ≠ x.1 := by
    rintro rfl
    exact h (List.mem_map_of_mem hx)
  rw [typeAfter, List.foldl_cons, List.foldl_nil, Change.onType, if_neg hne]
  rfl

/-- Setting the entry of a name that a layer has changes nothing else in the layer. -/
lemma insert_eq_refinedBy {entry : Entry} (hordered : Named.Ordered layer)
    (h : Named.get? layer name = some entry) :
    Named.insert layer name { entry with ty := ty } = refinedBy [.refine name ty] layer := by
  induction layer with
  | nil => cases h
  | cons first rest ih =>
    obtain ⟨key, old⟩ := first
    obtain ⟨hkey, hrest⟩ := List.pairwise_cons.1 hordered
    have hcons : refinedBy [.refine name ty] ((key, old) :: rest) =
        (key, { old with ty := if name = key then ty else old.ty }) ::
          refinedBy [.refine name ty] rest := rfl
    by_cases heq : key = name
    · subst heq
      have hfresh : key ∉ Named.names rest := fun hmem => by
        obtain ⟨x, hx, hname⟩ := List.mem_map.1 hmem
        exact absurd (hkey x hx) (hname ▸ lt_irrefl _)
      rw [Named.get?, if_pos rfl, Option.some.injEq] at h
      rw [Named.insert, if_neg (lt_irrefl key), if_pos rfl, hcons, if_pos rfl,
        refinedBy_refine_of_notMem hfresh, h]
    · rw [Named.get?, if_neg heq] at h
      have hlt : key < name := hkey _ (Named.mem_of_get? h)
      rw [Named.insert, if_neg (lt_asymm hlt), if_neg (Ne.symm heq), hcons,
        if_neg (Ne.symm heq), ih hrest h]

lemma layers_refine (scope : Scope) :
    (scope.refine name ty).layers = refineLayers name ty scope.layers := by
  unfold refine layers
  rw [refineLayers]
  cases Named.get? scope.inner name <;> rfl

/-- Where no two layers share a name, a refinement reaches every layer that has the name. -/
lemma refineLayers_eq_map {layers : List (Named Entry)} (h : Apart layers) :
    refineLayers name ty layers = layers.map (refinedBy [.refine name ty]) := by
  obtain ⟨hordered, hdisjoint⟩ := h
  induction layers with
  | nil => rfl
  | cons layer rest ih =>
    obtain ⟨hlayer, hrest⟩ := List.pairwise_cons.1 hdisjoint
    rw [List.map_cons, refineLayers]
    cases hget : Named.get? layer name with
    | none =>
      rw [refinedBy_refine_of_notMem (Named.get?_eq_none_iff.1 hget)]
      dsimp only
      rw [ih (fun other hother => hordered other (List.mem_cons_of_mem _ hother)) hrest]
    | some entry =>
      have hname : name ∈ Named.names layer := by
        rw [← Named.has_iff_mem_names, Named.has, hget]
        rfl
      have hothers : rest.map (refinedBy [.refine name ty]) = rest := by
        refine (List.map_congr_left fun other hother => ?_).trans (List.map_id rest)
        exact refinedBy_refine_of_notMem (hlayer _ (List.mem_map_of_mem hother) hname)
      dsimp only
      rw [insert_eq_refinedBy (hordered layer List.mem_cons_self) hget, hothers]

end Refine

lemma has_iff {scope : Scope} {name : String} :
    scope.has name = true ↔ ∃ layer ∈ scope.layers, name ∈ Named.names layer := by
  simp only [has, get?, List.isSome_findSome?, List.any_eq_true, ← Named.has_iff_mem_names,
    Named.has]

lemma declare?_eq_some {scope : Scope} {name : String} (h : ¬ scope.has name = true)
    (entry : Entry) : scope.declare? name entry =
      some { scope with inner := Named.insert scope.inner name entry } := if_neg h

lemma mem_names_insert {layer : Named Entry} {name other : String} {entry : Entry} :
    other ∈ Named.names (Named.insert layer name entry) ↔ other = name ∨ other ∈ Named.names layer := by
  rw [Named.names_insert, NameSet.mem_insert]

lemma Apart.after {scope : Scope} (h : Apart scope.layers) (change : Change) :
    Apart (scope.after change).layers := by
  cases change with
  | enter =>
    refine ⟨List.forall_mem_cons.2 ⟨List.Pairwise.nil, h.ordered⟩, ?_⟩
    exact List.pairwise_cons.2 ⟨fun _ _ => List.disjoint_nil_left _, h.disjoint⟩
  | exit =>
    obtain ⟨inner, outer⟩ := scope
    cases outer with
    | nil => exact h
    | cons layer rest =>
      exact ⟨fun other hother => h.ordered other (List.mem_cons_of_mem _ hother),
        (List.pairwise_cons.1 h.disjoint).2⟩
  | declare name entry =>
    rw [Scope.after]
    by_cases hhas : scope.has name = true
    · rw [declare?_eq_none_iff.2 hhas]
      exact h
    rw [declare?_eq_some hhas, Option.getD_some]
    obtain ⟨hinner, houter⟩ := List.forall_mem_cons.1 h.ordered
    obtain ⟨hdisjoint, hrest⟩ := List.pairwise_cons.1 h.disjoint
    refine ⟨List.forall_mem_cons.2 ⟨hinner.insert name entry, houter⟩, ?_⟩
    refine List.pairwise_cons.2 ⟨fun names hnames other hother hmem => ?_, hrest⟩
    rcases mem_names_insert.1 hother with rfl | hother
    · obtain ⟨layer, hlayer, rfl⟩ := List.mem_map.1 hnames
      exact hhas (has_iff.2 ⟨layer, List.mem_cons_of_mem _ hlayer, hmem⟩)
    · exact hdisjoint names hnames hother hmem
  | refine name ty =>
    rw [Scope.after, layers_refine, refineLayers_eq_map h]
    refine ⟨fun layer hlayer => ?_, ?_⟩
    · obtain ⟨before, hbefore, rfl⟩ := List.mem_map.1 hlayer
      rw [Named.ordered_iff, names_refinedBy, ← Named.ordered_iff]
      exact h.ordered before hbefore
    · rw [List.map_map]
      exact (List.map_congr_left fun layer _ => names_refinedBy _ layer) ▸ h.disjoint

lemma apart_run {scope : Scope} (h : Apart scope.layers) (changes : List Change) :
    Apart (scope.run changes).layers := by
  induction changes generalizing scope with
  | nil => exact h
  | cons change rest ih => exact ih (h.after change)

lemma apart_empty : Apart empty.layers :=
  ⟨List.forall_mem_singleton.2 List.Pairwise.nil, List.pairwise_singleton _ _⟩

lemma layers_exit {scope : Scope} {layer : Named Entry} {inner outer : List (Named Entry)}
    (h : scope.layers = layer :: inner ++ outer) (hrest : inner ++ outer ≠ []) :
    scope.exit.layers = inner ++ outer := by
  have houter : scope.outer = inner ++ outer := (List.cons.inj h).2
  obtain ⟨first, rest, hcons⟩ := List.exists_cons_of_ne_nil hrest
  rw [exit, houter, hcons]
  rfl

/-- A change that leaves none but inner layers keeps the layers around them. -/
lemma layers_after {scope : Scope} {inner outer : List (Named Entry)} {change : Change}
    (hlayers : scope.layers = inner ++ outer) (hapart : Apart scope.layers)
    (hinner : 0 < inner.length)
    (hlevel : [change].count .exit < inner.length + [change].count .enter) :
    ∃ inner', inner'.length + [change].count .exit = inner.length + [change].count .enter ∧
      (scope.after change).layers = inner' ++ outer.map (refinedBy [change]) := by
  obtain ⟨first, others, rfl⟩ := List.exists_cons_of_length_pos hinner
  cases change with
  | enter =>
    refine ⟨[] :: first :: others, rfl, ?_⟩
    rw [refinedBy_eq_self fun _ _ => rfl, List.map_id]
    exact congrArg ([] :: ·) hlayers
  | exit =>
    refine ⟨others, rfl, ?_⟩
    obtain ⟨second, others, rfl⟩ := List.exists_cons_of_length_pos (Nat.lt_of_succ_lt_succ hlevel)
    rw [refinedBy_eq_self fun _ _ => rfl, List.map_id]
    exact layers_exit hlayers (List.cons_ne_nil _ _)
  | declare name entry =>
    have hself : refinedBy [.declare name entry] = id := refinedBy_eq_self fun _ _ => rfl
    simp only [hself, List.map_id, Scope.after]
    by_cases hhas : scope.has name = true
    · rw [declare?_eq_none_iff.2 hhas]
      exact ⟨first :: others, rfl, hlayers⟩
    · rw [declare?_eq_some hhas]
      exact ⟨Named.insert scope.inner name entry :: others, rfl,
        congrArg (_ :: ·) (List.cons.inj hlayers).2⟩
  | refine name ty =>
    refine ⟨(first :: others).map (refinedBy [.refine name ty]), by simp, ?_⟩
    rw [Scope.after, layers_refine, refineLayers_eq_map hapart, hlayers, List.map_append]

lemma layers_run {scope : Scope} {inner outer : List (Named Entry)} {changes : List Change}
    (hlayers : scope.layers = inner ++ outer) (hapart : Apart scope.layers)
    (hlevel : ∀ before, before <+: changes →
      before.count .exit < inner.length + before.count .enter) :
    ∃ inner', inner'.length + changes.count .exit = inner.length + changes.count .enter ∧
      (scope.run changes).layers = inner' ++ outer.map (refinedBy changes) := by
  induction changes generalizing scope inner outer with
  | nil =>
    refine ⟨inner, rfl, ?_⟩
    rw [refinedBy_nil, List.map_id]
    exact hlayers
  | cons change rest ih =>
    have hcount : ∀ c before, (change :: before).count c = [change].count c + before.count c := by
      intro c before
      rw [← List.singleton_append, List.count_append]
    obtain ⟨inner₁, hlength₁, hlayers₁⟩ :=
      layers_after hlayers hapart (hlevel [] (List.nil_prefix)) (hlevel [change] ⟨rest, rfl⟩)
    obtain ⟨inner', hlength, hrun⟩ := ih hlayers₁ (hapart.after change) (fun before hbefore => by
      have := hlevel (change :: before) (List.cons_prefix_cons.2 ⟨rfl, hbefore⟩)
      rw [hcount .exit before, hcount .enter before] at this
      omega)
    refine ⟨inner', ?_, ?_⟩
    · rw [hcount .exit rest, hcount .enter rest]
      omega
    · rw [refinedBy_cons, ← List.map_map]
      exact hrun

/-- A name that is in scope cannot be declared again, and trying it changes nothing. -/
lemma check_declare (scope : Scope) (name : String) (entry : Entry) (notices : List Notice) :
    Check.declare name entry ⟨scope, notices⟩ =
      if ∃ layer ∈ scope.layers, name ∈ Named.names layer then
        .error (.duplicateDeclaration name) ⟨scope, notices⟩
      else .ok ⟨⟩ ⟨scope.after (.declare name entry), notices⟩ := by
  rw [Check.declare, after]
  by_cases hhas : scope.has name = true
  · rw [if_pos (has_iff.1 hhas), declare?_eq_none_iff.2 hhas]
  · rw [if_neg (mt has_iff.2 hhas), declare?_eq_some hhas]
    rfl

/-- After any changes there is a layer, no name stands in two layers, and a declaration fails exactly
if one of the layers has the name, which changes nothing. What is done between entering a layer and
leaving it keeps the names and kinds of the layers around it, and the types of all names but those
that are refined. -/
theorem run_restores (changes : List Change) :
    let scope := empty.run changes
    0 < scope.depth ∧ Apart scope.layers ∧
    (∀ name entry notices, Check.declare name entry ⟨scope, notices⟩ =
      if ∃ layer ∈ scope.layers, name ∈ Named.names layer then
        .error (.duplicateDeclaration name) ⟨scope, notices⟩
      else .ok ⟨⟩ ⟨scope.after (.declare name entry), notices⟩) ∧
    ∀ inside, StaysInside inside →
      ∃ entered, entered.length + inside.count .exit = inside.count .enter ∧
        (scope.run (.enter :: inside ++ [.exit])).layers =
          entered ++ scope.layers.map (refinedBy inside) := by
  have hapart := apart_run apart_empty changes
  refine ⟨depth_pos _, hapart, check_declare _, fun inside hinside => ?_⟩
  have hentered : (empty.run changes).enter.layers = [[]] ++ (empty.run changes).layers := rfl
  have hlevel : ∀ before, before <+: inside →
      before.count .exit < ([[]] : List (Named Entry)).length + before.count .enter := by
    intro before hbefore
    have hle := hinside before hbefore
    rw [List.length_singleton]
    omega
  obtain ⟨inner, hlength, hlayers⟩ := layers_run hentered (hapart.after .enter) hlevel
  have hall := hinside inside (List.prefix_refl _)
  rw [List.length_singleton] at hlength
  obtain ⟨last, entered, rfl⟩ := List.exists_cons_of_length_pos (l := inner) (by omega)
  refine ⟨entered, by rw [List.length_cons] at hlength; omega, ?_⟩
  have hrun : (empty.run changes).run (.enter :: inside ++ [.exit]) =
      ((empty.run changes).enter.run inside).exit := List.foldl_append
  rw [hrun]
  refine layers_exit hlayers fun hnone => ?_
  exact List.cons_ne_nil _ _ (List.map_eq_nil_iff.1 (List.append_eq_nil_iff.1 hnone).2)

theorem run_restores_dial :
    StaysInside [.declare "t" ⟨.measure "", .introduced⟩, .enter, .refine "dial" (.measure "C"),
      .declare "dial" ⟨.number, .introduced⟩, .exit, .refine "t" (.measure "m")] ∧
    ((empty.run [.declare "dial" ⟨.measure "", .param⟩, .declare "on" ⟨.boolean, .keyword "on"⟩]).run
      (.enter :: [.declare "t" ⟨.measure "", .introduced⟩, .enter, .refine "dial" (.measure "C"),
        .declare "dial" ⟨.number, .introduced⟩, .exit, .refine "t" (.measure "m")] ++ [.exit])).layers =
      [[("dial", ⟨.measure "C", .param⟩), ("on", ⟨.boolean, .keyword "on"⟩)]] := by
  have hinside : StaysInside [.declare "t" ⟨.measure "", .introduced⟩, .enter,
      .refine "dial" (.measure "C"), .declare "dial" ⟨.number, .introduced⟩, .exit,
      .refine "t" (.measure "m")] := by
    decide
  refine ⟨hinside, ?_⟩
  obtain ⟨entered, hlength, hlayers⟩ := (run_restores
    [.declare "dial" ⟨.measure "", .param⟩, .declare "on" ⟨.boolean, .keyword "on"⟩]).2.2.2 _ hinside
  have hnone : entered = [] := List.length_eq_zero_iff.1 (Nat.add_right_cancel hlength)
  rw [hlayers, hnone]
  decide +kernel

end Scope

end ChannelRules
