import ChannelRules.Proofs.Check.Layer
import ChannelRules.Typed.Visit

/-!
# What the checks of single expressions add up to

A trigger, a query or an action is checked by checking the expressions in it, one after the other.
What the check of each expression gives, and adds up when expressions are put together, is given for
the trigger, the query or the arguments of the action as a whole.
-/

namespace ChannelRules

open Typed (Expr Part Predicate Binder)

/-- A check that starts with names in scope for which `I` holds, and succeeds, gives what has the
property `P`, and `I` holds for the names in scope afterwards. -/
def Check.Yields {α : Type} (I : Scope → Prop) (x : Check α) (P : α → Prop) : Prop :=
  ∀ (s s' : CheckState) (a : α), I s.scope → x s = .ok a s' → I s'.scope ∧ P a

namespace Check

variable {α β : Type} {I : Scope → Prop} {P : α → Prop} {Q : β → Prop}

lemma yields_pure {a : α} (ha : P a) : Yields I (pure a : Check α) P := by
  intro s s' b hs h
  cases h
  exact ⟨hs, ha⟩

lemma yields_throw (e : CheckError) : Yields I (throw e : Check α) P := by
  intro s s' a _ h
  cases h

lemma Yields.bind {x : Check α} {f : α → Check β} (hx : Yields I x P)
    (hf : ∀ a, P a → Yields I (f a) Q) : Yields I (x >>= f) Q := by
  intro s s' b hs h
  rw [state_bind_eq_ok] at h
  obtain ⟨a, t, ha, hb⟩ := h
  obtain ⟨ht, hP⟩ := hx s t a hs ha
  exact hf a hP t s' b ht hb

lemma yields_ofNoted {x : Noted CheckError α} (hx : ∀ a, x.result = .ok a → P a) :
    Yields I (ofNoted x) P := by
  intro s s' a hs h
  obtain ⟨ha, hscope⟩ := ofNoted_eq_ok h
  rw [hscope]
  exact ⟨hs, hx a ha⟩

lemma yields_scope : Yields I scope I := by
  intro s s' found hs h
  obtain ⟨rfl, rfl⟩ := scope_eq_ok h
  exact ⟨hs, hs⟩

lemma yields_declare {name : String} {entry : Entry}
    (hI : ∀ scope scope', I scope → scope.declare? name entry = some scope' → I scope') :
    Yields I (declare name entry) fun _ => True := by
  intro s s' _ hs h
  exact ⟨hI _ _ hs (declare_eq_ok h), trivial⟩

lemma yields_agree (a b : Ty) (reason : TypeError → CheckError) :
    Yields I (agree a b reason) fun joined => (Ty.agree a b).result = .ok joined := by
  refine yields_ofNoted fun joined h => ?_
  rwa [Noted.result_mapError, mapError_eq_ok] at h

/-- Items that are checked one after the other give what is related to them, one by one. -/
lemma yields_forAll {f : α → Check β} {R : α → β → Prop} (hf : ∀ a, Yields I (f a) (R a))
    (items : List α) : Yields I (forAll f items) (List.Forall₂ R items) := by
  induction items with
  | nil => exact yields_pure .nil
  | cons item rest ih =>
    exact (hf item).bind fun b hb => ih.bind fun bs hbs => yields_pure (.cons hb hbs)

end Check

/-- The expressions that a part of a trigger or query is written with. -/
def Source.Part.exprs : Source.Part → List Source.Expr
  | invocation i => i.params
  | binding _ e => [e]
  | predicate e => [e]
  | condition e => [e]

/-- Names that a rule introduces do not change what `I` says about the names in scope. -/
def Scope.Keeps (I : Scope → Prop) : Prop :=
  ∀ scope scope' name ty, I scope → scope.declare? name ⟨ty, .introduced⟩ = some scope' → I scope'

/-- A relation between expressions as they are written and as they are found, which holds for each
expression that is checked with names in scope for which `I` holds, and which adds up. There is no
expression to be found where a rule introduces a name. -/
structure Check.Gathers (I : Scope → Prop) (ctx : Context)
    (E : List Source.Expr → List Expr → Prop) : Prop where
  keeps : Scope.Keeps I
  checked : ∀ scope e te, I scope → (checkExpr scope ctx.keywords e).result = .ok te → E [e] [te]
  fresh : ∀ scope e name, I scope → freshName? scope e = some name → E [e] []
  null : E [.null] []
  nil : E [] []
  append : ∀ {es es' : List Source.Expr} {found found' : List Expr}, E es found → E es' found' →
    E (es ++ es') (found ++ found')
  call : ∀ name {es : List Source.Expr} {found : List Expr}, E es found →
    E [.call name es] found

section Gathers

open Check

variable {I : Scope → Prop} {ctx : Context} {E : List Source.Expr → List Expr → Prop}
  (hE : Check.Gathers I ctx E)

include hE

/-- What is found item by item is found for all items. -/
lemma gathered_flatMap {α β : Type} {exprs : α → List Source.Expr} {found : β → List Expr}
    {as : List α} {bs : List β} (h : List.Forall₂ (fun a b => E (exprs a) (found b)) as bs) :
    E (as.flatMap exprs) (bs.flatMap found) := by
  induction h with
  | nil => exact hE.nil
  | cons hfirst _ ih => exact hE.append hfirst ih

lemma gathered_expr (e : Source.Expr) : Yields I (Check.expr ctx e) fun te => E [e] [te] :=
  yields_scope.bind fun scope hscope => yields_ofNoted fun te hte => hE.checked scope e te hscope hte

lemma gathered_checkBinder (ty : Ty) (mismatch : Ty → CheckError) (e : Source.Expr) :
    Yields I (checkBinder ctx ty mismatch e) fun found => E [e] found.1.exprs := by
  refine yields_scope.bind fun scope hscope => ?_
  split
  · rename_i name hfresh
    exact (yields_declare fun _ _ => hE.keeps _ _ _ _).bind fun _ _ =>
      yields_pure (hE.fresh scope e name hscope hfresh)
  · exact (gathered_expr hE e).bind fun te hte => (yields_agree _ _ _).bind fun _ _ =>
      yields_pure hte

lemma gathered_checkSlot (channel : ChannelRef) (index : Nat) (ty : Ty) (e : Source.Expr) :
    Yields I (checkSlot ctx channel index ty e) fun found =>
      E [e] (found.1.toList.flatMap Binder.exprs) := by
  unfold checkSlot
  split
  · exact yields_pure hE.null
  · refine (gathered_checkBinder hE ty _ e).bind fun found hfound => yields_pure ?_
    rw [Option.toList_some, List.flatMap_singleton]
    exact hfound

/-- Parameters beyond the types are left out. -/
lemma gathered_checkSlots (channel : ChannelRef) (types : List Ty) (index : Nat)
    (params : List Source.Expr) :
    Yields I (checkSlots ctx channel index types params) fun slots =>
      E (params.take types.length) (((slots.map Prod.fst).filterMap id).flatMap Binder.exprs) := by
  induction types generalizing index params with
  | nil => exact yields_pure hE.nil
  | cons ty types ih =>
    cases params with
    | nil =>
      -- A type without a parameter gives an open slot.
      refine (yields_pure (P := fun slot => slot = (none, ty)) rfl).bind fun slot hslot =>
        (ih (index + 1) []).bind fun slots hslots => yields_pure ?_
      rw [List.take_nil] at hslots ⊢
      rw [hslot]
      exact hslots
    | cons param params =>
      refine (gathered_checkSlot hE channel index ty param).bind fun slot hslot =>
        (ih (index + 1) params).bind fun slots hslots => yields_pure ?_
      have hall := hE.append hslot hslots
      obtain ⟨_ | binder, agreed⟩ := slot
      · exact hall
      · rw [Option.toList_some, List.flatMap_singleton] at hall
        exact hall

lemma gathered_checkInvocation (sort : Section) (invocation : Source.Invocation) :
    Yields I (checkInvocation ctx sort invocation) fun part => E invocation.params part.exprs := by
  refine (yields_ofNoted (P := fun _ => True) fun _ _ => trivial).bind fun found _ => ?_
  dsimp only
  split
  · exact (yields_throw (P := fun _ => False) _).bind fun _ h => h.elim
  · rename_i hlength
    refine (gathered_checkSlots hE found.1 found.2 0 invocation.params).bind fun slots hslots =>
      yields_pure ?_
    rw [List.take_of_length_le (Nat.not_lt.1 hlength)] at hslots
    exact hslots

lemma gathered_checkText (e : Source.Expr) :
    Yields I (checkText ctx e) fun te => E [e] [te] := by
  refine (gathered_expr hE e).bind fun te hte => ?_
  split
  · exact yields_pure hte
  · exact yields_throw _

lemma gathered_checkTruth (e : Source.Expr) : Yields I (checkTruth ctx e) fun te => E [e] [te] :=
  (gathered_expr hE e).bind fun _ hte => (yields_agree _ _ _).bind fun _ _ => yields_pure hte

lemma gathered_checkPredicate (e : Source.Expr) :
    Yields I (checkPredicate ctx e) fun predicate => E [e] predicate.exprs := by
  unfold checkPredicate
  split
  · rename_i value pattern flags captures
    refine (gathered_checkText hE value).bind fun _ hvalue =>
      (gathered_checkText hE pattern).bind fun _ hpattern =>
        (gathered_checkText hE flags).bind fun _ hflags =>
          (yields_forAll (gathered_checkBinder hE _ _) captures).bind fun _ hcaptures =>
            yields_pure (hE.call _ ?_)
    have hall := hE.append hvalue
      (hE.append hpattern (hE.append hflags (gathered_flatMap hE hcaptures)))
    rw [List.flatMap_singleton', ← List.flatMap_map] at hall
    exact hall
  · rename_i container element
    exact (gathered_expr hE container).bind fun _ hcontainer =>
      (yields_ofNoted (P := fun _ => True) fun _ _ => trivial).bind fun _ _ =>
        (gathered_checkBinder hE _ _ element).bind fun _ helement =>
          yields_pure (hE.call _ (hE.append hcontainer helement))
  · exact (gathered_checkTruth hE _).bind fun _ htruth => yields_pure htruth

/-- What the expressions of a part add up to is given for the part. -/
lemma gathered_checkPart (sort : Section) (part : Source.Part) :
    Yields I (checkPart ctx sort part) fun typed => E part.exprs typed.exprs := by
  cases part with
  | invocation i => exact gathered_checkInvocation hE sort i
  | predicate e => exact (gathered_checkPredicate hE e).bind fun _ h => yields_pure h
  | binding name e =>
    exact (gathered_expr hE e).bind fun _ h =>
      (yields_declare fun _ _ => hE.keeps _ _ _ _).bind fun _ _ => yields_pure h
  | condition e => exact (gathered_checkTruth hE e).bind fun _ h => yields_pure h

/-- The parts of a trigger or query add up in the order in which they are handled. -/
lemma gathered_checkClause (sort : Section) (parts : List Source.Part) :
    Yields I (checkClause ctx sort parts) fun found =>
      E ((PartOrder.canonical.arrange Source.Part.rank parts).flatMap Source.Part.exprs)
        (found.flatMap Part.exprs) := by
  unfold checkClause
  split
  · exact (yields_throw (P := fun _ => False) _).bind fun _ h => h.elim
  · intro s s' found hs h
    obtain ⟨hs', hparts⟩ := yields_forAll (gathered_checkPart hE sort) _ s s' found hs h
    exact ⟨hs', gathered_flatMap hE hparts⟩

/-- Each argument of an action gives what its check gives, and agrees with its type. -/
lemma gathered_checkArguments (channel : ChannelRef) (params : List Source.Expr) (types : List Ty)
    (index : Nat) :
    Yields I (checkArguments ctx channel index params types) (List.Forall₂
      (fun arg found => E [arg.1] found.toList ∧
        ∀ te ∈ found, ∃ joined, (Ty.agree arg.2 te.ty).result = .ok joined)
      (params.zip types)) := by
  induction params generalizing types index with
  | nil => exact yields_pure .nil
  | cons param params ih =>
    cases types with
    | nil =>
      have hnil : checkArguments ctx channel index (param :: params) [] = pure [] := by
        cases param <;> rfl
      rw [hnil]
      exact yields_pure .nil
    | cons ty types =>
      cases param with
      | null =>
        exact (ih types (index + 1)).bind fun found hfound =>
          yields_pure (.cons ⟨hE.null, fun _ h => nomatch h⟩ hfound)
      | _ =>
        refine (gathered_expr hE _).bind fun te hte => (yields_agree _ _ _).bind
          fun joined hjoined => (ih types (index + 1)).bind fun found hfound =>
            yields_pure (.cons ⟨hte, ?_⟩ hfound)
        rintro _ ⟨⟩
        exact ⟨joined, hjoined⟩

end Gathers

end ChannelRules
