import ChannelRules.Proofs.Check.Declared
import ChannelRules.Proofs.Code.Accepted
import ChannelRules.Proofs.Code.Kept
import ChannelRules.Proofs.Code.Step
import ChannelRules.Proofs.Code.Typing

/-!
# The values of the names that a clause introduces

A trigger or query gives the names that it introduces values of the types that the checker has found
for them, with one exception. The keys of a map are texts, also when the type of the map has other
keys: then an element that is chosen from the map does not have its type.
-/

namespace ChannelRules

open Typed Typed.Touch
open Value (HasType)

/-- Names that have values of their types. -/
def Env.Suits (env : Env) (vars : List (String × Ty)) : Prop :=
  ∀ var ∈ vars, ∃ v, env.readVar var.1 = .ok v ∧ v.HasType var.2

def Scope.Gives (scope : Scope) (name : String) (ty : Ty) : Prop :=
  ∃ kind, scope.get? name = some ⟨ty, kind⟩

section Names

variable {env env' : Env} {scope scope' : Scope}

lemma Env.suits_nil (env : Env) : env.Suits [] :=
  fun _ hvar => (List.not_mem_nil hvar).elim

lemma Env.suits_append {xs ys : List (String × Ty)} :
    env.Suits (xs ++ ys) ↔ env.Suits xs ∧ env.Suits ys :=
  List.forall_mem_append

lemma Env.suits_setVar {name : String} {ty : Ty} {v : Value} :
    (env.setVar name v).Suits [(name, ty)] ↔ v.HasType ty := by
  simp [Env.Suits, Env.readVar_setVar]

/-- Names that are not assigned keep their values. -/
lemma Env.SameExcept.suits_iff {names : List String} {vars : List (String × Ty)}
    (h : env.SameExcept names env') (hvars : ∀ var ∈ vars, var.1 ∉ names) :
    env'.Suits vars ↔ env.Suits vars := by
  refine forall₂_congr fun var hvar => ?_
  rw [h.readVar_eq (hvars var hvar)]

/-- New names have one type each. -/
lemma Scope.Grows.unique {vars : List (String × Ty)} (h : scope.Grows scope' vars) {name : String}
    {ty ty' : Ty} (hty : (name, ty) ∈ vars) (hty' : (name, ty') ∈ vars) : ty = ty' := by
  have hget := (h.get name ⟨ty, .introduced⟩).2 (.inr ⟨ty, hty, rfl⟩)
  have hget' := (h.get name ⟨ty', .introduced⟩).2 (.inr ⟨ty', hty', rfl⟩)
  rw [hget] at hget'
  cases hget'
  rfl

/-- The names that checked parts introduce are not in scope before them. -/
lemma SoundParts.new {ctx : Context} {parts : List Part} (h : SoundParts ctx scope parts) :
    ∀ var ∈ parts.flatMap Part.binds, scope.get? var.1 = none := by
  induction h with
  | nil => exact fun _ hvar => (List.not_mem_nil hvar).elim
  | @cons scope scope' part rest _ hgrows _ ih =>
    intro var hvar
    rw [List.flatMap_cons, List.mem_append] at hvar
    rcases hvar with hvar | hvar
    · exact hgrows.new var hvar
    · cases hget : scope.get? var.1 with
      | none => rfl
      | some entry =>
        have hkept := (hgrows.get var.1 entry).2 (.inl hget)
        rw [ih var hvar] at hkept
        cases hkept

lemma names_flatMap_binds (parts : List Part) :
    (parts.flatMap Part.binds).map Prod.fst = declared (parts.flatMap Part.touches) := by
  induction parts with
  | nil => rfl
  | cons part rest ih =>
    rw [List.flatMap_cons, List.flatMap_cons, List.map_append, declared_append, ih,
      part.names_binds]

end Names

/-- What the parts of a trigger or query take for granted: their types are known throughout, their
constants stand for themselves, and what they read has values of the right types. Of the variables
this is asked only as far as `known` says that they are set before the parts, of the keywords as
long as the cells have a property that the formatters keep. -/
structure ClauseSupplied (ctx : Context) (source : EventSource) (known : String → Ty → Prop)
    (parts : List Part) (I : Named Value → Prop) (env : Env) : Prop where
  static : ∀ expr ∈ parts.flatMap Part.exprs, ∀ node ∈ expr.subexprs, node.ty.isStatic = true
  introduced : ∀ var ∈ parts.flatMap Part.binds, var.2.isStatic = true
  literal : ∀ expr ∈ parts.flatMap Part.exprs, ∀ ty value, .constant ty value ∈ expr.subexprs →
    value.mentionsName = false
  var : ∀ expr ∈ parts.flatMap Part.exprs, ∀ ty name, .var ty name ∈ expr.subexprs →
    known name ty → ∃ v, env.readVar name = .ok v ∧ v.HasType ty
  keyword : ∀ expr ∈ parts.flatMap Part.exprs, ∀ ty cell, .keyword ty cell ∈ expr.subexprs →
    ∀ cells, I cells → ∃ v, Named.get? cells cell = some v ∧ v.HasType ty
  event : ∀ i, .invocation i ∈ parts → ∀ frame types, source.frame env = .ok frame →
    i.channel.schema? ctx = some types → ∀ (index : Nat) (ty : Ty), types[index]? = some ty →
      ty.isStatic = true → ∃ v, frame.values[index]? = some v ∧ v.HasType ty
  formatters : env.FormattersKeep I

section Supplied

variable {ctx : Context} {source : EventSource} {known known' : String → Ty → Prop}
  {scope scope' : Scope} {part : Part} {rest parts : List Part} {I : Named Value → Prop}
  {env env' : Env}

lemma ClauseSupplied.mono (h : ClauseSupplied ctx source known parts I env)
    (hknown : ∀ name ty, known' name ty → known name ty) :
    ClauseSupplied ctx source known' parts I env where
  static := h.static
  introduced := h.introduced
  literal := h.literal
  var expr hexpr ty name hnode hname := h.var expr hexpr ty name hnode (hknown name ty hname)
  keyword := h.keyword
  event := h.event
  formatters := h.formatters

/-- An expression that has been checked in the scope of a part has all it needs. -/
lemma ClauseSupplied.expr (h : ClauseSupplied ctx source scope.Gives parts I env)
    {expr : Expr} (hexpr : expr ∈ parts.flatMap Part.exprs)
    (hchecked : Checked scope ctx.keywords expr) : expr.Supplied I env where
  static := h.static expr hexpr
  literal := h.literal expr hexpr
  var ty name hnode := by
    cases hchecked.of_mem_subexprs hnode with
    | var hget _ => exact h.var expr hexpr ty name hnode ⟨_, hget⟩
  keyword := h.keyword expr hexpr
  formatters := h.formatters

/-- The parts after a part have all they need if the part has given its names values of their
types. -/
lemma ClauseSupplied.next (h : ClauseSupplied ctx source scope.Gives (part :: rest) I env)
    (hgrows : scope.Grows scope' part.binds) (hsame : env.SameExcept (declared part.touches) env')
    (hsuits : env'.Suits part.binds) : ClauseSupplied ctx source scope'.Gives rest I env' where
  static expr hexpr := h.static expr (List.mem_append_right _ hexpr)
  introduced var hvar := h.introduced var (List.mem_append_right _ hvar)
  literal expr hexpr := h.literal expr (List.mem_append_right _ hexpr)
  var expr hexpr ty name hnode hgiven := by
    obtain ⟨kind, hget⟩ := hgiven
    rcases (hgrows.get name _).1 hget with hbefore | ⟨ty', hvar, heq⟩
    · have hother : name ∉ declared part.touches := by
        rw [← part.names_binds]
        intro hmem
        obtain ⟨var, hvar, rfl⟩ := List.mem_map.1 hmem
        rw [hgrows.new var hvar] at hbefore
        cases hbefore
      rw [hsame.readVar_eq hother]
      exact h.var expr (List.mem_append_right _ hexpr) ty name hnode ⟨kind, hbefore⟩
    · cases heq
      exact hsuits _ hvar
  keyword expr hexpr := h.keyword expr (List.mem_append_right _ hexpr)
  event i hi frame types hframe := by
    rw [hsame.frame_eq] at hframe
    exact h.event i (List.mem_cons_of_mem _ hi) frame types hframe
  formatters := hsame.formattersKeep h.formatters

end Supplied

/-- An element that is chosen from a map has the type of a text. -/
def Typed.Part.keysTextual : Part → Bool
  | predicate (.contains container (.declare _ ty)) =>
    match container.ty with
    | .map _ _ => isTextual ty
    | _ => true
  | _ => true

/-- The types of a text. -/
lemma Value.string_hasType_iff {ty : Ty} (hstatic : ty.isStatic = true) (text : String) :
    (Value.string text).HasType ty ↔ isTextual ty = true := by
  constructor
  · intro h
    cases h with
    | string _ | entity _ _ | enum _ _ => rfl
    | number hnone | measure _ hnone => cases hnone
    | var h => exact h.elim
  · intro h
    unfold isTextual at h
    split at h
    · exact .string rfl
    · exact .entity _ rfl
    · exact .enum _ rfl
    · cases hstatic
    · cases h

section Steps

variable {ctx : Context} {source : EventSource} {scope scope' : Scope} {names : List String}
  {rest : List Part} {I : Named Value → Prop} {env env' : Env} {w w' : World}

/-- A name that is taken from an event has the value at one of its places. -/
lemma exists_taken {frame : Frame} {assigned : List (Nat × String)}
    (h : Step.takeVars frame assigned env = .ok env') {name : String}
    (hname : name ∈ assigned.map Prod.snd) :
    ∃ index v, (index, name) ∈ assigned ∧ frame.get index = .ok v ∧ env'.readVar name = .ok v := by
  induction assigned generalizing env with
  | nil => cases hname
  | cons entry rest ih =>
    obtain ⟨index, other⟩ := entry
    rw [Step.takeVars, bind_eq_ok] at h
    obtain ⟨value, hvalue, h⟩ := h
    by_cases hlater : name ∈ rest.map Prod.snd
    · obtain ⟨place, v, hplace, hv⟩ := ih h hlater
      exact ⟨place, v, List.mem_cons_of_mem _ hplace, hv⟩
    · obtain rfl : name = other := (List.mem_cons.1 hname).resolve_right hlater
      refine ⟨index, value, List.mem_cons_self, hvalue, ?_⟩
      rw [(Step.takeVars_sameExcept h).readVar_eq hlater, Env.readVar_setVar]

lemma exists_declare_of_mem_assignedSlots {params : List (Option Binder)} {index place : Nat}
    {name : String} (h : (place, name) ∈ assignedSlots index (params.map (slot names))) :
    ∃ i ty, place = index + i ∧ params[i]? = some (some (.declare name ty)) := by
  obtain ⟨i, hplace, hi⟩ := mem_assignedSlots_iff.1 h
  obtain ⟨param, hparam, hslot⟩ := Option.map_eq_some_iff.1 (List.getElem?_map.symm.trans hi)
  obtain ⟨ty, rfl⟩ := slot_eq_assigned.1 hslot
  exact ⟨i, ty, hplace, hparam⟩

variable [PatternEngine]

/-- An invocation gives its names the values of the event, which have the types of the schema. -/
lemma suits_invocation {i : Invocation} (hsound : SoundPart ctx scope (.invocation i))
    (hgrows : scope.Grows scope' (Part.invocation i).binds)
    (hsupplied : ClauseSupplied ctx source scope.Gives (.invocation i :: rest) I env)
    (h : .ok env' ∈ (((Part.invocation i).step source names).run env w).1) :
    env'.Suits (Part.invocation i).binds := by
  obtain ⟨envs, v, hpass, hmem⟩ := Step.ok_mem_run.1 h
  obtain ⟨frame, hframe, htaken, -⟩ := Step.bindEvent_eq_some (Step.mem_toList_verdict hpass hmem)
  intro var hvar
  have hnames : (i.code names).assigned.map Prod.snd = (Part.invocation i).binds.map Prod.fst :=
    (names_assignedSlots i.params 0).trans (Part.invocation i).names_binds.symm
  have hname : var.1 ∈ (i.code names).assigned.map Prod.snd := hnames ▸ List.mem_map_of_mem hvar
  obtain ⟨place, v, hplace, hget, hread⟩ := exists_taken htaken hname
  obtain ⟨index, ty, rfl, hparam⟩ := exists_declare_of_mem_assignedSlots hplace
  have hdeclared : (var.1, ty) ∈ (Part.invocation i).binds :=
    List.mem_filterMap.2 ⟨_, List.mem_filterMap.2 ⟨_, List.mem_of_getElem? hparam, rfl⟩, rfl⟩
  obtain rfl : ty = var.2 := hgrows.unique hdeclared hvar
  cases hsound with
  | invocation hschema _ hslots =>
    obtain ⟨v', hv', htype⟩ := hsupplied.event i List.mem_cons_self frame _ hframe hschema index
      var.2 (hslots index var.1 var.2 hparam)
      (hsupplied.introduced var (List.mem_append_left _ hvar))
    rw [Nat.zero_add, Frame.get, hv'] at hget
    cases hget
    exact ⟨v, hread, htype⟩

/-- The place of a group that becomes a variable gives it a text. -/
lemma exists_captured {captures : List Capture} {texts : List String}
    (hlength : texts.length = captures.length)
    (h : Step.bindCaptures (captures.zip texts) env w = .ok (some env') w') {name : String}
    (hname : name ∈ captures.filterMap Capture.name?) :
    ∃ text, env'.readVar name = .ok (.string text) := by
  induction captures generalizing env texts w with
  | nil => cases hname
  | cons capture rest ih =>
    obtain ⟨text, texts, rfl⟩ := List.exists_cons_of_length_eq_add_one hlength
    have hrestLength : texts.length = rest.length := Nat.succ.inj hlength
    cases capture with
    | assign other =>
      by_cases hlater : name ∈ rest.filterMap Capture.name?
      · exact ih hrestLength h hlater
      · obtain rfl : name = other := (List.mem_cons.1 hname).resolve_right hlater
        rw [List.zip_cons_cons, Step.bindCaptures] at h
        refine ⟨text, ?_⟩
        have hsame := Step.bindCaptures_sameExcept h
        rw [hsame.readVar_eq fun hmem => hlater ?_, Env.readVar_setVar]
        obtain ⟨pair, hpair, heq⟩ := List.mem_filterMap.1 hmem
        exact List.mem_filterMap.2 ⟨pair.1, (List.of_mem_zip hpair).1, heq⟩
    | expect code =>
      rw [List.zip_cons_cons, Step.bindCaptures, state_bind_eq_ok] at h
      obtain ⟨expected, v, -, h⟩ := h
      split at h
      · exact ih hrestLength h hname
      · cases h

/-- A pattern gives its names texts. -/
lemma suits_regex {value pattern flags : Expr} {captures : List Binder}
    (hsound : SoundPart ctx scope (.predicate (.regex value pattern flags captures)))
    (h : .ok env' ∈ ((Predicate.regex value pattern flags captures).step.run env w).1) :
    env'.Suits (captures.filterMap Binder.bind?) := by
  obtain ⟨envs, v, hpass, hmem⟩ := Step.ok_mem_run.1 h
  obtain ⟨texts, u, hlength, hbound⟩ :=
    Step.matchPattern_eq_some (Step.mem_toList_verdict hpass hmem)
  intro var hvar
  obtain ⟨binder, hbinder, hbind⟩ := List.mem_filterMap.1 hvar
  cases binder with
  | expect expr => cases hbind
  | declare name ty =>
    cases hbind
    have hname : name ∈ (captures.map Binder.capture).filterMap Capture.name? :=
      List.mem_filterMap.2 ⟨_, List.mem_map_of_mem hbinder, rfl⟩
    obtain ⟨text, hread⟩ := exists_captured hlength hbound hname
    refine ⟨_, hread, ?_⟩
    cases hsound with
    | regex hcaptures =>
      rw [hcaptures name ty hbinder]
      exact .string rfl

/-- An element has its type exactly if it is not a key of another type than that of texts. -/
lemma suits_each {container : Expr} {name : String} {ty : Ty}
    (hsound : SoundPart ctx scope (.predicate (.contains container (.declare name ty))))
    (hsupplied : ClauseSupplied ctx source scope.Gives
      (.predicate (.contains container (.declare name ty)) :: rest) I env) (hw : I w.cells)
    (h : .ok env' ∈ ((Step.each container.code name).run env w).1) :
    env'.Suits [(name, ty)] ↔
      (Part.predicate (.contains container (.declare name ty))).keysTextual = true := by
  obtain ⟨envs, v, hpass, hmem⟩ := Step.ok_mem_run.1 h
  obtain ⟨value, values, element, hvalue, hvalues, helement, rfl⟩ := Step.mem_pass_each hpass hmem
  rw [Env.suits_setVar]
  have hstatic : ty.isStatic = true := hsupplied.introduced (name, ty) List.mem_cons_self
  cases hsound with
  | contains hchecked htype =>
    have hsafe := code_safe hchecked (hsupplied.expr List.mem_cons_self hchecked) w hw
    have helem := htype name ty rfl
    rw [hvalue] at hsafe
    replace hsafe := hsafe.2
    rw [Part.keysTextual]
    cases hty : container.ty with
    | array elem =>
      rw [hty] at hsafe helem
      cases helem
      obtain ⟨items, rfl, hitems⟩ := inhabits_array.1 hsafe
      cases hvalues
      exact iff_of_true (hitems element helement) rfl
    | map key entry =>
      rw [hty] at hsafe helem
      cases helem
      obtain ⟨entries, rfl, -⟩ := inhabits_map.1 hsafe
      cases hvalues
      obtain ⟨text, -, rfl⟩ := List.mem_map.1 helement
      exact Value.string_hasType_iff hstatic text
    | any =>
      rw [hty] at helem
      cases helem
      cases hstatic
    | _ =>
      rw [hty] at helem
      cases helem

/-- What passes the step of a part has values of the right types for the names of the part, unless
the part chooses a key that is not a text by type. -/
lemma suits_step {part : Part} (hsound : SoundPart ctx scope part)
    (hgrows : scope.Grows scope' part.binds)
    (hsupplied : ClauseSupplied ctx source scope.Gives (part :: rest) I env) (hw : I w.cells)
    (h : .ok env' ∈ ((part.step source names).run env w).1) :
    env'.Suits part.binds ↔ part.keysTextual = true := by
  match part with
  | .invocation i => exact iff_of_true (suits_invocation hsound hgrows hsupplied h) rfl
  | .binding name expr =>
    obtain ⟨envs, v, hpass, hmem⟩ := Step.ok_mem_run.1 h
    obtain ⟨value, hvalue, rfl⟩ := Step.mem_pass_assign hpass hmem
    cases hsound with
    | binding hchecked =>
      have hsafe := code_safe hchecked (hsupplied.expr List.mem_cons_self hchecked) w hw
      rw [hvalue] at hsafe
      exact iff_of_true (Env.suits_setVar.2 hsafe.2) rfl
  | .predicate (.regex value pattern flags captures) => exact iff_of_true (suits_regex hsound h) rfl
  | .predicate (.contains container (.declare name ty)) => exact suits_each hsound hsupplied hw h
  | .predicate (.contains container (.expect element)) => exact iff_of_true env'.suits_nil rfl
  | .predicate (.test expr) => exact iff_of_true env'.suits_nil rfl
  | .condition expr => exact iff_of_true env'.suits_nil rfl

end Steps

section Clauses

variable {ctx : Context} {source : EventSource} {scope : Scope} {names : List String}
  {parts : List Part} {I : Named Value → Prop} {env env' : Env} {w : World}

variable [PatternEngine]

lemma matched_sameExcept (h : .ok env' ∈ ((steps source names parts).matched env w).1) :
    env.SameExcept (declared (parts.flatMap Part.touches)) env' := by
  induction parts generalizing names env w with
  | nil =>
    rw [Filter.matched_eq] at h
    cases List.mem_singleton.1 h
    exact .refl _ _
  | cons part rest ih =>
    obtain ⟨next, v, hnext, -, h⟩ := Filter.mem_matched_cons env.formattersKeep_true trivial h
    rw [List.flatMap_cons, declared_append]
    exact (run_step_sameExcept hnext).trans (ih h)

/-- What passes the filter of checked parts has values of the right types for all names of the
parts, unless a part chooses a key that is not a text by type. -/
theorem suits_matched (hsound : SoundParts ctx scope parts)
    (hsupplied : ClauseSupplied ctx source scope.Gives parts I env) (hw : I w.cells)
    (h : .ok env' ∈ ((steps source names parts).matched env w).1) :
    env'.Suits (parts.flatMap Part.binds) ↔ parts.all Part.keysTextual = true := by
  -- As long as the names so far have values of their types, the next part has what it needs. The
  -- first part that breaks this leaves a text behind that no later part replaces.
  induction hsound generalizing names env w with
  | nil => exact iff_of_true env'.suits_nil rfl
  | @cons scope scope' part rest hpart hgrows hrest ih =>
    obtain ⟨next, v, hnext, hv, h⟩ := Filter.mem_matched_cons hsupplied.formatters hw h
    have hstep := suits_step hpart hgrows hsupplied hw hnext
    have hkept : env'.Suits part.binds ↔ next.Suits part.binds := by
      refine (matched_sameExcept h).suits_iff fun var hvar hmem => ?_
      rw [← names_flatMap_binds] at hmem
      obtain ⟨later, hlater, heq⟩ := List.mem_map.1 hmem
      have hget := (hgrows.get var.1 ⟨var.2, .introduced⟩).2 (.inr ⟨var.2, hvar, rfl⟩)
      rw [← heq, hrest.new later hlater] at hget
      cases hget
    rw [List.flatMap_cons, Env.suits_append, List.all_cons, Bool.and_eq_true, hkept, hstep]
    refine and_congr_right fun htextual => ?_
    exact ih (hsupplied.next hgrows (run_step_sameExcept hnext) (hstep.2 htextual)) hv h

end Clauses

/-- A trigger or query of a checked program gives each name that it introduces a value of its type,
in every environment that passes its filter, exactly if it chooses no element from a map whose keys
are not texts by type. The variables that it reads and does not introduce itself, the keywords and
the values of the event are taken to have their types, the keywords as long as the cells have a
property that the formatters keep. -/
theorem compileClause_suits [PatternEngine] {kinds : Named KindSchemas} {program : Source.Program}
    {typed : Typed.Program} (h : (checkProgram kinds program).result = .ok typed)
    {rule : Typed.Rule} (hrule : rule ∈ typed.rules) {parts : List Part}
    (hparts : parts ∈ rule.clauses) {source : EventSource} {locals locals' : Locals}
    {clause : CompiledClause} (hclause : compileClause source parts locals = .ok clause locals')
    {I : Named Value → Prop} {env : Env} (hsupplied : ClauseSupplied ⟨kinds, typed.keywords⟩ source
      (fun name _ => name ∉ declared (parts.flatMap Part.touches)) parts I env)
    {w : World} (hw : I w.cells) {env' : Env}
    (hpassed : .ok env' ∈ (clause.filter.matched env w).1) :
    env'.Suits (parts.flatMap Part.binds) ↔ parts.all Part.keysTextual = true := by
  rw [compileClause_filter (Named.has_iff_mem_names locals) hclause] at hpassed
  obtain ⟨scope, hsound⟩ := checkProgram_sound h rule hrule parts hparts
  refine suits_matched hsound (hsupplied.mono fun name ty hgiven hname => ?_) hw hpassed
  obtain ⟨kind, hget⟩ := hgiven
  rw [← names_flatMap_binds] at hname
  obtain ⟨var, hvar, rfl⟩ := List.mem_map.1 hname
  rw [hsound.new var hvar] at hget
  cases hget

/-- A kind of device with a store whose shelves are numbered. -/
def storeKind : Named KindSchemas :=
  [("com.store", ⟨[], [("stock", ⟨["stock"], [.map .number .string], "", "", ""⟩)], []⟩)]

/-- A command that looks at each shelf of a store. -/
def eachShelf : Source.Program :=
  ⟨"shelves", [], [.command
    [[.invocation ⟨.globalName "com.store", "stock", [.var "stock"]⟩,
      .predicate (.call "contains" [.var "stock", .var "shelf"])]]
    [.invocation ⟨.builtin, "notify", []⟩]]⟩

/-- The number of a shelf has become a text. Stocks are shown by a formatter that notes in a keyword
that it has been asked. -/
theorem compileClause_suits_eachShelf :
    ∃ typed rule parts clause locals I, ∃ env : Env, ∃ w env',
      (checkProgram storeKind eachShelf).result = .ok typed ∧ rule ∈ typed.rules ∧
      parts ∈ rule.clauses ∧ compileClause .query parts [] = .ok clause locals ∧
      ClauseSupplied ⟨storeKind, typed.keywords⟩ .query
        (fun name _ => name ∉ declared (parts.flatMap Part.touches)) parts I env ∧
      env.formatters ≠ [] ∧ I w.cells ∧ .ok env' ∈ (clause.filter.matched env w).1 ∧
      ("shelf", .number) ∈ parts.flatMap Part.binds ∧
      env'.readVar "shelf" = .ok (.string "1") ∧ ¬ env'.Suits (parts.flatMap Part.binds) := by
  let stock : ChannelRef := ⟨.globalName "com.store", "com.store", "stock", .queries⟩
  let look : Invocation :=
    ⟨stock, [some (.declare "stock" (.map .number .string))], [.map .number .string]⟩
  let parts : List Part := [.invocation look,
    .predicate (.contains (.var (.map .number .string) "stock") (.declare "shelf" .number))]
  have h : (checkProgram storeKind eachShelf).result = .ok ⟨"shelves", [], [], [
      ⟨0, none, none, [parts],
        [.invocation ⟨.builtin, Selector.builtinKind, "notify", .actions⟩ []]⟩]⟩ := rfl
  let clause : CompiledClause := ⟨look.code [], steps .query [] parts⟩
  have hclause : compileClause .query parts [] =
      .ok clause [("shelf", .number), ("stock", .map .number .string)] := rfl
  let flour : Value := .object [("1", .string "flour")]
  have hflour : flour.HasType (.map .number .string) := .map _ (by simpa using .string rfl)
  let noting : Formatter := fun _ _ view => do
    view.writeKeyword "asked" (.boolean true)
    return [.text "stock"]
  let env : Env := { Env.ofSettings .default with
    query := some ⟨stock, [flour]⟩, formatters := [("com.store", noting)] }
  let I : Named Value → Prop := fun cells => Named.get? cells "asked" = some (.boolean true)
  let w : World := ⟨[("asked", .boolean true)], fun _ => ⟨⟨0, 0⟩, 0.5, 0⟩, 0⟩
  have hsupplied : ClauseSupplied ⟨storeKind, []⟩ .query
      (fun name _ => name ∉ declared (parts.flatMap Part.touches)) parts I env := by
    constructor
    · simp [parts, look, Part.exprs, Predicate.exprs, Binder.exprs, Expr.subexprs, Expr.ty,
        Ty.isStatic]
    · simp [parts, look, Part.binds, Predicate.binds, Binder.bind?, Ty.isStatic]
    · simp [parts, look, Part.exprs, Predicate.exprs, Binder.exprs, Expr.subexprs]
    · simp [parts, look, Part.exprs, Predicate.exprs, Binder.exprs, Expr.subexprs, Part.touches,
        Predicate.touches, Binder.touch]
    · simp [parts, look, Part.exprs, Predicate.exprs, Binder.exprs, Expr.subexprs]
    · rintro i hi frame types ⟨⟩ hschema index ty hty -
      obtain rfl : i = look := by simpa [parts] using hi
      obtain rfl : [.map .number .string] = types := Option.some.inj hschema
      obtain ⟨hindex, rfl⟩ := List.getElem?_eq_some_iff.1 hty
      obtain rfl : index = 0 := Nat.lt_one_iff.1 hindex
      exact ⟨flour, rfl, hflour⟩
    · intro entry hentry frame hint view
      cases List.mem_singleton.1 hentry
      have hwrite : Eval.Keeps I (view.writeKeyword "asked" (.boolean true)) :=
        Eval.ensures_writeKeyword (fun cells _ => Named.get?_insert_self cells _ _) trivial
      exact hwrite.bind fun _ _ => Eval.ensures_pure trivial
  have hpassed : .ok ((env.setVar "stock" flour).setVar "shelf" (.string "1")) ∈
      (clause.filter.matched env w).1 := by
    rw [Filter.matched_eq]
    exact List.mem_singleton.2 rfl
  have hsuits :=
    compileClause_suits h List.mem_cons_self List.mem_cons_self hclause hsupplied rfl hpassed
  exact ⟨_, _, parts, clause, _, I, env, w, _, h, List.mem_cons_self, List.mem_cons_self, hclause,
    hsupplied, List.cons_ne_nil _ _, rfl, hpassed, List.mem_cons_of_mem _ List.mem_cons_self, rfl,
    fun hall => Bool.false_ne_true (hsuits.1 hall)⟩

end ChannelRules
