import ChannelRules.Proofs.Check.Layer
import ChannelRules.Proofs.Check.Plain
import ChannelRules.Proofs.Ty.Joint

/-!
# The order of the items of an array

The type of the items of an array expression is joined from the types of the items, from the left. In
any two orders that are both accepted it is the same. An enumeration is only joined with one that has
its entries, so an order that meets the larger one first can be accepted where another one is not.
-/

namespace ChannelRules

section Arrays

variable {scope : Scope} {keywords : Named Ty} {xs ys : List Source.Expr} {ty : Ty}

lemma checkExprs_eq_ok_iff {tes : List Typed.Expr} :
    (checkExprs scope keywords xs).result = .ok tes ↔
      List.Forall₂ (fun e te => (checkExpr scope keywords e).result = .ok te) xs tes := by
  induction xs generalizing tes with
  | nil =>
    rw [checkExprs, Noted.result_pure, Except.ok.injEq, List.forall₂_nil_left_iff, eq_comm]
  | cons e rest ih =>
    simp only [checkExprs, Noted.result_bind, bind_eq_ok, Noted.result_pure, Except.ok.injEq, ih,
      List.forall₂_cons_left_iff]
    constructor
    · rintro ⟨te, he, rest, hrest, rfl⟩
      exact ⟨te, rest, he, hrest, rfl⟩
    · rintro ⟨te, rest, he, hrest, rfl⟩
      exact ⟨te, he, rest, hrest, rfl⟩

lemma forall₂_typedAs_iff {types : List Ty} :
    List.Forall₂ (Source.Expr.TypedAs scope keywords) xs types ↔
      ∃ tes, (checkExprs scope keywords xs).result = .ok tes ∧ tes.map Typed.Expr.ty = types := by
  simp only [checkExprs_eq_ok_iff]
  constructor
  · intro h
    induction h with
    | nil => exact ⟨[], .nil, rfl⟩
    | cons he _ ih =>
      obtain ⟨te, hte, rfl⟩ := typedAs_iff.1 he
      obtain ⟨tes, htes, rfl⟩ := ih
      exact ⟨te :: tes, .cons hte htes, rfl⟩
  · rintro ⟨tes, htes, rfl⟩
    rw [List.forall₂_map_right_iff]
    exact htes.imp fun e te he => typedAs_iff.2 ⟨te, he, rfl⟩

lemma typedAs_array_iff :
    (Source.Expr.array xs).TypedAs scope keywords ty ↔ ∃ types elem, ty = .array elem ∧
      List.Forall₂ (Source.Expr.TypedAs scope keywords) xs types ∧
        (Ty.join types).result = .ok elem := by
  simp only [typedAs_iff, checkExpr, Noted.result_bind, bind_eq_ok, Noted.result_mapError,
    mapError_eq_ok, Noted.result_pure, Except.ok.injEq, forall₂_typedAs_iff]
  constructor
  · rintro ⟨_, ⟨tes, htes, elem, hjoin, rfl⟩, rfl⟩
    exact ⟨_, elem, rfl, ⟨tes, htes, rfl⟩, hjoin⟩
  · rintro ⟨_, elem, rfl, ⟨tes, htes, rfl⟩, hjoin⟩
    exact ⟨_, ⟨tes, htes, elem, hjoin, rfl⟩, rfl⟩

/-- If its items are accepted, then an array is rejected only because their types are not joined. -/
lemma error_of_checkExpr_array {types : List Ty} {e : CheckError}
    (htypes : List.Forall₂ (Source.Expr.TypedAs scope keywords) xs types)
    (h : (checkExpr scope keywords (.array xs)).result = .error e) :
    ∃ reason, e = .type reason ∧ (Ty.join types).result = .error reason := by
  obtain ⟨tes, htes, rfl⟩ := forall₂_typedAs_iff.1 htypes
  simp only [checkExpr, Noted.result_bind, htes, ok_bind, Noted.result_mapError] at h
  cases hjoin : (Ty.join (tes.map Typed.Expr.ty)).result with
  | ok elem =>
    rw [hjoin] at h
    cases h
  | error reason =>
    rw [hjoin] at h
    cases h
    exact ⟨reason, rfl, rfl⟩

lemma PlainItems.hasVars {types : List Ty} (hplain : PlainItems scope keywords xs)
    (h : List.Forall₂ (Source.Expr.TypedAs scope keywords) xs types) :
    ∀ ty ∈ types, ty.hasVars = false := by
  intro ty hty
  obtain ⟨x, hx, htyped⟩ := exists_of_mem_forall₂ h hty
  exact hplain x hx ty htyped

lemma PlainItems.perm (hplain : PlainItems scope keywords xs) (h : xs.Perm ys) :
    PlainItems scope keywords ys :=
  fun y hy => hplain y (h.mem_iff.2 hy)

lemma typedAs_array_joinsTo (hplain : PlainItems scope keywords xs) :
    (Source.Expr.array xs).TypedAs scope keywords ty ↔ ∃ types elem, ty = .array elem ∧
      List.Forall₂ (Source.Expr.TypedAs scope keywords) xs types ∧ Ty.JoinsTo .any types elem := by
  rw [typedAs_array_iff]
  refine exists_congr fun types => exists_congr fun elem => and_congr_right fun _ =>
    and_congr_right fun htypes => Ty.join_eq_ok_iff (hplain.hasVars htypes)

/-- In two orders that are both accepted an array has the same type. -/
lemma typedAs_array_unique (hplain : PlainItems scope keywords xs) (h : xs.Perm ys) {ty' : Ty}
    (hxs : (Source.Expr.array xs).TypedAs scope keywords ty)
    (hys : (Source.Expr.array ys).TypedAs scope keywords ty') : ty' = ty := by
  obtain ⟨types, elem, rfl, htypes, hjoins⟩ := (typedAs_array_joinsTo hplain).1 hxs
  obtain ⟨types', elem', rfl, htypes', hjoins'⟩ := (typedAs_array_joinsTo (hplain.perm h)).1 hys
  obtain ⟨types'', hmoved, hperm⟩ := List.perm_comp_forall₂ h.symm htypes
  have hunique : Relator.RightUnique (Source.Expr.TypedAs scope keywords) :=
    fun _ _ _ ha hb => typedAs_unique hb ha
  cases List.right_unique_forall₂' hunique htypes' hmoved
  have hlub := hjoins.isLUB rfl (hplain.hasVars htypes)
  have hlub' := hjoins'.isLUB rfl ((hplain.perm h).hasVars htypes')
  rw [((Ty.isLUB_perm (hperm.cons Ty.any)).1 hlub').unique hlub]

/-- An array that is accepted in one order is rejected in another one because of enumerations only. -/
lemma clash_of_array (hplain : PlainItems scope keywords xs) (h : xs.Perm ys) {e : CheckError}
    (hxs : (Source.Expr.array xs).TypedAs scope keywords ty)
    (hys : (checkExpr scope keywords (.array ys)).result = .error e) :
    ∃ reason, e = .type reason ∧ Ty.Clash reason ty := by
  obtain ⟨types, elem, rfl, htypes, hjoins⟩ := (typedAs_array_joinsTo hplain).1 hxs
  obtain ⟨types', htypes', hperm⟩ := List.perm_comp_forall₂ h.symm htypes
  obtain ⟨reason, rfl, hjoin⟩ := error_of_checkExpr_array htypes' hys
  have hupper := (hjoins.isLUB rfl (hplain.hasVars htypes)).1
  have hbelow : ∀ t ∈ types', t ≤ elem := fun t ht =>
    hupper (List.mem_cons_of_mem _ (hperm.mem_iff.1 ht))
  have hclash := Ty.join_clash ((hplain.perm h).hasVars htypes') hbelow hjoin
  exact ⟨reason, rfl, Ty.clash_part List.mem_cons_self hclash⟩

lemma exists_types (h : ∀ x ∈ xs, ∃ ty, x.TypedAs scope keywords ty) :
    ∃ types, List.Forall₂ (Source.Expr.TypedAs scope keywords) xs types := by
  induction xs with
  | nil => exact ⟨[], .nil⟩
  | cons x rest ih =>
    rw [List.forall_mem_cons] at h
    obtain ⟨ty, hty⟩ := h.1
    obtain ⟨types, htypes⟩ := ih h.2
    exact ⟨ty :: types, .cons hty htypes⟩

/-- The types of two expressions agree if they have both. -/
def AgreeIn (scope : Scope) (keywords : Named Ty) (x y : Source.Expr) : Prop :=
  ∀ a b, x.TypedAs scope keywords a → y.TypedAs scope keywords b →
    ∃ c, (Ty.agree a b).result = .ok c

lemma exists_array_of_agree (hplain : PlainItems scope keywords xs)
    (htyped : ∀ x ∈ xs, ∃ ty, x.TypedAs scope keywords ty)
    (hagree : ∀ x ∈ xs, ∀ y ∈ xs, AgreeIn scope keywords x y) :
    ∃ ty, (Source.Expr.array xs).TypedAs scope keywords ty := by
  obtain ⟨types, htypes⟩ := exists_types htyped
  have hvars := hplain.hasVars htypes
  obtain ⟨elem, hjoins⟩ := Ty.exists_join hvars (by
    intro a ha b hb
    obtain ⟨x, hx, hxa⟩ := exists_of_mem_forall₂ htypes ha
    obtain ⟨y, hy, hyb⟩ := exists_of_mem_forall₂ htypes hb
    exact (Ty.compatible_iff (hvars a ha) (hvars b hb)).2 (hagree x hx y hy a b hxa hyb))
  exact ⟨.array elem, (typedAs_array_joinsTo hplain).2 ⟨types, elem, rfl, htypes, hjoins⟩⟩

lemma agreeIn_of_array {x y : Source.Expr} {rest : List Source.Expr}
    (hplain : PlainItems scope keywords (x :: y :: rest))
    (h : (Source.Expr.array (x :: y :: rest)).TypedAs scope keywords ty) :
    AgreeIn scope keywords x y := by
  obtain ⟨types, elem, rfl, htypes, hjoins⟩ := (typedAs_array_joinsTo hplain).1 h
  have hvars := hplain.hasVars htypes
  intro a b ha hb
  obtain ⟨a', _, hxa, hyrest, rfl⟩ := List.forall₂_cons_left_iff.1 htypes
  obtain ⟨b', types, hyb, -, rfl⟩ := List.forall₂_cons_left_iff.1 hyrest
  cases typedAs_unique ha hxa
  cases typedAs_unique hb hyb
  cases hjoins with
  | @cons _ _ joined _ _ hfirst hrest =>
    have hlub := Ty.agree_isLUB rfl (hvars a List.mem_cons_self) hfirst
    have hsame : IsLUB {Ty.any, a} a := Ty.isLUB_pair_iff.2 ⟨.any a, le_refl a, fun _ _ h => h⟩
    cases hlub.unique hsame
    cases hrest with
    | @cons _ _ joined _ _ hsecond _ => exact ⟨joined, hsecond⟩

lemma agreeIn_self {x : Source.Expr} (hplain : PlainItems scope keywords [x]) :
    AgreeIn scope keywords x x := by
  intro a b ha hb
  cases typedAs_unique ha hb
  have hvars := hplain x List.mem_cons_self a ha
  exact (Ty.compatible_iff hvars hvars).1 (Ty.compatible_self hvars)

/-- Every order of the items is accepted exactly if each item is and their types agree two by two. -/
lemma forall_perm_array_iff (hplain : PlainItems scope keywords xs) :
    (∀ zs, xs.Perm zs → ∃ ty, (Source.Expr.array zs).TypedAs scope keywords ty) ↔
      (∀ x ∈ xs, ∃ ty, x.TypedAs scope keywords ty) ∧
        ∀ x ∈ xs, ∀ y ∈ xs, AgreeIn scope keywords x y := by
  constructor
  · intro h
    constructor
    · obtain ⟨ty, hty⟩ := h xs (List.Perm.refl xs)
      obtain ⟨types, elem, rfl, htypes, -⟩ := typedAs_array_iff.1 hty
      intro x hx
      obtain ⟨ty, -, hty⟩ := exists_of_mem_forall₂ htypes.flip hx
      exact ⟨ty, hty⟩
    · intro x hx y hy
      by_cases hxy : x = y
      · subst hxy
        apply agreeIn_self
        rintro _ h
        cases List.mem_singleton.1 h
        exact hplain x hx
      -- In an order that begins with the two items their types are joined first.
      obtain ⟨before, after, hxs⟩ := List.append_of_mem hx
      have hfront : xs.Perm (x :: (before ++ after)) := hxs ▸ List.perm_middle
      have hy' : y ∈ before ++ after := by
        rcases List.mem_cons.1 (hfront.mem_iff.1 hy) with heq | hy'
        · exact absurd heq.symm hxy
        · exact hy'
      obtain ⟨before', after', hrest⟩ := List.append_of_mem hy'
      have hswap : (before ++ after).Perm (y :: (before' ++ after')) := by
        rw [hrest]
        exact List.perm_middle
      have hfront' := hfront.trans (hswap.cons x)
      obtain ⟨ty, hty⟩ := h _ hfront'
      exact agreeIn_of_array (hplain.perm hfront') hty
  · rintro ⟨htyped, hagree⟩ zs hzs
    have hmem : ∀ {z}, z ∈ zs → z ∈ xs := fun hz => hzs.mem_iff.2 hz
    exact exists_array_of_agree (hplain.perm hzs) (fun z hz => htyped z (hmem hz))
      fun x hx y hy => hagree x (hmem hx) y (hmem hy)

/-- An array has the same type in all orders of its items that are accepted. Where one is accepted and
another one is not, two enumerations are in the way whose entries an enumeration in its type has. All
orders are accepted if the types of the items agree two by two. -/
theorem checkExpr_array_perm (hplain : PlainItems scope keywords xs) (h : xs.Perm ys) :
    (∀ ty ty', (Source.Expr.array xs).TypedAs scope keywords ty →
        (Source.Expr.array ys).TypedAs scope keywords ty' → ty' = ty) ∧
      (∀ ty e, (Source.Expr.array xs).TypedAs scope keywords ty →
        (checkExpr scope keywords (.array ys)).result = .error e →
          ∃ reason, e = .type reason ∧ Ty.Clash reason ty) ∧
      ((∀ zs, xs.Perm zs → ∃ ty, (Source.Expr.array zs).TypedAs scope keywords ty) ↔
        (∀ x ∈ xs, ∃ ty, x.TypedAs scope keywords ty) ∧
          ∀ x ∈ xs, ∀ y ∈ xs, AgreeIn scope keywords x y) :=
  ⟨fun _ _ hxs hys => typedAs_array_unique hplain h hxs hys,
    fun _ _ hxs hys => clash_of_array hplain h hxs hys, forall_perm_array_iff hplain⟩

end Arrays

/-- A parameter that is one of the modes of a heater. -/
def heaterScope : Scope := ⟨[("mode", ⟨.enum ["eco", "boost"], .param⟩)], []⟩

/-- The mode between two of its values. -/
def heaterModes : List Source.Expr :=
  [.constant (.enum "eco"), .var "mode", .constant (.enum "boost")]

def heaterModesLast : List Source.Expr :=
  [.constant (.enum "eco"), .constant (.enum "boost"), .var "mode"]

theorem checkExpr_array_perm_heater :
    PlainItems heaterScope [] heaterModes ∧
      (heaterModes.Perm heaterModes.reverse ∧
        (Source.Expr.array heaterModes.reverse).TypedAs heaterScope []
          (.array (.enum ["eco", "boost"])) ∧
        ∀ ty, (Source.Expr.array heaterModes.reverse).TypedAs heaterScope [] ty →
          ty = .array (.enum ["eco", "boost"])) ∧
      heaterModes.Perm heaterModesLast ∧
      (checkExpr heaterScope [] (.array heaterModesLast)).result =
        .error (.type (.cannotUnify (.enum ["eco"]) (.enum ["boost"]))) ∧
      Ty.Clash (.cannotUnify (.enum ["eco"]) (.enum ["boost"])) (.array (.enum ["eco", "boost"])) := by
  have hscope : heaterScope.Plain := by
    intro name entry h
    by_cases hname : "mode" = name
    · subst hname
      cases h
      rfl
    · simp [heaterScope, Scope.get?, Scope.layers, Named.get?, hname] at h
  have hkeywords : PlainKeywords [] := by
    intro cell ty h
    cases h
  have hplain : PlainItems heaterScope [] heaterModes := plainItems_of_plain hscope hkeywords
  have hreverse : heaterModes.Perm heaterModes.reverse := heaterModes.reverse_perm.symm
  have hlast : heaterModes.Perm heaterModesLast := (List.Perm.swap _ _ []).cons _
  have hty : (Source.Expr.array heaterModes).TypedAs heaterScope []
      (.array (.enum ["eco", "boost"])) := by rfl
  have hfails : (checkExpr heaterScope [] (.array heaterModesLast)).result =
      .error (.type (.cannotUnify (.enum ["eco"]) (.enum ["boost"]))) := by rfl
  obtain ⟨reason, hreason, hclash⟩ := (checkExpr_array_perm hplain hlast).2.1 _ _ hty hfails
  cases hreason
  exact ⟨hplain, ⟨hreverse, by rfl, fun ty => (checkExpr_array_perm hplain hreverse).1 _ ty hty⟩,
    hlast, hfails, hclash⟩

/-- Two names whose types have variables. -/
def openScope : Scope :=
  ⟨[("left", ⟨.array (.var "a"), .param⟩), ("right", ⟨.array (.var "b"), .param⟩)], []⟩

/-- One order of the modes is accepted and another one is not, and with type variables in scope two
orders that are accepted can have two types. -/
theorem checkExpr_array_ordered :
    (heaterModes.Perm heaterModesLast ∧
      (Source.Expr.array heaterModes).TypedAs heaterScope [] (.array (.enum ["eco", "boost"])) ∧
      (checkExpr heaterScope [] (.array heaterModesLast)).result =
        .error (.type (.cannotUnify (.enum ["eco"]) (.enum ["boost"])))) ∧
      [Source.Expr.var "left", .var "right"].Perm [.var "right", .var "left"] ∧
      (Source.Expr.array [.var "left", .var "right"]).TypedAs openScope []
        (.array (.array (.var "b"))) ∧
      (Source.Expr.array [.var "right", .var "left"]).TypedAs openScope []
        (.array (.array (.var "a"))) :=
  ⟨⟨(List.Perm.swap _ _ []).cons _, by rfl, by rfl⟩, List.Perm.swap _ _ [], by rfl, by rfl⟩

end ChannelRules
