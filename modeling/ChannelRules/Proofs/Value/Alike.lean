import ChannelRules.Proofs.Decimal.Order
import ChannelRules.Proofs.Named
import ChannelRules.Proofs.Value.Parts
import ChannelRules.Value.Compare

/-!
# The equality that programs see

Both equalities of values are symmetric, and values that are the same are alike. Arrays are alike
item by item. Objects are alike only if their fields are the same, so inside an object an entity is
compared with its tag and its display name, and an amount with its unit.

`Meets` is the equality carried into arrays and objects alike. Values that are alike meet. Values
that meet are alike if none of their objects holds a value that can be alike to another one: an
entity, an enumeration entry, a measure or a location.
-/

namespace ChannelRules

namespace Value

mutual

/-- Equality of structure is symmetric. -/
theorem same_comm : (a b : Value) → a.same b = b.same a
  | varRef _, b => by
    cases b with
    | varRef => exact Bool.beq_comm
    | _ => rfl
  | boolean _, b => by
    cases b with
    | boolean => exact Bool.beq_comm
    | _ => rfl
  | string _, b => by
    cases b with
    | string => exact Bool.beq_comm
    | _ => rfl
  | measure x u, b => by
    cases b with
    | measure y v => exact congrArg₂ and (Decimal.beq_comm x y) Bool.beq_comm
    | _ => rfl
  | number x, b => by
    cases b with
    | number y => exact Decimal.beq_comm x y
    | _ => rfl
  | location x y d, b => by
    cases b with
    | location x' y' d' =>
      exact congrArg₂ and (congrArg₂ and (Decimal.beq_comm x x') (Decimal.beq_comm y y'))
        Bool.beq_comm
    | _ => rfl
  | date _, b => by
    cases b with
    | date => exact Bool.beq_comm
    | _ => rfl
  | time _ _, b => by
    cases b with
    | time => exact congrArg₂ and Bool.beq_comm Bool.beq_comm
    | _ => rfl
  | entity _ _ _, b => by
    cases b with
    | entity => exact congrArg₂ and (congrArg₂ and Bool.beq_comm Bool.beq_comm) Bool.beq_comm
    | _ => rfl
  | enum _, b => by
    cases b with
    | enum => exact Bool.beq_comm
    | _ => rfl
  | feed _, b => by
    cases b with
    | feed => exact Bool.beq_comm
    | _ => rfl
  | object xs, b => by
    cases b with
    | object ys => exact sameFields_comm xs ys
    | _ => rfl
  | array as, b => by
    cases b with
    | array bs => exact sameItems_comm as bs
    | _ => rfl

theorem sameItems_comm : (as bs : List Value) → sameItems as bs = sameItems bs as
  | [], [] | [], _ :: _ | _ :: _, [] => rfl
  | a :: as, b :: bs => congrArg₂ and (same_comm a b) (sameItems_comm as bs)

theorem sameFields_comm : (xs ys : List (String × Value)) → sameFields xs ys = sameFields ys xs
  | [], [] | [], _ :: _ | _ :: _, [] => rfl
  | (_, a) :: xs, (_, b) :: ys =>
    congrArg₂ and (congrArg₂ and Bool.beq_comm (same_comm a b)) (sameFields_comm xs ys)

end

lemma sameAmount_comm (a b : Value) : a.sameAmount b = b.sameAmount a := by
  unfold sameAmount
  cases a.asNumber with
  | none => cases b.asNumber <;> exact same_comm a b
  | some x =>
    cases b.asNumber with
    | none => exact same_comm a b
    | some y => exact Decimal.beq_comm x y

mutual

/-- The equality that programs see is symmetric. -/
theorem alike_comm : (a b : Value) → a.alike b = b.alike a
  | entity _ _ _, b => by
    cases b with
    | entity | string => exact Bool.beq_comm
    | _ => simp only [alike, sameAmount_comm]
  | string _, b => by
    cases b with
    | entity | enum => exact Bool.beq_comm
    | _ => simp only [alike, sameAmount_comm]
  | enum _, b => by
    cases b with
    | string => exact Bool.beq_comm
    | _ => simp only [alike, sameAmount_comm]
  | location x y _, b => by
    cases b with
    | location x' y' _ => exact congrArg₂ and (Decimal.beq_comm x x') (Decimal.beq_comm y y')
    | _ => simp only [alike, sameAmount_comm]
  | array as, b => by
    cases b with
    | array bs => exact alikeItems_comm as bs
    | _ => simp only [alike, sameAmount_comm]
  | varRef _, b | boolean _, b | measure _ _, b | number _, b | date _, b | time _ _, b
  | object _, b | feed _, b => by
    cases b <;> simp only [alike, sameAmount_comm]

theorem alikeItems_comm : (as bs : List Value) → alikeItems as bs = alikeItems bs as
  | [], [] | [], _ :: _ | _ :: _, [] => rfl
  | a :: as, b :: bs => congrArg₂ and (alike_comm a b) (alikeItems_comm as bs)

end

mutual

/-- Values that are the same are alike. -/
theorem alike_of_same : (a b : Value) → a.same b = true → a.alike b = true
  | entity _ _ _, b, h => by
    cases b with
    | entity =>
      simp only [same, Bool.and_eq_true] at h
      exact h.1.1
    | _ => cases h
  | location _ _ _, b, h => by
    cases b with
    | location =>
      simp only [same, Bool.and_eq_true] at h
      exact Bool.and_eq_true_iff.2 h.1
    | _ => cases h
  | measure _ _, b, h => by
    cases b with
    | measure =>
      simp only [same, Bool.and_eq_true] at h
      exact h.1
    | _ => cases h
  | array as, b, h => by
    cases b with
    | array bs => exact alikeItems_of_sameItems as bs h
    | _ => cases h
  | varRef _, b, h | boolean _, b, h | string _, b, h | number _, b, h | date _, b, h
  | time _ _, b, h | enum _, b, h | object _, b, h | feed _, b, h => by
    cases b <;> first | exact h | cases h

theorem alikeItems_of_sameItems :
    (as bs : List Value) → sameItems as bs = true → alikeItems as bs = true
  | [], [], _ => rfl
  | [], _ :: _, h | _ :: _, [], h => nomatch h
  | a :: as, b :: bs, h => by
    obtain ⟨hfirst, hrest⟩ := Bool.and_eq_true_iff.1 h
    exact Bool.and_eq_true_iff.2 ⟨alike_of_same a b hfirst, alikeItems_of_sameItems as bs hrest⟩

end

/-- A test of two lists that tests the items at the same places, and accepts no item that is left
over, is a relation of the lists item by item. -/
lemma forall₂_of_test {α : Type} {test : List α → List α → Bool} {r : α → α → Bool}
    (hnil : test [] [] = true) (hleft : ∀ b bs, test [] (b :: bs) = false)
    (hright : ∀ a as, test (a :: as) [] = false)
    (hcons : ∀ a as b bs, test (a :: as) (b :: bs) = (r a b && test as bs)) {as bs : List α} :
    test as bs = true ↔ List.Forall₂ (fun a b => r a b = true) as bs := by
  induction as generalizing bs with
  | nil =>
    cases bs with
    | nil => simp [hnil]
    | cons b bs => simp [hleft]
  | cons a as ih =>
    cases bs with
    | nil => simp [hright]
    | cons b bs => rw [hcons, Bool.and_eq_true, List.forall₂_cons, ih]

lemma alikeItems_iff {as bs : List Value} :
    alikeItems as bs = true ↔ List.Forall₂ (fun a b => a.alike b = true) as bs :=
  forall₂_of_test rfl (fun _ _ => rfl) (fun _ _ => rfl) fun _ _ _ _ => rfl

lemma sameItems_iff {as bs : List Value} :
    sameItems as bs = true ↔ List.Forall₂ (fun a b => a.same b = true) as bs :=
  forall₂_of_test rfl (fun _ _ => rfl) (fun _ _ => rfl) fun _ _ _ _ => rfl

lemma sameFields_iff {xs ys : List (String × Value)} :
    sameFields xs ys = true ↔
      List.Forall₂ (fun x y => x.1 = y.1 ∧ x.2.same y.2 = true) xs ys := by
  simp only [← beq_iff_eq (α := String), ← Bool.and_eq_true]
  exact forall₂_of_test rfl (fun _ _ => rfl) (fun _ _ => rfl) fun _ _ _ _ => rfl

/-- The single values that are alike to no other one of their form. -/
def isExact : Value → Bool
  | varRef _ | boolean _ | string _ | date _ | time _ _ | enum _ | feed _ => true
  | _ => false

lemma same_iff_of_isExact {a b : Value} (ha : a.isExact = true) : a.same b = true ↔ a = b := by
  cases a <;> cases ha <;> cases b <;> simp [same]

lemma alike_amounts {a b : Value} {x y : Float} (ha : a.asNumber = some x)
    (hb : b.asNumber = some y) : a.alike b = (x == y) := by
  cases a with
  | number | measure =>
    cases b with
    | number | measure =>
      cases ha
      cases hb
      rfl
    | _ => cases hb
  | _ => cases ha

/-- The equality of single values, carried into arrays and objects: entities meet by value, amounts
as numbers, places by their coordinates, and strings meet entities and enumeration entries of the
same text. Arrays meet item by item, objects with the same names field by field. -/
inductive Meets : Value → Value → Prop
  | exact {a : Value} (h : a.isExact = true) : Meets a a
  | amounts {a b : Value} {x y : Float} (ha : a.asNumber = some x) (hb : b.asNumber = some y)
      (h : (x == y) = true) : Meets a b
  | places {x y x' y' : Float} (display display' : Option String) (hx : (x == x') = true)
      (hy : (y == y') = true) : Meets (location x y display) (location x' y' display')
  | entities (value tag tag' : String) (display display' : Option String) :
      Meets (entity value tag display) (entity value tag' display')
  | entityString (value tag : String) (display : Option String) :
      Meets (entity value tag display) (string value)
  | stringEntity (value tag : String) (display : Option String) :
      Meets (string value) (entity value tag display)
  | enumString (entry : String) : Meets (enum entry) (string entry)
  | stringEnum (entry : String) : Meets (string entry) (enum entry)
  | array {as bs : List Value} (hlength : as.length = bs.length)
      (h : ∀ i ha hb, Meets (as.get ⟨i, ha⟩) (bs.get ⟨i, hb⟩)) : Meets (array as) (array bs)
  | object {xs ys : List (String × Value)} (hlength : xs.length = ys.length)
      (hnames : ∀ i hx hy, (xs.get ⟨i, hx⟩).1 = (ys.get ⟨i, hy⟩).1)
      (h : ∀ i hx hy, Meets (xs.get ⟨i, hx⟩).2 (ys.get ⟨i, hy⟩).2) : Meets (object xs) (object ys)

lemma meets_array {as bs : List Value} (h : List.Forall₂ Meets as bs) :
    Meets (array as) (array bs) :=
  .array h.length_eq (List.forall₂_iff_get.1 h).2

lemma meets_object {xs ys : List (String × Value)}
    (h : List.Forall₂ (fun x y => x.1 = y.1 ∧ Meets x.2 y.2) xs ys) :
    Meets (object xs) (object ys) := by
  have hget := (List.forall₂_iff_get.1 h).2
  exact .object h.length_eq (fun i hx hy => (hget i hx hy).1) fun i hx hy => (hget i hx hy).2

lemma meets_of_same_exact {a b : Value} (ha : a.isExact = true) (h : a.same b = true) :
    Meets a b := by
  obtain rfl := (same_iff_of_isExact ha).1 h
  exact .exact ha

mutual

/-- Values that are alike meet. -/
theorem meets_of_alike : (a b : Value) → a.alike b = true → Meets a b
  | entity _ _ _, b, h => by
    cases b with
    | entity =>
      obtain rfl := beq_iff_eq.1 h
      exact .entities _ _ _ _ _
    | string =>
      obtain rfl := beq_iff_eq.1 h
      exact .entityString _ _ _
    | _ => cases h
  | string _, b, h => by
    cases b with
    | entity =>
      obtain rfl := beq_iff_eq.1 h
      exact .stringEntity _ _ _
    | enum =>
      obtain rfl := beq_iff_eq.1 h
      exact .stringEnum _
    | string => exact meets_of_same_exact rfl h
    | _ => cases h
  | enum _, b, h => by
    cases b with
    | string =>
      obtain rfl := beq_iff_eq.1 h
      exact .enumString _
    | enum => exact meets_of_same_exact rfl h
    | _ => cases h
  | location _ _ _, b, h => by
    cases b with
    | location =>
      obtain ⟨hx, hy⟩ := Bool.and_eq_true_iff.1 h
      exact .places _ _ hx hy
    | _ => cases h
  | measure _ _, b, h | number _, b, h => by
    cases b with
    | measure | number => exact .amounts rfl rfl h
    | _ => cases h
  | array as, b, h => by
    cases b with
    | array bs => exact meets_array (meets_of_alikeItems as bs h)
    | _ => cases h
  | object xs, b, h => by
    cases b with
    | object ys => exact meets_object (meets_of_sameFields xs ys h)
    | _ => cases h
  | varRef _, b, h | boolean _, b, h | date _, b, h | time _ _, b, h | feed _, b, h => by
    refine meets_of_same_exact rfl ?_
    cases b <;> exact h

theorem meets_of_alikeItems :
    (as bs : List Value) → alikeItems as bs = true → List.Forall₂ Meets as bs
  | [], [], _ => .nil
  | [], _ :: _, h | _ :: _, [], h => nomatch h
  | a :: as, b :: bs, h => by
    obtain ⟨hfirst, hrest⟩ := Bool.and_eq_true_iff.1 h
    exact .cons (meets_of_alike a b hfirst) (meets_of_alikeItems as bs hrest)

theorem meets_of_sameFields :
    (xs ys : List (String × Value)) → sameFields xs ys = true →
      List.Forall₂ (fun x y => x.1 = y.1 ∧ Meets x.2 y.2) xs ys
  | [], [], _ => .nil
  | [], _ :: _, h | _ :: _, [], h => nomatch h
  | (_, a) :: xs, (_, b) :: ys, h => by
    obtain ⟨hfirst, hrest⟩ := Bool.and_eq_true_iff.1 h
    obtain ⟨hname, hvalue⟩ := Bool.and_eq_true_iff.1 hfirst
    exact .cons ⟨beq_iff_eq.1 hname, meets_of_alike a b (alike_of_same a b hvalue)⟩
      (meets_of_sameFields xs ys hrest)

end

/-- The single values that can be alike to another one without being the same. -/
def isCoarse : Value → Bool
  | entity _ _ _ | enum _ | measure _ _ | location _ _ _ => true
  | _ => false

/-- Values without coarse parts are the same when they meet. -/
lemma same_of_meets {a b : Value} (h : Meets a b) (ha : a.holds isCoarse = false)
    (hb : b.holds isCoarse = false) : a.same b = true := by
  induction h with
  | exact h => exact (same_iff_of_isExact h).2 rfl
  | @amounts a b x y hx hy h =>
    cases a with
    | number =>
      cases b with
      | number =>
        cases hx
        cases hy
        exact h
      | measure => cases hb
      | _ => cases hy
    | measure => cases ha
    | _ => cases hx
  | places | entities | entityString | enumString => cases ha
  | stringEntity | stringEnum => cases hb
  | array hlength _ ih =>
    have has := holdsItems_eq_false.1 ha
    have hbs := holdsItems_eq_false.1 hb
    exact sameItems_iff.2 (List.forall₂_iff_get.2 ⟨hlength, fun i hx hy =>
      ih i hx hy (has _ (List.get_mem _ _)) (hbs _ (List.get_mem _ _))⟩)
  | object hlength hnames _ ih =>
    have has := holdsFields_eq_false.1 ha
    have hbs := holdsFields_eq_false.1 hb
    exact sameFields_iff.2 (List.forall₂_iff_get.2 ⟨hlength, fun i hx hy => ⟨hnames i hx hy,
      ih i hx hy (has _ (List.get_mem _ _)) (hbs _ (List.get_mem _ _))⟩⟩)

/-- Two objects that stand at the same place of two values, in arrays of any depth. -/
inductive Paired : Value → Value → List (String × Value) → List (String × Value) → Prop
  | here (xs ys : List (String × Value)) : Paired (object xs) (object ys) xs ys
  | item {as bs : List Value} {xs ys : List (String × Value)} (i : ℕ) (ha : i < as.length)
      (hb : i < bs.length) (h : Paired (as.get ⟨i, ha⟩) (bs.get ⟨i, hb⟩) xs ys) :
      Paired (array as) (array bs) xs ys

section Paired

variable {a b : Value} {xs ys : List (String × Value)}

lemma Paired.same (h : Paired a b xs ys) (halike : a.alike b = true) :
    (object xs).same (object ys) = true := by
  induction h with
  | here xs ys => exact halike
  | item i ha hb _ ih => exact ih ((List.forall₂_iff_get.1 (alikeItems_iff.1 halike)).2 i ha hb)

lemma Paired.meets (h : Paired a b xs ys) (hmeets : Meets a b) : Meets (object xs) (object ys) := by
  induction h with
  | here xs ys => exact hmeets
  | item i ha hb _ ih =>
    cases hmeets with
    | exact h => cases h
    | amounts h => cases h
    | array hlength h => exact ih (h i ha hb)

lemma Paired.holds_eq_false {p : Value → Bool} (h : Paired a b xs ys) (ha : a.hides p = false)
    (hb : b.hides p = false) : (object xs).holds p = false ∧ (object ys).holds p = false := by
  induction h with
  | here xs ys => exact ⟨ha, hb⟩
  | item i hi hj _ ih =>
    exact ih (hidesItems_eq_false.1 ha _ (List.get_mem _ _))
      (hidesItems_eq_false.1 hb _ (List.get_mem _ _))

end Paired

/-- Values that meet are alike if the objects in them are the same, place by place. -/
lemma alike_of_meets {a b : Value} (h : Meets a b)
    (hobjects : ∀ xs ys, Paired a b xs ys → (object xs).same (object ys) = true) :
    a.alike b = true := by
  induction h with
  | exact h => exact alike_of_same _ _ ((same_iff_of_isExact h).2 rfl)
  | amounts hx hy h => rw [alike_amounts hx hy, h]
  | places _ _ hx hy => exact Bool.and_eq_true_iff.2 ⟨hx, hy⟩
  | entities | entityString | stringEntity | enumString | stringEnum => exact beq_iff_eq.2 rfl
  | array hlength _ ih =>
    exact alikeItems_iff.2 (List.forall₂_iff_get.2 ⟨hlength, fun i hx hy =>
      ih i hx hy fun xs ys hpaired => hobjects xs ys (.item i hx hy hpaired)⟩)
  | object => exact hobjects _ _ (.here _ _)

/-- Values are alike exactly if they meet and the objects in them are the same, place by place. -/
theorem alike_iff_meets {a b : Value} :
    a.alike b = true ↔
      Meets a b ∧ ∀ xs ys, Paired a b xs ys → (object xs).same (object ys) = true :=
  ⟨fun h => ⟨meets_of_alike a b h, fun _ _ hpaired => hpaired.same h⟩,
    fun h => alike_of_meets h.1 h.2⟩

/-- Values whose objects hide no coarse value are alike exactly if they meet. -/
lemma alike_iff_meets_of_hides {a b : Value} (ha : a.hides isCoarse = false)
    (hb : b.hides isCoarse = false) : a.alike b = true ↔ Meets a b := by
  rw [alike_iff_meets]
  refine ⟨And.left, fun h => ⟨h, fun xs ys hpaired => ?_⟩⟩
  obtain ⟨hxs, hys⟩ := hpaired.holds_eq_false ha hb
  exact same_of_meets (hpaired.meets h) hxs hys

/-- Two objects have the same names, and under each of them values that an equality relates. -/
def SameNamed (eq : Value → Value → Bool) (xs ys : Named Value) : Prop :=
  ∀ name, Option.Rel (fun a b => eq a b = true) (Named.get? xs name) (Named.get? ys name)

lemma alike_object_iff {xs ys : Named Value} (hxs : Named.Ordered xs) (hys : Named.Ordered ys) :
    (object xs).alike (object ys) = true ↔ SameNamed same xs ys :=
  sameFields_iff.trans (Named.forall₂_iff_lookups (r := fun a b => a.same b = true) hxs hys)

lemma sameNamed_alike {xs ys : Named Value} (h : SameNamed same xs ys) : SameNamed alike xs ys :=
  fun name => match Named.get? xs name, Named.get? ys name, h name with
    | _, _, .none => .none
    | _, _, .some hvalue => .some (alike_of_same _ _ hvalue)

/-- Arrays are alike exactly if they are alike item by item. Objects are alike exactly if they are
the same field by field, so they are compared by what programs see in their fields exactly if fields
that are all alike are all the same. At any depth, values are alike exactly if they meet and the
objects in them are the same, place by place; meeting is enough if no object in them holds an entity,
an enumeration entry, a measure or a location. -/
theorem alike_componentwise (a b : Value) (as bs : List Value) {xs ys : Named Value}
    (hxs : Named.Ordered xs) (hys : Named.Ordered ys) :
    ((array as).alike (array bs) = true ↔ List.Forall₂ (fun a b => a.alike b = true) as bs) ∧
      ((object xs).alike (object ys) = true ↔ SameNamed same xs ys) ∧
      (((object xs).alike (object ys) = true ↔ SameNamed alike xs ys) ↔
        (SameNamed alike xs ys → SameNamed same xs ys)) ∧
      (a.alike b = true ↔
        Meets a b ∧ ∀ us vs, Paired a b us vs → (object us).same (object vs) = true) ∧
      (a.hides isCoarse = false → b.hides isCoarse = false → (a.alike b = true ↔ Meets a b)) := by
  refine ⟨alikeItems_iff, alike_object_iff hxs hys, ?_, alike_iff_meets, alike_iff_meets_of_hides⟩
  rw [alike_object_iff hxs hys]
  exact ⟨fun h => h.2, fun h => ⟨sameNamed_alike, h⟩⟩

/-- An account that is shown by the name of its owner. -/
def namedAccount : Value := entity "bob" "tt:username" (some "Bob")

/-- The same account, shown by its value. -/
def plainAccount : Value := plainEntity "bob" "tt:username"

/-- An account is alike to its plain form, also in an array, but not in a field of an object. An array
in which an object holds a number only is alike to what it meets. -/
theorem alike_componentwise_account :
    (array [namedAccount]).alike (array [plainAccount]) = true ∧
      SameNamed alike [("owner", namedAccount)] [("owner", plainAccount)] ∧
      (object [("owner", namedAccount)]).alike (object [("owner", plainAccount)]) = false ∧
      ¬ ((object [("owner", namedAccount)]).alike (object [("owner", plainAccount)]) = true ↔
        SameNamed alike [("owner", namedAccount)] [("owner", plainAccount)]) ∧
      (array [namedAccount, object [("visits", number 2)]]).alike
        (array [string "bob", object [("visits", number 2)]]) = true := by
  have hfields : SameNamed alike [("owner", namedAccount)] [("owner", plainAccount)] := by
    intro name
    unfold Named.get?
    split
    · exact .some rfl
    · exact .none
  have hdiffer : (object [("owner", namedAccount)]).alike (object [("owner", plainAccount)]) =
      false := rfl
  have hmeets : Meets (array [namedAccount, object [("visits", number 2)]])
      (array [string "bob", object [("visits", number 2)]]) :=
    meets_array (.cons (.entityString _ _ _)
      (.cons (meets_object (.cons ⟨rfl, .amounts rfl rfl rfl⟩ .nil)) .nil))
  obtain ⟨harrays, -, hlaw, -, hmeet⟩ :=
    alike_componentwise (array [namedAccount, object [("visits", number 2)]])
      (array [string "bob", object [("visits", number 2)]]) [namedAccount] [plainAccount]
      (List.pairwise_singleton _ ("owner", namedAccount))
      (List.pairwise_singleton _ ("owner", plainAccount))
  refine ⟨harrays.2 (.cons rfl .nil), hfields, hdiffer, fun h => ?_, (hmeet rfl rfl).2 hmeets⟩
  have hsame := hlaw.1 h hfields "owner"
  cases hsame with
  | some hvalue => cases hvalue

end Value

end ChannelRules
