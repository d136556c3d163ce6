import ChannelRules.Proofs.Named
import ChannelRules.Ty.Basic
import Mathlib.Data.List.Forall2
import Mathlib.Order.Basic

/-!
# How specific a type is

Types are ordered by how much they leave open: a type is below the types it can be made more
specific to.
-/

namespace ChannelRules

namespace Ty

/-- The second type is the first, made more specific. Of several lists of the same entries, only the
one in increasing order is above the others. -/
inductive Le : Ty → Ty → Prop
  | refl (a : Ty) : Le a a
  | any (b : Ty) : Le any b
  | measure (unit : String) : Le (measure "") (measure unit)
  | openObject (fields : List (String × Ty)) : Le openObject (object fields)
  | openTuple (items : List Ty) : Le openTuple (tuple items)
  | stringEnum (entries : List String) : Le string (enum entries)
  | stringEntity (tag : String) : Le string (entity tag)
  | enum {xs ys : List String} (hsub : xs ⊆ ys) (hsame : ys ⊆ xs → ys = NameSet.ofNames xs) :
      Le (enum xs) (enum ys)
  | array {a b : Ty} (h : Le a b) : Le (array a) (array b)
  | map {k l a b : Ty} (hkey : Le k l) (hvalue : Le a b) : Le (map k a) (map l b)
  | tuple {xs ys : List Ty} (hlength : xs.length = ys.length)
      (h : ∀ i hx hy, Le (xs.get ⟨i, hx⟩) (ys.get ⟨i, hy⟩)) : Le (tuple xs) (tuple ys)
  | object {xs ys : List (String × Ty)} (hlength : xs.length = ys.length)
      (hnames : ∀ i hx hy, (xs.get ⟨i, hx⟩).1 = (ys.get ⟨i, hy⟩).1)
      (h : ∀ i hx hy, Le (xs.get ⟨i, hx⟩).2 (ys.get ⟨i, hy⟩).2) : Le (object xs) (object ys)

lemma Le.trans {a b c : Ty} (hab : Le a b) (hbc : Le b c) : Le a c := by
  induction hab generalizing c with
  | refl a => exact hbc
  | any b => exact .any c
  | measure unit =>
    cases hbc with
    | refl => exact .measure unit
    | measure unit => exact .measure unit
  | openObject fields =>
    cases hbc with
    | refl => exact .openObject fields
    | object _ _ _ => exact .openObject _
  | openTuple items =>
    cases hbc with
    | refl => exact .openTuple items
    | tuple _ _ => exact .openTuple _
  | stringEnum entries =>
    cases hbc with
    | refl => exact .stringEnum entries
    | enum _ _ => exact .stringEnum _
  | stringEntity tag =>
    cases hbc with
    | refl => exact .stringEntity tag
  | @enum xs ys hsub hsame =>
    cases hbc with
    | refl => exact .enum hsub hsame
    | @enum _ zs hsub' hsame' =>
      refine .enum (List.Subset.trans hsub hsub') fun hback => ?_
      have hyz : zs = NameSet.ofNames ys := hsame' (List.Subset.trans hback hsub)
      rw [hyz]
      exact NameSet.ofNames_congr fun x => ⟨fun hx => hback (hsub' hx), fun hx => hsub hx⟩
  | array _ ih =>
    cases hbc with
    | refl => exact .array (ih (.refl _))
    | array h => exact .array (ih h)
  | map _ _ ihkey ihvalue =>
    cases hbc with
    | refl => exact .map (ihkey (.refl _)) (ihvalue (.refl _))
    | map hkey hvalue => exact .map (ihkey hkey) (ihvalue hvalue)
  | @tuple xs ys hlength _ ih =>
    cases hbc with
    | refl => exact .tuple hlength fun i hx hy => ih i hx hy (.refl _)
    | tuple hlength' h =>
      refine .tuple (hlength.trans hlength') fun i hx hz => ?_
      have hy : i < ys.length := hlength ▸ hx
      exact ih i hx hy (h i hy hz)
  | @object xs ys hlength hnames _ ih =>
    cases hbc with
    | refl => exact .object hlength hnames fun i hx hy => ih i hx hy (.refl _)
    | object hlength' hnames' h =>
      refine .object (hlength.trans hlength') (fun i hx hz => ?_) fun i hx hz => ?_
      · have hy : i < ys.length := hlength ▸ hx
        exact (hnames i hx hy).trans (hnames' i hy hz)
      · have hy : i < ys.length := hlength ▸ hx
        exact ih i hx hy (h i hy hz)

lemma Le.antisymm {a b : Ty} (hab : Le a b) (hba : Le b a) : a = b := by
  induction hab with
  | refl => rfl
  | any b =>
    cases hba <;> rfl
  | measure unit =>
    cases hba <;> rfl
  | openObject fields => cases hba
  | openTuple items => cases hba
  | stringEnum entries => cases hba
  | stringEntity tag => cases hba
  | @enum xs ys hsub hsame =>
    cases hba with
    | refl => rfl
    | enum hsub' hsame' =>
      have hset : NameSet.ofNames xs = NameSet.ofNames ys :=
        NameSet.ofNames_congr fun x => ⟨fun hx => hsub hx, fun hx => hsub' hx⟩
      have heq : xs = ys := calc
        xs = NameSet.ofNames ys := hsame' hsub
        _ = NameSet.ofNames xs := hset.symm
        _ = ys := (hsame hsub').symm
      rw [heq]
  | array _ ih =>
    cases hba with
    | refl => rfl
    | array h => rw [ih h]
  | map _ _ ihkey ihvalue =>
    cases hba with
    | refl => rfl
    | map hkey hvalue => rw [ihkey hkey, ihvalue hvalue]
  | tuple hlength _ ih =>
    cases hba with
    | refl => rfl
    | tuple _ h =>
      congr 1
      exact List.ext_get hlength fun i hx hy => ih i hx hy (h i hy hx)
  | object hlength hnames _ ih =>
    cases hba with
    | refl => rfl
    | object _ _ h =>
      congr 1
      exact List.ext_get hlength fun i hx hy =>
        Prod.ext (hnames i hx hy) (ih i hx hy (h i hy hx))

instance : PartialOrder Ty where
  le := Le
  le_refl := Le.refl
  le_trans _ _ _ := Le.trans
  le_antisymm _ _ := Le.antisymm

section Above

variable {a b d k v : Ty} {xs : List Ty} {fields : List (String × Ty)}

lemma array_le_iff : array a ≤ d ↔ ∃ b, d = array b ∧ a ≤ b := by
  constructor
  · intro h
    cases h with
    | refl => exact ⟨a, rfl, le_refl a⟩
    | array h => exact ⟨_, rfl, h⟩
  · rintro ⟨b, rfl, h⟩
    exact Le.array h

lemma map_le_iff : map k v ≤ d ↔ ∃ l w, d = map l w ∧ k ≤ l ∧ v ≤ w := by
  constructor
  · intro h
    cases h with
    | refl => exact ⟨k, v, rfl, le_refl k, le_refl v⟩
    | map hkey hvalue => exact ⟨_, _, rfl, hkey, hvalue⟩
  · rintro ⟨l, w, rfl, hkey, hvalue⟩
    exact Le.map hkey hvalue

lemma tuple_le_iff : tuple xs ≤ d ↔ ∃ ys, d = tuple ys ∧ List.Forall₂ (· ≤ ·) xs ys := by
  constructor
  · intro h
    cases h with
    | refl => exact ⟨xs, rfl, List.forall₂_refl xs⟩
    | tuple hlength h => exact ⟨_, rfl, List.forall₂_iff_get.2 ⟨hlength, h⟩⟩
  · rintro ⟨ys, rfl, h⟩
    exact Le.tuple h.length_eq (List.forall₂_iff_get.1 h).2

/-- A field with the same name and a type above. -/
def FieldLe (x y : String × Ty) : Prop := x.1 = y.1 ∧ x.2 ≤ y.2

lemma object_le_iff :
    object fields ≤ d ↔ ∃ ys, d = object ys ∧ List.Forall₂ FieldLe fields ys := by
  constructor
  · intro h
    cases h with
    | refl => exact ⟨fields, rfl, List.forall₂_same.2 fun x _ => ⟨rfl, le_refl x.2⟩⟩
    | object hlength hnames h =>
      exact ⟨_, rfl, List.forall₂_iff_get.2 ⟨hlength, fun i hx hy => ⟨hnames i hx hy, h i hx hy⟩⟩⟩
  · rintro ⟨ys, rfl, h⟩
    have hget := (List.forall₂_iff_get.1 h).2
    exact Le.object h.length_eq (fun i hx hy => (hget i hx hy).1) fun i hx hy => (hget i hx hy).2

lemma names_of_fieldLe {xs ys : List (String × Ty)} (h : List.Forall₂ FieldLe xs ys) :
    Named.names xs = Named.names ys := by
  rw [← List.forall₂_eq_eq_eq]
  exact List.forall₂_map_left_iff.2 (List.forall₂_map_right_iff.2 (h.imp fun _ _ h => h.1))

end Above

end Ty

end ChannelRules
