import ChannelRules.Proofs.Ty.Compatible

/-!
# Types below one type

Two types that a third one is above have the same form where they are not comparable. They can
therefore be brought together unless two enumerations meet neither of which has all entries of the
other: unification does not make an enumeration with the entries of both.
-/

namespace ChannelRules

namespace Ty

/-- A type occurs in another one, at any depth. -/
inductive OccursIn (part : Ty) : Ty → Prop
  | here : OccursIn part part
  | inside {ty next : Ty} (hnext : next ∈ ty.components) (h : OccursIn part next) : OccursIn part ty

/-- Two types below one type are comparable, or have parts one by one, or are lists of its entries. -/
lemma below_cases {a b c : Ty} (ha : a ≤ c) (hb : b ≤ c) :
    a ≤ b ∨ b ≤ a ∨ Aligned a b ∨
      ∃ xs ys zs, a = enum xs ∧ b = enum ys ∧ c = enum zs ∧ xs ⊆ zs ∧ ys ⊆ zs := by
  cases ha with
  | refl => exact .inr (.inl hb)
  | any => exact .inl (Le.any b)
  | measure unit =>
    cases hb with
    | refl => exact .inl (Le.measure unit)
    | any => exact .inr (.inl (Le.any _))
    | measure => exact .inl (le_refl _)
  | openObject fields =>
    cases hb with
    | refl => exact .inl (Le.openObject fields)
    | any => exact .inr (.inl (Le.any _))
    | openObject => exact .inl (le_refl _)
    | object _ _ _ => exact .inl (Le.openObject _)
  | openTuple items =>
    cases hb with
    | refl => exact .inl (Le.openTuple items)
    | any => exact .inr (.inl (Le.any _))
    | openTuple => exact .inl (le_refl _)
    | tuple _ _ => exact .inl (Le.openTuple _)
  | stringEnum entries =>
    cases hb with
    | refl => exact .inl (Le.stringEnum entries)
    | any => exact .inr (.inl (Le.any _))
    | stringEnum => exact .inl (le_refl _)
    | enum _ _ => exact .inl (Le.stringEnum _)
  | stringEntity tag =>
    cases hb with
    | refl => exact .inl (Le.stringEntity tag)
    | any => exact .inr (.inl (Le.any _))
    | stringEntity => exact .inl (le_refl _)
  | @enum xs zs hsub hsame =>
    cases hb with
    | refl => exact .inl (Le.enum hsub hsame)
    | any => exact .inr (.inl (Le.any _))
    | stringEnum => exact .inr (.inl (Le.stringEnum xs))
    | @enum ys _ hsub' _ =>
      exact .inr (.inr (.inr ⟨xs, ys, zs, rfl, rfl, rfl, hsub, hsub'⟩))
  | array h =>
    cases hb with
    | refl => exact .inl (Le.array h)
    | any => exact .inr (.inl (Le.any _))
    | array _ => exact .inr (.inr (.inl (.array _ _)))
  | map hkey hvalue =>
    cases hb with
    | refl => exact .inl (Le.map hkey hvalue)
    | any => exact .inr (.inl (Le.any _))
    | map _ _ => exact .inr (.inr (.inl (.map _ _ _ _)))
  | tuple hlength h =>
    cases hb with
    | refl => exact .inl (Le.tuple hlength h)
    | any => exact .inr (.inl (Le.any _))
    | openTuple => exact .inr (.inl (Le.openTuple _))
    | tuple hlength' _ => exact .inr (.inr (.inl (.tuple (hlength.trans hlength'.symm))))
  | object hlength hnames h =>
    cases hb with
    | refl => exact .inl (Le.object hlength hnames h)
    | any => exact .inr (.inl (Le.any _))
    | openObject => exact .inr (.inl (Le.openObject _))
    | object hlength' hnames' h' =>
      obtain ⟨_, ⟨⟩, hxs⟩ := object_le_iff.1 (Le.object hlength hnames h)
      obtain ⟨_, ⟨⟩, hys⟩ := object_le_iff.1 (Le.object hlength' hnames' h')
      exact .inr (.inr (.inl
        (.object ((names_of_fieldLe hxs).trans (names_of_fieldLe hys).symm))))

lemma Aligned.trans {a b c : Ty} (h : Aligned a b) (h' : Aligned b c) : Aligned a c := by
  cases h with
  | array x y =>
    cases h' with
    | array _ z => exact .array x z
  | map k v l w =>
    cases h' with
    | map _ _ l' w' => exact .map k v l' w'
  | tuple hlength =>
    cases h' with
    | tuple hlength' => exact .tuple (hlength.trans hlength')
  | object hnames =>
    cases h' with
    | object hnames' => exact .object (hnames.trans hnames')

lemma aligned_of_le {a b c : Ty} (h : Aligned a b) (hle : a ≤ c) : Aligned a c := by
  obtain ⟨items, rfl, hitems⟩ := h.left.le_iff.1 hle
  exact h.withComponents hitems.length_eq.symm

lemma unifyEnums_eq_none_iff {xs ys : List String} :
    unifyEnums xs ys = none ↔ ¬ xs ⊆ ys ∧ ¬ ys ⊆ xs := by
  simp only [unifyEnums, Bool.and_eq_true, all_contains_iff]
  by_cases hbelow : xs ⊆ ys
  · by_cases habove : ys ⊆ xs <;> simp only [hbelow, habove] <;> simp
  · by_cases habove : ys ⊆ xs <;> simp only [hbelow, habove] <;> simp

/-- Enumerations in the way of bringing two types together: neither has all entries of the other,
but both are below an enumeration that occurs in a third type. -/
def Clash (e : TypeError) (c : Ty) : Prop :=
  ∃ xs ys zs, e = .cannotUnify (enum xs) (enum ys) ∧ ¬ xs ⊆ ys ∧ ¬ ys ⊆ xs ∧ xs ⊆ zs ∧ ys ⊆ zs ∧
    OccursIn (enum zs) c

lemma clash_part {e : TypeError} {c part : Ty} (hpart : part ∈ c.components) (h : Clash e part) :
    Clash e c := by
  obtain ⟨xs, ys, zs, he, hxy, hyx, hxz, hyz, hoccurs⟩ := h
  exact ⟨xs, ys, zs, he, hxy, hyx, hxz, hyz, .inside hpart hoccurs⟩

section Error

variable {step : Ty → Ty → Unify Ty} {s s' : Bindings} {e : TypeError}

/-- Bringing lists together fails where some item fails. -/
lemma unifyLists_eq_error {xs ys cs : List Ty} (h : unifyLists step xs ys s = .error e s')
    (hxs : List.Forall₂ (· ≤ ·) xs cs) (hys : List.Forall₂ (· ≤ ·) ys cs) :
    ∃ x ∈ xs, ∃ y ∈ ys, ∃ c ∈ cs, x ≤ c ∧ y ≤ c ∧ ∃ t t', step x y t = .error e t' := by
  induction hxs generalizing ys s with
  | nil =>
    cases hys
    cases h
  | @cons x c xs cs hx _ ih =>
    cases hys with
    | @cons y _ ys _ hy hys =>
      rw [unifyLists, state_bind_eq_error] at h
      rcases h with hfirst | ⟨z, t, -, h⟩
      · exact ⟨x, List.mem_cons_self, y, List.mem_cons_self, c, List.mem_cons_self, hx, hy, s, s',
          hfirst⟩
      rw [state_bind_eq_error] at h
      rcases h with hrest | ⟨zs, t', -, h⟩
      · obtain ⟨x', hx', y', hy', c', hc', hbelow⟩ := ih hrest hys
        exact ⟨x', List.mem_cons_of_mem _ hx', y', List.mem_cons_of_mem _ hy', c',
          List.mem_cons_of_mem _ hc', hbelow⟩
      · cases h

/-- Two types below one type fail to be brought together only because of enumerations. -/
theorem unifyWith_clash {fuel : Nat} {a b c : Ty} (hfuel : a.size + b.size < fuel)
    (ha : a.hasVars = false) (hb : b.hasVars = false) (hac : a ≤ c) (hbc : b ≤ c)
    (h : unifyWith fuel a b s = .error e s') : Clash e c := by
  induction fuel generalizing a b c s s' with
  | zero => omega
  | succ fuel ih =>
    have hfails : ¬ Compatible a b := by
      intro hcompatible
      obtain ⟨d, t, hd⟩ := hcompatible _ hfuel s
      rw [hd] at h
      cases h
    have hne : a ≠ b := fun heq => hfails (compatible_of_le ha hb (le_of_eq heq))
    rw [unifyWith_shapes fuel (ne_var_of_hasVars ha) (ne_var_of_hasVars hb), if_neg hne] at h
    rcases below_cases hac hbc with hab | hba | haligned | ⟨xs, ys, zs, rfl, rfl, rfl, hxs, hys⟩
    · exact absurd (compatible_of_le ha hb hab) hfails
    · exact absurd (compatible_of_ge ha hb hba) hfails
    · have halignedC := aligned_of_le haligned hac
      rw [unifyShapes_aligned _ haligned, state_bind_eq_error] at h
      rcases h with hlists | ⟨zs, t, -, h⟩
      case inr => cases h
      have hcomponents : List.Forall₂ (· ≤ ·) b.components c.components :=
        (aligned_of_le haligned.symm hbc).components_le hbc
      obtain ⟨x, hx, y, hy, z, hz, hxz, hyz, t, t', hstep⟩ :=
        unifyLists_eq_error hlists (halignedC.components_le hac) hcomponents
      have hxsize := size_lt_of_mem_components hx
      have hysize := size_lt_of_mem_components hy
      exact clash_part hz (ih (by omega) (hasVars_of_mem_components ha hx)
        (hasVars_of_mem_components hb hy) hxz hyz hstep)
    · simp only [unifyShapes] at h
      cases hentries : unifyEnums xs ys with
      | some entries => exact absurd (compatible_enum hentries) hfails
      | none =>
        rw [hentries] at h
        cases h
        obtain ⟨hbelow, habove⟩ := unifyEnums_eq_none_iff.1 hentries
        exact ⟨xs, ys, zs, rfl, hbelow, habove, hxs, hys, .here⟩

end Error

end Ty

end ChannelRules
