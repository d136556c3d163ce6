import ChannelRules.Named
import Mathlib.Data.List.Induction
import Mathlib.Data.List.Sort
import Mathlib.Data.String.Basic
import Mathlib.Tactic.Common

/-!
# Entries of maps keyed by name

Which entries a map has after an insertion, and what looking up a name finds. Maps and sets of names
that are built from any list are in order.
-/

namespace ChannelRules

namespace NameSet

lemma pairwise_insert {set : NameSet} (h : set.Pairwise (· < ·)) (name : String) :
    (insert set name).Pairwise (· < ·) := by
  induction set with
  | nil => exact List.pairwise_singleton _ _
  | cons key rest ih =>
    obtain ⟨hkey, hrest⟩ := List.pairwise_cons.1 h
    unfold insert
    by_cases hlt : name < key
    · rw [if_pos hlt]
      refine List.pairwise_cons.2 ⟨fun other hother => ?_, h⟩
      rcases List.mem_cons.1 hother with rfl | hother
      · exact hlt
      · exact lt_trans hlt (hkey other hother)
    rw [if_neg hlt]
    by_cases heq : name = key
    · rw [if_pos heq]
      exact h
    · rw [if_neg heq]
      refine List.pairwise_cons.2 ⟨fun other hother => ?_, ih hrest⟩
      rcases mem_insert.1 hother with rfl | hother
      · exact lt_of_le_of_ne (not_lt.1 hlt) (Ne.symm heq)
      · exact hkey other hother

lemma pairwise_ofNames (names : List String) : (ofNames names).Pairwise (· < ·) := by
  have hfold : ∀ set : NameSet, set.Pairwise (· < ·) →
      (names.foldl insert set).Pairwise (· < ·) := by
    induction names with
    | nil => exact fun set h => h
    | cons name rest ih => exact fun set h => ih _ (pairwise_insert h name)
  exact hfold [] List.Pairwise.nil

lemma mem_ofNames {names : List String} {x : String} : x ∈ ofNames names ↔ x ∈ names := by
  have hfold : ∀ set : NameSet, x ∈ names.foldl insert set ↔ x ∈ set ∨ x ∈ names := by
    induction names with
    | nil => simp
    | cons name rest ih =>
      intro set
      rw [List.foldl_cons, ih, mem_insert, List.mem_cons]
      tauto
  rw [ofNames, hfold]
  simp

/-- A set is determined by its members. -/
lemma ofNames_congr {xs ys : List String} (h : ∀ x, x ∈ xs ↔ x ∈ ys) : ofNames xs = ofNames ys := by
  refine (pairwise_ofNames xs).eq_of_mem_iff (pairwise_ofNames ys) fun x => ?_
  rw [mem_ofNames, mem_ofNames]
  exact h x

end NameSet

namespace Named

variable {α : Type}

lemma mem_of_get? {map : Named α} {name : String} {a : α} (h : get? map name = some a) :
    (name, a) ∈ map := by
  induction map with
  | nil => cases h
  | cons entry rest ih =>
    obtain ⟨key, value⟩ := entry
    by_cases hkey : key = name
    · simp only [get?, hkey, if_true, Option.some.injEq] at h
      rw [hkey, h]
      exact List.mem_cons_self
    · simp only [get?, hkey, if_false] at h
      exact List.mem_cons_of_mem _ (ih h)

lemma get?_map {β : Type} (map : Named α) (f : α → β) (name : String) :
    get? (map.map fun entry => (entry.1, f entry.2)) name = (get? map name).map f := by
  induction map with
  | nil => rfl
  | cons entry rest ih =>
    obtain ⟨key, value⟩ := entry
    by_cases hkey : key = name
    · simp [get?, hkey]
    · simp [get?, hkey, ih]

lemma mem_insert {map : Named α} {name : String} {a : α} {entry : String × α}
    (h : entry ∈ insert map name a) : entry = (name, a) ∨ entry ∈ map := by
  induction map with
  | nil => simpa [insert] using h
  | cons first rest ih =>
    obtain ⟨key, old⟩ := first
    unfold insert at h
    split at h
    · simpa using h
    · split at h
      · rcases List.mem_cons.1 h with h | h
        · exact .inl h
        · exact .inr (List.mem_cons_of_mem _ h)
      · rcases List.mem_cons.1 h with h | h
        · exact .inr (h ▸ List.mem_cons_self)
        · exact (ih h).imp_right (List.mem_cons_of_mem _)

lemma has_eq_true_iff {map : Named α} {name : String} :
    has map name = true ↔ ∃ a, get? map name = some a := by
  unfold has
  exact Option.isSome_iff_exists

lemma has_iff_mem_names (map : Named α) (name : String) :
    has map name = true ↔ name ∈ names map := by
  induction map with
  | nil => simp [has, names]
  | cons entry rest ih =>
    obtain ⟨key, value⟩ := entry
    rw [names, List.map_cons, List.mem_cons, ← names, ← ih, has, get?]
    by_cases hkey : key = name
    · simp [hkey]
    · simp [hkey, Ne.symm hkey, has]

lemma has_insert {map : Named α} {name other : String} {a : α} :
    has (insert map name a) other = true ↔ other = name ∨ has map other = true := by
  unfold has
  by_cases h : other = name
  · rw [h, get?_insert_self]
    simp
  · rw [get?_insert_of_ne map a h]
    simp [h]

lemma get?_eq_none_iff {map : Named α} {name : String} :
    get? map name = none ↔ name ∉ names map := by
  rw [← has_iff_mem_names, has, Option.not_isSome_iff_eq_none]

lemma get?_remove (map : Named α) (name other : String) :
    get? (remove map name) other = if other = name then none else get? map other := by
  induction map with
  | nil => simp [remove]
  | cons entry rest ih =>
    obtain ⟨key, value⟩ := entry
    unfold remove at ih ⊢
    by_cases hkey : key = name
    · rw [List.filter_cons_of_neg (by simp [hkey]), ih, get?]
      by_cases hother : other = name
      · rw [if_pos hother, if_pos hother]
      · have hne : key ≠ other := fun h => hother (h ▸ hkey)
        rw [if_neg hother, if_neg hother, if_neg hne]
    · rw [List.filter_cons_of_pos (by simp [hkey]), get?, get?, ih]
      by_cases hother : key = other
      · have hne : other ≠ name := fun h => hkey (hother.trans h)
        rw [if_pos hother, if_pos hother, if_neg hne]
      · rw [if_neg hother, if_neg hother]

lemma names_insert (map : Named α) (name : String) (a : α) :
    names (insert map name a) = NameSet.insert (names map) name := by
  induction map with
  | nil => rfl
  | cons first rest ih =>
    obtain ⟨key, old⟩ := first
    have hnames : names ((key, old) :: rest) = key :: names rest := rfl
    rw [hnames, NameSet.insert, ← ih, insert]
    split
    · rfl
    · split
      · rename_i heq
        rw [heq]
        rfl
      · rfl

lemma ordered_iff {map : Named α} : Ordered map ↔ (names map).Pairwise (· < ·) :=
  List.pairwise_map.symm

lemma Ordered.insert {map : Named α} (h : Ordered map) (name : String) (a : α) :
    Ordered (insert map name a) := by
  rw [ordered_iff, names_insert]
  exact NameSet.pairwise_insert (ordered_iff.1 h) name

lemma ordered_ofEntries (entries : List (String × α)) : Ordered (ofEntries entries) := by
  have hfold : ∀ map : Named α, Ordered map →
      Ordered (entries.foldl (fun map entry => insert map entry.1 entry.2) map) := by
    induction entries with
    | nil => exact fun map h => h
    | cons entry rest ih => exact fun map h => ih _ (h.insert entry.1 entry.2)
  exact hfold [] List.Pairwise.nil

lemma mem_ofEntries {entries : List (String × α)} {entry : String × α}
    (h : entry ∈ ofEntries entries) : entry ∈ entries := by
  have hfold : ∀ map : Named α,
      entry ∈ entries.foldl (fun map entry => insert map entry.1 entry.2) map →
        entry ∈ map ∨ entry ∈ entries := by
    clear h
    induction entries with
    | nil => exact fun map h => .inl h
    | cons first rest ih =>
      intro map h
      rcases ih _ h with h | h
      · rcases mem_insert h with rfl | h
        · exact .inr List.mem_cons_self
        · exact .inl h
      · exact .inr (List.mem_cons_of_mem _ h)
  exact (hfold [] h).resolve_left List.not_mem_nil

lemma insert_of_forall_lt {map : Named α} {name : String} {a : α}
    (h : ∀ entry ∈ map, entry.1 < name) : insert map name a = map ++ [(name, a)] := by
  induction map with
  | nil => rfl
  | cons first rest ih =>
    obtain ⟨key, old⟩ := first
    have hkey : key < name := h _ List.mem_cons_self
    rw [insert, if_neg (lt_asymm hkey), if_neg (ne_of_gt hkey),
      ih fun entry hentry => h entry (List.mem_cons_of_mem _ hentry)]
    rfl

/-- Entries that are in order make up the map themselves. -/
lemma ofEntries_of_ordered {entries : List (String × α)} (h : Ordered entries) :
    ofEntries entries = entries := by
  have hfold : ∀ map : Named α, Ordered (map ++ entries) →
      entries.foldl (fun map entry => insert map entry.1 entry.2) map = map ++ entries := by
    clear h
    induction entries with
    | nil => exact fun map _ => (List.append_nil map).symm
    | cons first rest ih =>
      intro map h
      have hbefore : ∀ entry ∈ map, entry.1 < first.1 := fun entry hentry =>
        (List.pairwise_append.1 h).2.2 entry hentry first List.mem_cons_self
      have hrest : Ordered ((map ++ [first]) ++ rest) := by
        rw [List.append_assoc]
        exact h
      rw [List.foldl_cons, insert_of_forall_lt hbefore, ih _ hrest, List.append_assoc]
      rfl
  exact hfold [] h

lemma perm_insert {map : Named α} {name : String} (h : name ∉ names map) (a : α) :
    (insert map name a).Perm ((name, a) :: map) := by
  induction map with
  | nil => exact .refl _
  | cons first rest ih =>
    obtain ⟨key, old⟩ := first
    obtain ⟨hkey, hrest⟩ := not_or.1 (List.mem_cons.not.1 h)
    unfold insert
    split
    · exact .refl _
    · exact ((ih hrest).cons (key, old)).trans (.swap _ _ rest)

/-- Entries with distinct names are all kept. -/
lemma perm_ofEntries {entries : List (String × α)} (h : (entries.map Prod.fst).Nodup) :
    (ofEntries entries).Perm entries := by
  have hfold : ∀ map : Named α, ((map ++ entries).map Prod.fst).Nodup →
      (entries.foldl (fun map entry => insert map entry.1 entry.2) map).Perm (map ++ entries) := by
    clear h
    induction entries with
    | nil => exact fun map _ => .of_eq (List.append_nil map).symm
    | cons first rest ih =>
      intro map h
      have hnodup := (List.perm_middle.map Prod.fst).nodup_iff.1 h
      have hfresh : first.1 ∉ names map := fun hmem =>
        (List.nodup_cons.1 hnodup).1 (by
          rw [List.map_append]
          exact List.mem_append_left _ hmem)
      have hinsert : (insert map first.1 first.2 ++ rest).Perm (map ++ first :: rest) :=
        ((perm_insert hfresh first.2).append_right rest).trans List.perm_middle.symm
      exact (ih _ ((hinsert.map Prod.fst).nodup_iff.2 h)).trans hinsert
  exact hfold [] h

lemma get?_eq_some_iff {map : Named α} (h : (names map).Nodup) {name : String} {a : α} :
    get? map name = some a ↔ (name, a) ∈ map := by
  refine ⟨mem_of_get?, fun hmem => ?_⟩
  induction map with
  | nil => cases hmem
  | cons first rest ih =>
    obtain ⟨key, value⟩ := first
    obtain ⟨hkey, hrest⟩ := List.nodup_cons.1 h
    rcases List.mem_cons.1 hmem with heq | hmem
    · cases heq
      exact if_pos rfl
    · have hne : key ≠ name := by
        rintro rfl
        exact hkey (List.mem_map.2 ⟨_, hmem, rfl⟩)
      rw [get?, if_neg hne, ih hrest hmem]

lemma get?_ofEntries_iff {entries : List (String × α)} (h : (entries.map Prod.fst).Nodup)
    {name : String} {a : α} : get? (ofEntries entries) name = some a ↔ (name, a) ∈ entries := by
  have hperm := perm_ofEntries h
  rw [get?_eq_some_iff ((hperm.map Prod.fst).nodup_iff.2 h), hperm.mem_iff]

section SameNames

variable {r : α → α → Prop} {xs ys : Named α}

lemma lookups_of_forall₂ (h : List.Forall₂ (fun x y => x.1 = y.1 ∧ r x.2 y.2) xs ys) (name : String) :
    Option.Rel r (get? xs name) (get? ys name) := by
  induction h with
  | nil => exact .none
  | @cons x y xs ys hxy _ ih =>
    obtain ⟨hkey, hvalue⟩ := hxy
    by_cases hx : x.1 = name
    · rw [get?, get?, if_pos hx, if_pos (hkey.symm.trans hx)]
      exact .some hvalue
    · rw [get?, get?, if_neg hx, if_neg fun hy => hx (hkey.trans hy)]
      exact ih

lemma isSome_eq_of_rel {a b : Option α} (h : Option.Rel r a b) : a.isSome = b.isSome := by
  cases h <;> rfl

lemma names_eq_of_lookups (hxs : Ordered xs) (hys : Ordered ys)
    (h : ∀ name, Option.Rel r (get? xs name) (get? ys name)) : names xs = names ys := by
  refine (ordered_iff.1 hxs).eq_of_mem_iff (ordered_iff.1 hys) fun name => ?_
  rw [← has_iff_mem_names, ← has_iff_mem_names, has, has, isSome_eq_of_rel (h name)]

/-- Two maps have the same names and related values under each of them exactly if their entries are
related one by one. -/
lemma forall₂_iff_lookups (hxs : Ordered xs) (hys : Ordered ys) :
    List.Forall₂ (fun x y => x.1 = y.1 ∧ r x.2 y.2) xs ys ↔
      ∀ name, Option.Rel r (get? xs name) (get? ys name) := by
  refine ⟨lookups_of_forall₂, fun h => ?_⟩
  have hnames := names_eq_of_lookups hxs hys h
  have hlength : xs.length = ys.length := by
    simpa [names] using congrArg List.length hnames
  refine List.forall₂_iff_get.2 ⟨hlength, fun i hx hy => ?_⟩
  have hkey : (xs.get ⟨i, hx⟩).1 = (ys.get ⟨i, hy⟩).1 := by
    simpa [names] using List.getElem_of_eq hnames (by simpa [names] using hx)
  refine ⟨hkey, ?_⟩
  have hfirst : get? xs (xs.get ⟨i, hx⟩).1 = some (xs.get ⟨i, hx⟩).2 :=
    (get?_eq_some_iff (ordered_iff.1 hxs).nodup).2 (List.get_mem _ _)
  have hsecond : get? ys (xs.get ⟨i, hx⟩).1 = some (ys.get ⟨i, hy⟩).2 := by
    rw [hkey]
    exact (get?_eq_some_iff (ordered_iff.1 hys).nodup).2 (List.get_mem _ _)
  have hvalues := h (xs.get ⟨i, hx⟩).1
  rw [hfirst, hsecond] at hvalues
  cases hvalues with
  | some hvalue => exact hvalue

end SameNames

lemma get?_ofEntries (entries : List (String × α)) (name : String) :
    get? (ofEntries entries) name = entries.reverse.lookup name := by
  induction entries using List.reverseRecOn with
  | nil => rfl
  | append_singleton entries entry ih =>
    have hinsert : ofEntries (entries ++ [entry]) = insert (ofEntries entries) entry.1 entry.2 :=
      List.foldl_append
    rw [hinsert, List.reverse_append, List.reverse_singleton, List.singleton_append, List.lookup_cons]
    by_cases h : name = entry.1
    · rw [h, get?_insert_self, beq_self_eq_true]
    · rw [get?_insert_of_ne _ _ h, beq_eq_false_iff_ne.2 h, ih]

/-- A map in order is determined by what it holds under each name. -/
lemma eq_ofEntries_iff {map : Named α} {entries : List (String × α)} :
    map = ofEntries entries ↔
      Ordered map ∧ ∀ name, get? map name = entries.reverse.lookup name := by
  constructor
  · rintro rfl
    exact ⟨ordered_ofEntries entries, get?_ofEntries entries⟩
  · rintro ⟨hordered, hlookups⟩
    have hsame : ∀ name, Option.Rel Eq (get? map name) (get? (ofEntries entries) name) := by
      intro name
      rw [hlookups, get?_ofEntries]
      cases entries.reverse.lookup name with
      | none => exact .none
      | some value => exact .some rfl
    have hentries := (forall₂_iff_lookups hordered (ordered_ofEntries entries)).2 hsame
    exact List.forall₂_eq_eq_eq ▸ hentries.imp fun _ _ h => Prod.ext h.1 h.2

end Named

end ChannelRules
