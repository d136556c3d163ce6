import ChannelRules.Proofs.Sequence
import ChannelRules.Ty.Reader
import Mathlib.Data.List.TakeWhile

/-!
# The tokens of a written type

Marks, names and raw arguments: what reading one of them gives, and that one that is written down is
read back. A text without white space at its ends is left alone by trimming, and trimming gives such
a text.
-/

namespace ChannelRules

namespace Text

/-- A text that neither starts nor ends with white space. -/
def Bare (cs : List Char) : Prop :=
  (∀ c ∈ cs.head?, isBlank c = false) ∧ ∀ c ∈ cs.getLast?, isBlank c = false

instance (cs : List Char) : Decidable (Bare cs) :=
  decidable_of_iff ((cs.head?.all fun c => !isBlank c) = true ∧
    (cs.getLast?.all fun c => !isBlank c) = true) (by simp [Bare, Option.all_eq_true])

lemma trimStart_of_head {cs : List Char} (h : ∀ c ∈ cs.head?, isBlank c = false) :
    trimStart cs = cs := by
  cases cs with
  | nil => rfl
  | cons c rest =>
    have hc : isBlank c = false := h c rfl
    rw [trimStart, List.dropWhile_cons, hc]
    rfl

lemma head?_trimStart (cs : List Char) : ∀ c ∈ (trimStart cs).head?, isBlank c = false := by
  intro c hc
  have h := List.head?_dropWhile_not isBlank cs
  rw [trimStart, Option.mem_def] at hc
  rw [hc] at h
  simpa using h

lemma mem_of_mem_trimStart {cs : List Char} {c : Char} (h : c ∈ trimStart cs) : c ∈ cs :=
  (List.dropWhile_suffix isBlank).subset h

lemma trim_of_bare {cs : List Char} (h : Bare cs) : trim cs = cs := by
  have hreverse : ∀ c ∈ cs.reverse.head?, isBlank c = false := by
    rw [← List.getLast?_eq_head?_reverse]
    exact h.2
  rw [trim, trimStart_of_head h.1, trimStart_of_head hreverse, List.reverse_reverse]

lemma bare_trim (cs : List Char) : Bare (trim cs) := by
  constructor
  · intro c hc
    -- What trimming at the end leaves over starts as the text does.
    have hprefix : trim cs <+: trimStart cs := by
      have hsuffix := List.dropWhile_suffix isBlank (l := (trimStart cs).reverse)
      rw [trim, trimStart]
      simpa using List.reverse_prefix.2 hsuffix
    obtain ⟨rest, hrest⟩ := hprefix
    apply head?_trimStart cs c
    rw [← hrest, List.head?_append, hc]
    rfl
  · intro c hc
    apply head?_trimStart (trimStart cs).reverse c
    rwa [trim, List.getLast?_reverse] at hc

lemma mem_of_mem_trim {cs : List Char} {c : Char} (h : c ∈ trim cs) : c ∈ cs := by
  rw [trim, List.mem_reverse] at h
  exact mem_of_mem_trimStart (List.mem_reverse.1 (mem_of_mem_trimStart h))

end Text

namespace Ty

open Text

lemma readMark_cons {mark : Char} (h : isBlank mark = false) (rest : List Char) :
    readMark mark (mark :: rest) = .ok rest := by
  have htrim : trimStart (mark :: rest) = mark :: rest := by
    apply trimStart_of_head
    rintro c ⟨⟩
    exact h
  rw [readMark, htrim]
  exact if_pos rfl

lemma isNameChar_blanks : ∀ range ∈ blanks, ∀ n ∈ List.range' range.1 (range.2 + 1 - range.1),
    isNameChar (Char.ofNat n) = false := by
  decide +kernel

/-- White space is no part of a name. -/
lemma isBlank_of_isNameChar {c : Char} (h : isNameChar c = true) : isBlank c = false := by
  rw [Bool.eq_false_iff]
  intro hblank
  obtain ⟨range, hrange, hfirst, hlast⟩ := CodePoints.contains_iff.1 hblank
  have hmem : c.toNat ∈ List.range' range.1 (range.2 + 1 - range.1) := by
    rw [List.mem_range'_1]
    omega
  have hnot := isNameChar_blanks range hrange c.toNat hmem
  rw [Char.ofNat_toNat, h] at hnot
  cases hnot

/-- A text that does not go on with a character of a name. -/
def EndsName (rest : List Char) : Prop := ∀ c ∈ rest.head?, isNameChar c = false

lemma readName_append {name rest : List Char} (hne : name ≠ [])
    (hname : ∀ c ∈ name, isNameChar c = true) (hrest : EndsName rest) :
    readName (name ++ rest) = .ok (String.ofList name, rest) := by
  have htrim : trimStart (name ++ rest) = name ++ rest := by
    apply trimStart_of_head
    obtain ⟨first, others, rfl⟩ := List.exists_cons_of_ne_nil hne
    rintro c ⟨⟩
    exact isBlank_of_isNameChar (hname first List.mem_cons_self)
  have hnone : rest.takeWhile isNameChar = [] ∧ rest.dropWhile isNameChar = rest := by
    cases rest with
    | nil => exact ⟨rfl, rfl⟩
    | cons c rest =>
      have hc : isNameChar c = false := hrest c rfl
      simp [hc]
  have htake : (name ++ rest).takeWhile isNameChar = name := by
    rw [List.takeWhile_append_of_pos hname, hnone.1, List.append_nil]
  have hdrop : (name ++ rest).dropWhile isNameChar = rest := by
    rw [List.dropWhile_append_of_pos hname, hnone.2]
  simp only [readName, htrim, htake, hdrop]

lemma readName_eq_ok {cs rest : List Char} {name : String} (h : readName cs = .ok (name, rest)) :
    name ≠ "" ∧ ∀ c ∈ name.toList, isNameChar c = true := by
  simp only [readName] at h
  have hall : ∀ c ∈ (trimStart cs).takeWhile isNameChar, isNameChar c = true := fun c hc =>
    List.mem_takeWhile_imp hc
  split at h
  · cases h
  · rename_i hne
    cases h
    rw [String.toList_ofList]
    refine ⟨fun hempty => hne ?_, hall⟩
    rw [← String.toList_eq_nil_iff, String.toList_ofList] at hempty
    exact hempty

lemma readRaw_append {raw rest : List Char} (hclose : ')' ∉ raw) (hbare : Bare raw) :
    readRaw ('(' :: (raw ++ ')' :: rest)) = .ok (raw, rest) := by
  have hraw : ∀ c ∈ raw, (c != ')') = true := by
    intro c hc
    rw [bne_iff_ne]
    rintro rfl
    exact hclose hc
  have htake : (raw ++ ')' :: rest).takeWhile (· != ')') = raw := by
    rw [List.takeWhile_append_of_pos hraw]
    simp
  have hdrop : (raw ++ ')' :: rest).dropWhile (· != ')') = ')' :: rest := by
    rw [List.dropWhile_append_of_pos hraw]
    simp
  have hopen : readMark '(' ('(' :: (raw ++ ')' :: rest)) = .ok (raw ++ ')' :: rest) :=
    readMark_cons (by decide) _
  rw [readRaw, hopen, ok_bind, hdrop, htake, trim_of_bare hbare]

lemma readRaw_eq_ok {cs raw rest : List Char} (h : readRaw cs = .ok (raw, rest)) :
    ')' ∉ raw ∧ Bare raw := by
  rw [readRaw, bind_eq_ok] at h
  obtain ⟨after, -, h⟩ := h
  split at h
  · cases h
  · cases h
    refine ⟨fun hmem => ?_, bare_trim _⟩
    have hc := List.mem_takeWhile_imp (mem_of_mem_trim hmem)
    simp at hc

lemma splitCommas_ne_nil (cs : List Char) : splitCommas cs ≠ [] := by
  cases cs with
  | nil => exact List.cons_ne_nil _ _
  | cons c cs =>
    unfold splitCommas
    split
    · exact List.cons_ne_nil _ _
    · split
      · exact List.cons_ne_nil _ _
      · exact List.cons_ne_nil _ _

lemma splitCommas_comma (cs : List Char) : splitCommas (',' :: cs) = [] :: splitCommas cs := by
  rw [splitCommas]
  split
  · rename_i h
    exact absurd h (splitCommas_ne_nil cs)
  · rename_i part parts h
    rw [if_pos rfl, h]

lemma splitCommas_append {part : List Char} (h : ',' ∉ part) {cs first : List Char}
    {rest : List (List Char)} (hcs : splitCommas cs = first :: rest) :
    splitCommas (part ++ cs) = (part ++ first) :: rest := by
  induction part with
  | nil => exact hcs
  | cons c part ih =>
    rw [List.mem_cons, not_or] at h
    rw [List.cons_append, splitCommas, ih h.2]
    exact if_neg (Ne.symm h.1)

/-- Parts without commas are found again between commas. -/
lemma splitCommas_intercalate {parts : List (List Char)} (hne : parts ≠ [])
    (h : ∀ part ∈ parts, ',' ∉ part) : splitCommas ([','].intercalate parts) = parts := by
  induction parts with
  | nil => exact absurd rfl hne
  | cons part rest ih =>
    have hpart := h part List.mem_cons_self
    cases rest with
    | nil =>
      have hend : splitCommas (part ++ []) = [part ++ []] := splitCommas_append hpart rfl
      rw [List.append_nil] at hend
      rw [List.intercalate_singleton, hend]
    | cons other rest =>
      have hrest := ih (List.cons_ne_nil _ _) fun p hp => h p (List.mem_cons_of_mem _ hp)
      have hcomma := splitCommas_comma ([','].intercalate (other :: rest))
      rw [List.intercalate_cons_cons, List.append_assoc, List.singleton_append,
        splitCommas_append hpart hcomma, List.append_nil, hrest]

lemma mem_intercalate {parts : List (List Char)} {c : Char} (h : c ∈ [','].intercalate parts) :
    c = ',' ∨ ∃ part ∈ parts, c ∈ part := by
  induction parts with
  | nil => cases h
  | cons part rest ih =>
    cases rest with
    | nil =>
      rw [List.intercalate_singleton] at h
      exact .inr ⟨part, List.mem_cons_self, h⟩
    | cons other rest =>
      rw [List.intercalate_cons_cons, List.append_assoc, List.mem_append, List.singleton_append,
        List.mem_cons] at h
      rcases h with h | h | h
      · exact .inr ⟨part, List.mem_cons_self, h⟩
      · exact .inl h
      · obtain hc | ⟨p, hp, hc⟩ := ih h
        · exact .inl hc
        · exact .inr ⟨p, List.mem_cons_of_mem _ hp, hc⟩

lemma bare_intercalate {parts : List (List Char)} (h : ∀ part ∈ parts, Bare part) :
    Bare ([','].intercalate parts) := by
  induction parts with
  | nil => decide
  | cons part rest ih =>
    have hpart := h part List.mem_cons_self
    cases rest with
    | nil =>
      rw [List.intercalate_singleton]
      exact hpart
    | cons other rest =>
      have hrest := ih fun p hp => h p (List.mem_cons_of_mem _ hp)
      have hcomma : isBlank ',' = false := by decide
      rw [List.intercalate_cons_cons]
      constructor
      · intro c hc
        cases part with
        | nil =>
          cases hc
          exact hcomma
        | cons first part => exact hpart.1 c hc
      · intro c hc
        generalize [','].intercalate (other :: rest) = joined at hc hrest
        cases hjoined : joined.getLast? with
        | none =>
          rw [List.getLast?_eq_none_iff] at hjoined
          subst hjoined
          rw [List.append_nil, List.getLast?_concat] at hc
          cases hc
          exact hcomma
        | some last =>
          rw [List.getLast?_append, hjoined] at hc
          exact hrest.2 c (hjoined.trans hc)

lemma mem_splitCommas {cs part : List Char} (h : part ∈ splitCommas cs) :
    ',' ∉ part ∧ part ⊆ cs := by
  induction cs generalizing part with
  | nil =>
    rw [List.mem_singleton.1 h]
    exact ⟨List.not_mem_nil, List.nil_subset _⟩
  | cons c cs ih =>
    by_cases hc : c = ','
    · rw [hc, splitCommas_comma] at h
      rcases List.mem_cons.1 h with rfl | h
      · exact ⟨List.not_mem_nil, List.nil_subset _⟩
      · exact ⟨(ih h).1, List.subset_cons_of_subset c (ih h).2⟩
    · obtain ⟨first, rest, hcs⟩ := List.exists_cons_of_ne_nil (splitCommas_ne_nil cs)
      have hnext : splitCommas ([c] ++ cs) = ([c] ++ first) :: rest :=
        splitCommas_append (by simpa using Ne.symm hc) hcs
      rw [List.singleton_append] at hnext
      rw [hnext] at h
      rw [hcs] at ih
      rcases List.mem_cons.1 h with rfl | h
      · obtain ⟨hfirst, hsub⟩ := ih List.mem_cons_self
        refine ⟨?_, List.cons_subset_cons c hsub⟩
        rw [List.singleton_append, List.mem_cons, not_or]
        exact ⟨Ne.symm hc, hfirst⟩
      · obtain ⟨hpart, hsub⟩ := ih (List.mem_cons_of_mem _ h)
        exact ⟨hpart, List.subset_cons_of_subset c hsub⟩

end Ty

end ChannelRules
