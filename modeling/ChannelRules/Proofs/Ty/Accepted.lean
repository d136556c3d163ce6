import ChannelRules.Proofs.Ty.Grammar
import ChannelRules.Proofs.Ty.Written

/-!
# The texts that are read as types

Exactly the texts of the grammar are read, each as the type that it denotes. What is read is derived:
this is an induction on the fuel. What is derived is read: here the fuel is enough for the text that
is left, and a type is not followed by a mark that opens arguments.
-/

namespace ChannelRules

namespace Ty

open Text (isBlank trim trimStart)

variable {cs rest after : List Char} {t : Ty}

/-! ## White space before a type makes no difference -/

lemma readType_trimStart (fuel : ℕ) (cs : List Char) :
    readType fuel (trimStart cs) = readType fuel cs := by
  cases fuel with
  | zero => rfl
  | succ fuel => simp only [readType, trimStart_trimStart]

lemma readMoreItems_trimStart (fuel : ℕ) (cs : List Char) :
    readMoreItems fuel (trimStart cs) = readMoreItems fuel cs := by
  cases fuel with
  | zero => rfl
  | succ fuel => simp only [readMoreItems, readType_trimStart]

lemma readItems_of_starts (h : StartsType (trimStart cs)) (fuel : ℕ) :
    readItems (fuel + 1) cs = readMoreItems fuel cs := by
  obtain ⟨c, others, hcs, hc⟩ := h
  rw [← readMoreItems_trimStart, readItems]
  split
  · rename_i hclose
    rw [hcs] at hclose
    cases hclose
    exact absurd hc (by decide)
  · rfl

lemma readMoreFields_trimStart (fuel : ℕ) (cs : List Char) :
    readMoreFields fuel (trimStart cs) = readMoreFields fuel cs := by
  cases fuel with
  | zero => rfl
  | succ fuel => simp only [readMoreFields, readName_trimStart]

lemma readFields_of_starts (h : StartsType (trimStart cs)) (fuel : ℕ) :
    readFields (fuel + 1) cs = readMoreFields fuel cs := by
  obtain ⟨c, others, hcs, hc⟩ := h
  rw [← readMoreFields_trimStart, readFields]
  split
  · rename_i hclose
    rw [hcs] at hclose
    cases hclose
    exact absurd hc (by decide)
  · rfl

/-! ## Raw arguments -/

lemma readMeasure_derived {args : List Char} (hname : Name "Measure" cs args)
    (h : readMeasure args = .ok (t, rest)) : Derives t cs rest := by
  rw [readMeasure, bind_eq_ok] at h
  obtain ⟨⟨trimmed, rest'⟩, hread, h⟩ := h
  obtain ⟨raw, hraw, rfl⟩ := readRaw_eq_ok_iff.1 hread
  dsimp only at h
  split at h
  · rename_i ty hty
    cases h
    rcases ofUnit_eq_ok_iff.1 hty with ⟨hempty, rfl⟩ | ⟨unit, hunit, hsymbol, rfl⟩
    · refine .amount hname hraw ?_
      simpa using congrArg String.toList hempty
    · refine .measure hname hraw hunit ?_
      rw [hsymbol, String.toList_ofList]
  · cases h

lemma readEntity_derived {args : List Char} (hname : Name "Entity" cs args)
    (h : readEntity args = .ok (t, rest)) : Derives t cs rest := by
  rw [readEntity, bind_eq_ok] at h
  obtain ⟨⟨trimmed, rest'⟩, hread, h⟩ := h
  obtain ⟨raw, hraw, rfl⟩ := readRaw_eq_ok_iff.1 hread
  cases h
  exact .entity hname hraw

/-- Trimming the whole argument first makes no difference to the entries. -/
lemma entries_eq (raw : List Char) :
    (splitCommas (trim raw)).map (fun part => String.ofList (trim part)) =
      (splitCommas raw).map fun part => String.ofList (trim part) := by
  have h := congrArg (List.map String.ofList) (map_trim_splitCommas raw)
  rwa [List.map_map, List.map_map] at h

lemma readEnum_derived {args : List Char} (hname : Name "Enum" cs args)
    (h : readEnum args = .ok (t, rest)) : Derives t cs rest := by
  rw [readEnum, bind_eq_ok] at h
  obtain ⟨⟨trimmed, rest'⟩, hread, h⟩ := h
  obtain ⟨raw, hraw, rfl⟩ := readRaw_eq_ok_iff.1 hread
  obtain ⟨hparts, hne, hcommas⟩ := splitCommas_eq_iff.1 (rfl : splitCommas raw = splitCommas raw)
  cases h
  rw [hparts] at hraw
  rw [entries_eq]
  exact .enum hname hraw hne hcommas

/-! ## What is read is derived -/

lemma mark_of_trimStart {mark : Char} (hmark : isBlank mark = false)
    (h : trimStart rest = trimStart after) {after' : List Char}
    (hafter : trimStart after = mark :: after') : Mark mark rest after' :=
  (mark_iff hmark).2 (h.trans hafter)

lemma mark_of_readMark {mark : Char} (hmark : isBlank mark = false)
    (h : trimStart rest = trimStart after) {after' : List Char}
    (hread : readMark mark after = .ok after') : Mark mark rest after' :=
  mark_of_trimStart hmark h ((mark_iff hmark).1 ((readMark_eq_ok_iff hmark).1 hread))

/-- What the readers give with some fuel is derived from what they take. White space before what is
left over can be skipped already. -/
structure ReadsDerived (fuel : ℕ) : Prop where
  type : ∀ {cs t after}, readType fuel cs = .ok (t, after) →
    ∃ rest, Derives t cs rest ∧ trimStart rest = trimStart after
  applied : ∀ {head cs args t after}, Name head cs args → readApplied fuel head args = .ok (t, after) →
    ∃ rest, Derives t cs rest ∧ trimStart rest = trimStart after
  items : ∀ {cs cs' items rest}, Mark '(' cs cs' → readItems fuel cs' = .ok (items, rest) →
    Enclosed Derives '(' ')' items cs rest
  moreItems : ∀ {cs items rest}, readMoreItems fuel cs = .ok (items, rest) →
    Separated Derives ')' items cs rest
  fields : ∀ {cs cs' fields rest}, Mark '{' cs cs' → readFields fuel cs' = .ok (fields, rest) →
    Enclosed (Labelled Derives) '{' '}' fields cs rest
  moreFields : ∀ {cs fields rest}, readMoreFields fuel cs = .ok (fields, rest) →
    Separated (Labelled Derives) '}' fields cs rest

section Derived

variable {fuel : ℕ} (ih : ReadsDerived fuel)
include ih

lemma readType_derived (h : readType (fuel + 1) cs = .ok (t, after)) :
    ∃ rest, Derives t cs rest ∧ trimStart rest = trimStart after := by
  rw [readType] at h
  split at h
  · rename_i hopen
    obtain ⟨⟨items, rest⟩, hitems, h⟩ := bind_eq_ok.1 h
    cases h
    exact ⟨after, .tuple (ih.items ((mark_iff (by decide)).2 hopen) hitems), rfl⟩
  · obtain ⟨⟨head, args⟩, hhead, h⟩ := bind_eq_ok.1 h
    rw [readName_trimStart] at hhead
    have hname := readName_eq_ok_iff.1 hhead
    dsimp only at h
    split at h
    · rename_i ty hplain
      cases h
      obtain ⟨before, others, hsplit, -⟩ := List.lookup_eq_some_iff.1 hplain
      have hmem : (head, t) ∈ plainNames := by
        rw [hsplit]
        exact List.mem_append_right _ List.mem_cons_self
      exact ⟨after, .plain hmem hname, rfl⟩
    · exact ih.applied hname h

lemma readApplied_derived {head : String} {args : List Char} (hname : Name head cs args)
    (h : readApplied (fuel + 1) head args = .ok (t, after)) :
    ∃ rest, Derives t cs rest ∧ trimStart rest = trimStart after := by
  rw [readApplied] at h
  split at h
  · rename_i hhead
    subst hhead
    exact ⟨after, readMeasure_derived hname h, rfl⟩
  split at h
  · rename_i hhead
    subst hhead
    exact ⟨after, readEntity_derived hname h, rfl⟩
  split at h
  · rename_i hhead
    subst hhead
    exact ⟨after, readEnum_derived hname h, rfl⟩
  split at h
  · rename_i hhead
    subst hhead
    simp only [bind_eq_ok] at h
    obtain ⟨inner, hopen, ⟨elem, inner'⟩, helem, rest, hclose, h⟩ := h
    obtain ⟨left, hderives, hleft⟩ := ih.type helem
    cases h
    exact ⟨after, .array hname ((readMark_eq_ok_iff (by decide)).1 hopen) hderives
      (mark_of_readMark (by decide) hleft hclose), rfl⟩
  split at h
  · rename_i hhead
    subst hhead
    simp only [bind_eq_ok] at h
    obtain ⟨first, hopen, ⟨key, first'⟩, hkey, second, hcomma, ⟨value, second'⟩, hvalue, rest, hclose,
      h⟩ := h
    obtain ⟨left, hderives, hleft⟩ := ih.type hkey
    obtain ⟨left', hderives', hleft'⟩ := ih.type hvalue
    cases h
    exact ⟨after, .map hname ((readMark_eq_ok_iff (by decide)).1 hopen) hderives
      (mark_of_readMark (by decide) hleft hcomma) hderives'
      (mark_of_readMark (by decide) hleft' hclose), rfl⟩
  split at h
  · rename_i hhead
    subst hhead
    split at h
    · rename_i hopen
      obtain ⟨⟨items, rest⟩, hitems, h⟩ := bind_eq_ok.1 h
      cases h
      exact ⟨after, .namedTuple hname (ih.items ((mark_iff (by decide)).2 hopen) hitems), rfl⟩
    · cases h
      exact ⟨args, .openTuple hname, (trimStart_trimStart args).symm⟩
  split at h
  · rename_i hhead
    subst hhead
    split at h
    · rename_i hopen
      obtain ⟨⟨fields, rest⟩, hfields, h⟩ := bind_eq_ok.1 h
      cases h
      obtain ⟨hordered, hlookups⟩ := Named.eq_ofEntries_iff.1 (rfl : Named.ofEntries fields = _)
      exact ⟨after, .object hname (ih.fields ((mark_iff (by decide)).2 hopen) hfields) hordered hlookups,
        rfl⟩
    · cases h
      exact ⟨args, .openObject hname, (trimStart_trimStart args).symm⟩
  · cases h

lemma readItems_derived {cs' : List Char} {items : List Ty} (hopen : Mark '(' cs cs')
    (h : readItems (fuel + 1) cs' = .ok (items, rest)) : Enclosed Derives '(' ')' items cs rest := by
  rw [readItems] at h
  split at h
  · rename_i hclose
    cases h
    exact .none hopen ((mark_iff (by decide)).2 hclose)
  · rw [readMoreItems_trimStart] at h
    exact .some hopen (ih.moreItems h)

lemma readMoreItems_derived {items : List Ty} (h : readMoreItems (fuel + 1) cs = .ok (items, rest)) :
    Separated Derives ')' items cs rest := by
  rw [readMoreItems] at h
  obtain ⟨⟨item, after⟩, hitem, h⟩ := bind_eq_ok.1 h
  obtain ⟨left, hderives, hleft⟩ := ih.type hitem
  dsimp only at h
  split at h
  · rename_i hcomma
    obtain ⟨⟨items, rest⟩, hmore, h⟩ := bind_eq_ok.1 h
    cases h
    exact .more hderives (mark_of_trimStart (by decide) hleft hcomma) (ih.moreItems hmore)
  · rename_i hclose
    cases h
    exact .last hderives (mark_of_trimStart (by decide) hleft hclose)
  · cases h

lemma readFields_derived {cs' : List Char} {fields : List (String × Ty)} (hopen : Mark '{' cs cs')
    (h : readFields (fuel + 1) cs' = .ok (fields, rest)) :
    Enclosed (Labelled Derives) '{' '}' fields cs rest := by
  rw [readFields] at h
  split at h
  · rename_i hclose
    cases h
    exact .none hopen ((mark_iff (by decide)).2 hclose)
  · rw [readMoreFields_trimStart] at h
    exact .some hopen (ih.moreFields h)

lemma readMoreFields_derived {fields : List (String × Ty)}
    (h : readMoreFields (fuel + 1) cs = .ok (fields, rest)) :
    Separated (Labelled Derives) '}' fields cs rest := by
  rw [readMoreFields] at h
  simp only [bind_eq_ok] at h
  obtain ⟨⟨name, cs'⟩, hname, cs'', hcolon, ⟨field, after⟩, hfield, h⟩ := h
  obtain ⟨left, hderives, hleft⟩ := ih.type hfield
  have hfirst : Labelled Derives (name, field) cs left :=
    .mk (readName_eq_ok_iff.1 hname) ((readMark_eq_ok_iff (by decide)).1 hcolon) hderives
  dsimp only at h
  split at h
  · rename_i hcomma
    obtain ⟨⟨fields, rest⟩, hmore, h⟩ := bind_eq_ok.1 h
    cases h
    exact .more hfirst (mark_of_trimStart (by decide) hleft hcomma) (ih.moreFields hmore)
  · rename_i hclose
    cases h
    exact .last hfirst (mark_of_trimStart (by decide) hleft hclose)
  · cases h

end Derived

theorem readsDerived (fuel : ℕ) : ReadsDerived fuel := by
  induction fuel with
  | zero => constructor <;> intros <;> contradiction
  | succ fuel ih =>
    exact ⟨readType_derived ih, readApplied_derived ih, readItems_derived ih, readMoreItems_derived ih,
      readFields_derived ih, readMoreFields_derived ih⟩

/-! ## What is derived is read -/

/-- What can follow a type: nothing that opens arguments. -/
def Follows (rest : List Char) : Prop := ∀ c ∈ (trimStart rest).head?, c ≠ '(' ∧ c ≠ '{'

lemma Mark.follows {mark : Char} (h : Mark mark cs rest)
    (hmark : isBlank mark = false ∧ mark ≠ '(' ∧ mark ≠ '{') : Follows cs := by
  intro c hc
  rw [(mark_iff hmark.1).1 h] at hc
  cases hc
  exact hmark.2

lemma Blank.follows (h : Blank rest) : Follows rest := by
  intro c hc
  rw [blank_iff.1 h] at hc
  cases hc

lemma Spaced.length_le {token : List Char} (h : Spaced token cs rest) :
    token.length + rest.length ≤ cs.length := by
  obtain ⟨gap, -, rfl⟩ := h
  simp

lemma Mark.length_lt {mark : Char} (h : Mark mark cs rest) : rest.length < cs.length := by
  have hlength := Spaced.length_le h
  rw [List.length_singleton] at hlength
  omega

lemma Name.length_lt {name : String} (h : Name name cs rest) : rest.length < cs.length := by
  have hlength := h.spaced.length_le
  have hpos : 0 < name.toList.length := by
    rw [List.length_pos_iff]
    simpa using h.nonempty
  omega

lemma RawArgument.length_lt {raw : List Char} (h : RawArgument raw cs rest) :
    rest.length < cs.length := by
  have hlength := h.2.length_lt
  rw [List.length_append, List.length_cons] at hlength
  omega

lemma readMark_of_mark {mark : Char} (hmark : isBlank mark = false) {cs' : List Char}
    (h : trimStart after = trimStart cs) (hcs : Mark mark cs cs') : readMark mark after = .ok cs' := by
  rw [readMark_eq_ok_iff hmark, mark_iff hmark, h]
  exact (mark_iff hmark).1 hcs

/-- A name that stands at the start of a type is its head. -/
lemma readType_name {head : String} {args : List Char} (h : Name head cs args) (fuel : ℕ) :
    readType (fuel + 1) cs = match plainNames.lookup head with
      | some ty => .ok (ty, args)
      | none => readApplied fuel head args := by
  have hchars : head.toList ≠ [] := by
    simpa using h.nonempty
  have hread := readType_head hchars h.chars h.ends fuel
  rw [← readType_trimStart, (name_spaced_iff h.nonempty h.chars).1 h.spaced]
  rw [String.ofList_toList] at hread
  exact hread

lemma lookup_plainNames {name : String} (h : (name, t) ∈ plainNames) :
    plainNames.lookup name = some t := by
  have hall : ∀ entry ∈ plainNames, plainNames.lookup entry.1 = some entry.2 := by
    decide +kernel
  exact hall _ h

/-- A type with a head that takes arguments is read by reading what follows the head. -/
lemma reads_applied {fuel : ℕ} {head : String} {args : List Char} (hname : Name head cs args)
    (hhead : head ∈ appliedNames) (hlength : 3 * cs.length ≤ fuel)
    (h : ∀ k < fuel, 3 * args.length < k → rest.length ≤ args.length ∧
      ∃ after, readApplied (k + 1) head args = .ok (t, after) ∧ trimStart after = trimStart rest) :
    rest.length < cs.length ∧
      ∃ after, readType fuel cs = .ok (t, after) ∧ trimStart after = trimStart rest := by
  have hnamelt := hname.length_lt
  obtain ⟨k, rfl⟩ : ∃ n, fuel = n + 2 := ⟨fuel - 2, by omega⟩
  obtain ⟨hle, after, hread, hafter⟩ := h k (by omega) (by omega)
  refine ⟨by omega, after, ?_, hafter⟩
  rw [readType_name hname, lookup_appliedNames hhead]
  exact hread

lemma Name.starts {name : String} (h : Name name cs rest) : StartsType (trimStart cs) := by
  have hchars : name.toList ≠ [] := by
    simpa using h.nonempty
  obtain ⟨c, others, hcs⟩ := List.exists_cons_of_ne_nil hchars
  rw [(name_spaced_iff h.nonempty h.chars).1 h.spaced, hcs]
  exact ⟨c, others ++ rest, rfl, .inl (h.chars c (by rw [hcs]; exact List.mem_cons_self))⟩

lemma Derives.starts (h : Derives t cs rest) : StartsType (trimStart cs) := by
  cases h with
  | tuple h =>
    cases h with
    | none hopen | some hopen => exact ⟨'(', _, (mark_iff (by decide)).1 hopen, .inr rfl⟩
  | plain _ hname => exact hname.starts
  | amount hname | measure hname | entity hname | enum hname | array hname | map hname
  | namedTuple hname | openTuple hname | object hname | openObject hname => exact hname.starts

lemma Derives.length_pos (h : Derives t cs rest) : 0 < cs.length := by
  obtain ⟨c, others, hcs, -⟩ := h.starts
  have hmem : c ∈ trimStart cs := hcs ▸ List.mem_cons_self
  exact List.length_pos_of_mem (Text.mem_of_mem_trimStart hmem)

lemma Separated.first {α : Type} {Item : α → List Char → List Char → Prop} {closing : Char}
    {items : List α} (h : Separated Item closing items cs rest) :
    ∃ item rest', Item item cs rest' := by
  cases h with
  | last hitem | more hitem => exact ⟨_, _, hitem⟩

/-- With this fuel, a type is read from each text that it is derived from. White space before what is
left over can be skipped already. -/
def Reads (fuel : ℕ) : Prop := ∀ {t cs rest}, Derives t cs rest → Follows rest → 3 * cs.length ≤ fuel →
  rest.length < cs.length ∧
    ∃ after, readType fuel cs = .ok (t, after) ∧ trimStart after = trimStart rest

section Reads

variable {fuel : ℕ} (ih : ∀ k < fuel, Reads k)
include ih

lemma readMoreItems_separated {items : List Ty} (h : Separated Derives ')' items cs rest) {k : ℕ}
    (hk : k ≤ fuel) (hlength : 3 * cs.length + 1 ≤ k) :
    rest.length < cs.length ∧ readMoreItems k cs = .ok (items, rest) := by
  induction h generalizing k with
  | last hitem hclose =>
    obtain ⟨k, rfl⟩ : ∃ n, k = n + 1 := ⟨k - 1, by omega⟩
    obtain ⟨hlt, after, hread, hafter⟩ :=
      ih k (by omega) hitem (hclose.follows (by decide)) (by omega)
    refine ⟨hclose.length_lt.trans hlt, ?_⟩
    rw [readMoreItems, hread, ok_bind]
    simp only [hafter.trans ((mark_iff (by decide)).1 hclose)]
  | more hitem hcomma _ ihmore =>
    obtain ⟨k, rfl⟩ : ∃ n, k = n + 1 := ⟨k - 1, by omega⟩
    obtain ⟨hlt, after, hread, hafter⟩ :=
      ih k (by omega) hitem (hcomma.follows (by decide)) (by omega)
    have hcommalt := hcomma.length_lt
    obtain ⟨hmorelt, hmore⟩ := ihmore (k := k) (by omega) (by omega)
    refine ⟨by omega, ?_⟩
    rw [readMoreItems, hread, ok_bind]
    simp only [hafter.trans ((mark_iff (by decide)).1 hcomma), hmore, ok_bind]

lemma readMoreFields_separated {fields : List (String × Ty)}
    (h : Separated (Labelled Derives) '}' fields cs rest) {k : ℕ} (hk : k ≤ fuel)
    (hlength : 3 * cs.length + 1 ≤ k) :
    rest.length < cs.length ∧ readMoreFields k cs = .ok (fields, rest) := by
  induction h generalizing k with
  | last hitem hclose =>
    obtain ⟨hname, hcolon, hfield⟩ := hitem
    have hnamelt := hname.length_lt
    have hcolonlt := hcolon.length_lt
    obtain ⟨k, rfl⟩ : ∃ n, k = n + 1 := ⟨k - 1, by omega⟩
    obtain ⟨hlt, after, hread, hafter⟩ :=
      ih k (by omega) hfield (hclose.follows (by decide)) (by omega)
    have hcloselt := hclose.length_lt
    refine ⟨by omega, ?_⟩
    rw [readMoreFields, readName_eq_ok_iff.2 hname, ok_bind]
    simp only [(readMark_eq_ok_iff (by decide)).2 hcolon, hread, ok_bind,
      hafter.trans ((mark_iff (by decide)).1 hclose)]
  | more hitem hcomma _ ihmore =>
    obtain ⟨hname, hcolon, hfield⟩ := hitem
    have hnamelt := hname.length_lt
    have hcolonlt := hcolon.length_lt
    obtain ⟨k, rfl⟩ : ∃ n, k = n + 1 := ⟨k - 1, by omega⟩
    obtain ⟨hlt, after, hread, hafter⟩ :=
      ih k (by omega) hfield (hcomma.follows (by decide)) (by omega)
    have hcommalt := hcomma.length_lt
    obtain ⟨hmorelt, hmore⟩ := ihmore (k := k) (by omega) (by omega)
    refine ⟨by omega, ?_⟩
    rw [readMoreFields, readName_eq_ok_iff.2 hname, ok_bind]
    simp only [(readMark_eq_ok_iff (by decide)).2 hcolon, hread, ok_bind,
      hafter.trans ((mark_iff (by decide)).1 hcomma), hmore]

lemma readItems_enclosed {items : List Ty} (h : Enclosed Derives '(' ')' items cs rest) {k : ℕ}
    (hk : k ≤ fuel) (hlength : 3 * cs.length ≤ k + 1) :
    rest.length < cs.length ∧
      ∃ cs', trimStart cs = '(' :: cs' ∧ readItems k cs' = .ok (items, rest) := by
  cases h with
  | none hopen hclose =>
    have hopenlt := hopen.length_lt
    have hcloselt := hclose.length_lt
    obtain ⟨k, rfl⟩ : ∃ n, k = n + 1 := ⟨k - 1, by omega⟩
    refine ⟨by omega, _, (mark_iff (by decide)).1 hopen, ?_⟩
    simp only [readItems, (mark_iff (by decide)).1 hclose]
  | some hopen hitems =>
    have hopenlt := hopen.length_lt
    obtain ⟨k, rfl⟩ : ∃ n, k = n + 1 := ⟨k - 1, by omega⟩
    obtain ⟨hlt, hread⟩ := readMoreItems_separated ih hitems (k := k) (by omega) (by omega)
    refine ⟨by omega, _, (mark_iff (by decide)).1 hopen, ?_⟩
    obtain ⟨item, rest', hitem⟩ := hitems.first
    rw [readItems_of_starts hitem.starts, hread]

lemma readFields_enclosed {fields : List (String × Ty)}
    (h : Enclosed (Labelled Derives) '{' '}' fields cs rest) {k : ℕ} (hk : k ≤ fuel)
    (hlength : 3 * cs.length ≤ k + 1) :
    rest.length < cs.length ∧
      ∃ cs', trimStart cs = '{' :: cs' ∧ readFields k cs' = .ok (fields, rest) := by
  cases h with
  | none hopen hclose =>
    have hopenlt := hopen.length_lt
    have hcloselt := hclose.length_lt
    obtain ⟨k, rfl⟩ : ∃ n, k = n + 1 := ⟨k - 1, by omega⟩
    refine ⟨by omega, _, (mark_iff (by decide)).1 hopen, ?_⟩
    simp only [readFields, (mark_iff (by decide)).1 hclose]
  | some hopen hfields =>
    have hopenlt := hopen.length_lt
    obtain ⟨k, rfl⟩ : ∃ n, k = n + 1 := ⟨k - 1, by omega⟩
    obtain ⟨hlt, hread⟩ := readMoreFields_separated ih hfields (k := k) (by omega) (by omega)
    refine ⟨by omega, _, (mark_iff (by decide)).1 hopen, ?_⟩
    obtain ⟨_, _, hname, -, -⟩ := hfields.first
    rw [readFields_of_starts hname.starts, hread]

/-- A type is read by reading its parts with less fuel. -/
lemma reads_step : Reads fuel := by
  intro t cs rest h hfollows hlength
  have hpos := h.length_pos
  cases h with
  | plain hplain hname =>
    obtain ⟨k, rfl⟩ : ∃ n, fuel = n + 1 := ⟨fuel - 1, by omega⟩
    refine ⟨hname.length_lt, rest, ?_, rfl⟩
    rw [readType_name hname, lookup_plainNames hplain]
  | amount hname hraw hempty =>
    refine reads_applied hname (by decide) hlength fun k _ _ => ?_
    refine ⟨hraw.length_lt.le, rest, ?_, rfl⟩
    rw [readApplied_measure, readMeasure, readRaw_eq_ok_iff.2 ⟨_, hraw, hempty⟩, ok_bind]
    rfl
  | measure hname hraw hunit hsymbol =>
    refine reads_applied hname (by decide) hlength fun k _ _ => ?_
    refine ⟨hraw.length_lt.le, rest, ?_, rfl⟩
    rw [readApplied_measure, readMeasure, readRaw_eq_ok_iff.2 ⟨_, hraw, hsymbol⟩, ok_bind]
    simp only [String.ofList_toList, ofUnit_eq_ok_iff.2 (.inr ⟨_, hunit, rfl, rfl⟩)]
  | entity hname hraw =>
    refine reads_applied hname (by decide) hlength fun k _ _ => ?_
    refine ⟨hraw.length_lt.le, rest, ?_, rfl⟩
    rw [readApplied_entity, readEntity, readRaw_eq_ok_iff.2 ⟨_, hraw, rfl⟩, ok_bind]
  | enum hname hraw hne hcommas =>
    refine reads_applied hname (by decide) hlength fun k _ _ => ?_
    refine ⟨hraw.length_lt.le, rest, ?_, rfl⟩
    rw [readApplied_enum, readEnum, readRaw_eq_ok_iff.2 ⟨_, hraw, rfl⟩, ok_bind]
    simp only [entries_eq, splitCommas_eq_iff.2 ⟨rfl, hne, hcommas⟩]
  | array hname hopen helem hclose =>
    refine reads_applied hname (by decide) hlength fun k hk hargs => ?_
    have hopenlt := hopen.length_lt
    have hcloselt := hclose.length_lt
    obtain ⟨hlt, after, hread, hafter⟩ := ih k hk helem (hclose.follows (by decide)) (by omega)
    refine ⟨by omega, rest, ?_, rfl⟩
    rw [readApplied_array, (readMark_eq_ok_iff (by decide)).2 hopen, ok_bind, hread, ok_bind]
    simp only [readMark_of_mark (by decide) hafter hclose, ok_bind]
  | map hname hopen hkey hcomma hvalue hclose =>
    refine reads_applied hname (by decide) hlength fun k hk hargs => ?_
    have hopenlt := hopen.length_lt
    have hcommalt := hcomma.length_lt
    have hcloselt := hclose.length_lt
    obtain ⟨hlt, after, hread, hafter⟩ := ih k hk hkey (hcomma.follows (by decide)) (by omega)
    obtain ⟨hlt', after', hread', hafter'⟩ :=
      ih k hk hvalue (hclose.follows (by decide)) (by omega)
    refine ⟨by omega, rest, ?_, rfl⟩
    rw [readApplied_map, (readMark_eq_ok_iff (by decide)).2 hopen, ok_bind, hread, ok_bind]
    simp only [readMark_of_mark (by decide) hafter hcomma, hread', ok_bind,
      readMark_of_mark (by decide) hafter' hclose]
  | tuple hitems =>
    obtain ⟨k, rfl⟩ : ∃ n, fuel = n + 1 := ⟨fuel - 1, by omega⟩
    obtain ⟨hlt, cs', hopen, hread⟩ := readItems_enclosed ih hitems (k := k) (by omega) (by omega)
    refine ⟨hlt, rest, ?_, rfl⟩
    rw [readType, hopen]
    simp only [hread, ok_bind]
  | namedTuple hname hitems =>
    refine reads_applied hname (by decide) hlength fun k hk hargs => ?_
    obtain ⟨hlt, cs', hopen, hread⟩ := readItems_enclosed ih hitems hk.le (by omega)
    refine ⟨hlt.le, rest, ?_, rfl⟩
    rw [readApplied_tuple, hopen]
    simp only [hread, ok_bind]
  | openTuple hname =>
    refine reads_applied hname (by decide) hlength fun k _ _ => ?_
    refine ⟨le_rfl, trimStart rest, ?_, trimStart_trimStart rest⟩
    rw [readApplied_tuple]
    split
    · rename_i hopen
      exact absurd rfl (hfollows '(' (by rw [hopen]; rfl)).1
    · rfl
  | object hname hfields hordered hlookups =>
    refine reads_applied hname (by decide) hlength fun k hk hargs => ?_
    obtain ⟨hlt, cs', hopen, hread⟩ := readFields_enclosed ih hfields hk.le (by omega)
    refine ⟨hlt.le, rest, ?_, rfl⟩
    rw [readApplied_object, hopen]
    simp only [hread, ok_bind, Named.eq_ofEntries_iff.2 ⟨hordered, hlookups⟩]
  | openObject hname =>
    refine reads_applied hname (by decide) hlength fun k _ _ => ?_
    refine ⟨le_rfl, trimStart rest, ?_, trimStart_trimStart rest⟩
    rw [readApplied_object]
    split
    · rename_i hopen
      exact absurd rfl (hfollows '{' (by rw [hopen]; rfl)).2
    · rfl

end Reads

theorem reads (fuel : ℕ) : Reads fuel := by
  induction fuel using Nat.strong_induction_on with
  | h fuel ih => exact reads_step ih

/-! ## Whole texts -/

lemma ofChars_eq_ok_iff : ofChars cs = .ok t ↔ ∃ rest, Derives t cs rest ∧ Blank rest := by
  rw [ofChars, bind_eq_ok]
  constructor
  · rintro ⟨⟨ty, after⟩, hread, h⟩
    obtain ⟨rest, hderives, hrest⟩ := (readsDerived _).type hread
    dsimp only at h
    split at h
    · rename_i hempty
      cases h
      rw [← hrest, List.isEmpty_iff] at hempty
      exact ⟨rest, hderives, blank_iff.2 hempty⟩
    · cases h
  · rintro ⟨rest, hderives, hblank⟩
    obtain ⟨-, after, hread, hafter⟩ :=
      reads (fuelFor cs) hderives hblank.follows (Nat.le_add_right _ _)
    refine ⟨_, hread, ?_⟩
    dsimp only
    rw [hafter, blank_iff.1 hblank]
    rfl

/-- Exactly the texts of the grammar are read, each as the one type that it denotes. Every other text
is rejected, as a whole or for an unknown unit. -/
theorem ofText_eq_ok_iff_denotes (text : String) :
    (∀ t, ofText text = .ok t ↔ Denotes text t) ∧
      ((∃ t, Denotes text t) ∨ ofText text = .error (.invalidText text) ∨
        ∃ unit, ofText text = .error (.unknownUnit unit)) := by
  have hdenotes : ∀ t, ofChars text.toList = .ok t ↔ Denotes text t := fun t => ofChars_eq_ok_iff
  unfold ofText
  cases h : ofChars text.toList with
  | ok t =>
    refine ⟨fun t' => ?_, .inl ⟨t, (hdenotes t).1 h⟩⟩
    rw [← hdenotes, h]
    simp
  | error fault =>
    refine ⟨fun t => ?_, .inr ?_⟩
    · rw [← hdenotes, h]
      cases fault <;> simp
    · cases fault with
      | malformed => exact .inl rfl
      | unknownUnit unit => exact .inr ⟨unit, rfl⟩

end Ty

end ChannelRules
