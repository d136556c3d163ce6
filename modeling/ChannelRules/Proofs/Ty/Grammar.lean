import ChannelRules.Proofs.Named
import ChannelRules.Proofs.Ty.Token

/-!
# The grammar of written types

Types are derived from texts by rules that know nothing of how a text is read. A rule relates a text,
what is derived from its beginning, and the text that is left over. White space may stand before every
token. The tokens are marks, names, and raw arguments up to the next closing parenthesis.

The second part says that each reader of a token takes what the grammar lets it take, and nothing
else.
-/

namespace ChannelRules

open Text (isBlank trim trimStart)

namespace Ty

/-- A text of white space. -/
def Blank (cs : List Char) : Prop := ∀ c ∈ cs, isBlank c = true

/-- The text starts with white space and a token. -/
def Spaced (token cs rest : List Char) : Prop := ∃ gap, Blank gap ∧ cs = gap ++ (token ++ rest)

/-- The text starts with a mark. -/
def Mark (mark : Char) : List Char → List Char → Prop := Spaced [mark]

/-- The text starts with a name: a maximal and nonempty run of characters that names are made of. -/
structure Name (name : String) (cs rest : List Char) : Prop where
  nonempty : name ≠ ""
  chars : ∀ c ∈ name.toList, isNameChar c = true
  ends : EndsName rest
  spaced : Spaced name.toList cs rest

/-- The text starts with some text in parentheses that contains no closing one. -/
def RawArgument (raw cs rest : List Char) : Prop :=
  ')' ∉ raw ∧ Mark '(' cs (raw ++ ')' :: rest)

section Lists

variable {α : Type} (Item : α → List Char → List Char → Prop)

/-- Items with commas between them, and the mark that ends the last one. -/
inductive Separated (closing : Char) : List α → List Char → List Char → Prop
  | last {item : α} {cs cs' rest : List Char} :
      Item item cs cs' → Mark closing cs' rest → Separated closing [item] cs rest
  | more {item : α} {items : List α} {cs cs' cs'' rest : List Char} :
      Item item cs cs' → Mark ',' cs' cs'' → Separated closing items cs'' rest →
      Separated closing (item :: items) cs rest

/-- Items between two marks, or none. -/
inductive Enclosed (opening closing : Char) : List α → List Char → List Char → Prop
  | none {cs cs' rest : List Char} :
      Mark opening cs cs' → Mark closing cs' rest → Enclosed opening closing [] cs rest
  | some {items : List α} {cs cs' rest : List Char} :
      Mark opening cs cs' → Separated Item closing items cs' rest →
      Enclosed opening closing items cs rest

/-- An item with a name. -/
inductive Labelled : String × α → List Char → List Char → Prop
  | mk {name : String} {item : α} {cs cs' cs'' rest : List Char} :
      Name name cs cs' → Mark ':' cs' cs'' → Item item cs'' rest → Labelled (name, item) cs rest

end Lists

/-- What it takes to derive a type from the beginning of a text. That text is left over which none of
the rules has taken. -/
inductive Derives : Ty → List Char → List Char → Prop
  | plain {name : String} {t : Ty} {cs rest : List Char} :
      (name, t) ∈ plainNames → Name name cs rest → Derives t cs rest
  /-- Without a unit. -/
  | amount {raw cs args rest : List Char} :
      Name "Measure" cs args → RawArgument raw args rest → trim raw = [] →
      Derives (measure "") cs rest
  /-- A unit stands for its base unit. -/
  | measure {unit : MeasureUnit} {raw cs args rest : List Char} :
      Name "Measure" cs args → RawArgument raw args rest → unit ∈ MeasureUnit.table →
      trim raw = unit.symbol.toList → Derives (measure unit.base) cs rest
  | entity {raw cs args rest : List Char} :
      Name "Entity" cs args → RawArgument raw args rest →
      Derives (entity (String.ofList (trim raw))) cs rest
  | enum {parts : List (List Char)} {cs args rest : List Char} :
      Name "Enum" cs args → RawArgument ([','].intercalate parts) args rest → parts ≠ [] →
      (∀ part ∈ parts, ',' ∉ part) →
      Derives (enum (parts.map fun part => String.ofList (trim part))) cs rest
  | array {elem : Ty} {cs args inner inner' rest : List Char} :
      Name "Array" cs args → Mark '(' args inner → Derives elem inner inner' →
      Mark ')' inner' rest → Derives (array elem) cs rest
  | map {key value : Ty} {cs args first first' second second' rest : List Char} :
      Name "Map" cs args → Mark '(' args first → Derives key first first' →
      Mark ',' first' second → Derives value second second' → Mark ')' second' rest →
      Derives (map key value) cs rest
  | tuple {items : List Ty} {cs rest : List Char} :
      Enclosed Derives '(' ')' items cs rest → Derives (tuple items) cs rest
  | namedTuple {items : List Ty} {cs args rest : List Char} :
      Name "Tuple" cs args → Enclosed Derives '(' ')' items args rest →
      Derives (tuple items) cs rest
  | openTuple {cs rest : List Char} : Name "Tuple" cs rest → Derives openTuple cs rest
  /-- Of fields with one name the last one counts. -/
  | object {entries : List (String × Ty)} {fields : Named Ty} {cs args rest : List Char} :
      Name "Object" cs args → Enclosed (Labelled Derives) '{' '}' entries args rest →
      Named.Ordered fields → (∀ name, fields.get? name = entries.reverse.lookup name) →
      Derives (object fields) cs rest
  | openObject {cs rest : List Char} : Name "Object" cs rest → Derives openObject cs rest

/-- The text is that of a type, and nothing but white space is left over. -/
def Denotes (text : String) (t : Ty) : Prop := ∃ rest, Derives t text.toList rest ∧ Blank rest

variable {cs rest : List Char}

lemma blank_iff : Blank cs ↔ trimStart cs = [] := by
  rw [trimStart, List.dropWhile_eq_nil_iff]
  rfl

lemma trimStart_append {gap : List Char} (h : Blank gap) (cs : List Char) :
    trimStart (gap ++ cs) = trimStart cs :=
  List.dropWhile_append_of_pos h

lemma exists_gap (cs : List Char) : ∃ gap, Blank gap ∧ cs = gap ++ trimStart cs :=
  ⟨cs.takeWhile isBlank, fun _ hc => List.mem_takeWhile_imp hc, List.takeWhile_append_dropWhile.symm⟩

lemma trimStart_trimStart (cs : List Char) : trimStart (trimStart cs) = trimStart cs :=
  Text.trimStart_of_head (Text.head?_trimStart cs)

/-- A token starts where the white space ends. -/
lemma spaced_iff {c : Char} {token : List Char} (hc : isBlank c = false) :
    Spaced (c :: token) cs rest ↔ trimStart cs = c :: token ++ rest := by
  constructor
  · rintro ⟨gap, hgap, rfl⟩
    rw [trimStart_append hgap]
    apply Text.trimStart_of_head
    rintro d ⟨⟩
    exact hc
  · intro h
    obtain ⟨gap, hgap, hcs⟩ := exists_gap cs
    rw [h] at hcs
    exact ⟨gap, hgap, hcs⟩

lemma mark_iff {mark : Char} (h : isBlank mark = false) :
    Mark mark cs rest ↔ trimStart cs = mark :: rest := spaced_iff h

lemma readMark_eq_ok_iff {mark : Char} (h : isBlank mark = false) :
    readMark mark cs = .ok rest ↔ Mark mark cs rest := by
  rw [mark_iff h, readMark]
  cases trimStart cs with
  | nil => simp
  | cons c cs =>
    by_cases hc : c = mark <;> simp [hc]

lemma name_spaced_iff {name : String} (hne : name ≠ "") (h : ∀ c ∈ name.toList, isNameChar c = true) :
    Spaced name.toList cs rest ↔ trimStart cs = name.toList ++ rest := by
  have hchars : name.toList ≠ [] := by
    simpa using hne
  obtain ⟨c, others, hcs⟩ := List.exists_cons_of_ne_nil hchars
  rw [hcs] at h ⊢
  exact spaced_iff (isBlank_of_isNameChar (h c List.mem_cons_self))

lemma readName_trimStart (cs : List Char) : readName (trimStart cs) = readName cs := by
  simp only [readName, trimStart_trimStart]

/-- The name that is read is the one that the text starts with. -/
lemma readName_eq_ok_iff {name : String} : readName cs = .ok (name, rest) ↔ Name name cs rest := by
  constructor
  · intro h
    obtain ⟨hne, hchars⟩ := readName_eq_ok h
    have hparts : (trimStart cs).takeWhile isNameChar = name.toList ∧
        (trimStart cs).dropWhile isNameChar = rest := by
      simp only [readName] at h
      split at h
      · cases h
      · cases h
        exact ⟨String.toList_ofList.symm, rfl⟩
    have hends : EndsName rest := by
      intro c hc
      have hhead := List.head?_dropWhile_not isNameChar (trimStart cs)
      rw [hparts.2, Option.mem_def.1 hc] at hhead
      simpa using hhead
    refine ⟨hne, hchars, hends, (name_spaced_iff hne hchars).2 ?_⟩
    rw [← hparts.1, ← hparts.2, List.takeWhile_append_dropWhile]
  · intro h
    have hchars : name.toList ≠ [] := by
      simpa using h.nonempty
    rw [← readName_trimStart, (name_spaced_iff h.nonempty h.chars).1 h.spaced,
      readName_append hchars h.chars h.ends, String.ofList_toList]

/-- A raw argument is read without the white space at its ends. -/
lemma readRaw_eq_ok_iff {trimmed : List Char} :
    readRaw cs = .ok (trimmed, rest) ↔ ∃ raw, RawArgument raw cs rest ∧ trim raw = trimmed := by
  have hopen : isBlank '(' = false := by decide
  rw [readRaw, bind_eq_ok]
  simp only [readMark_eq_ok_iff hopen]
  constructor
  · rintro ⟨inner, hmark, h⟩
    split at h
    · cases h
    · rename_i c after hdrop
      cases h
      have hnotin : ')' ∉ inner.takeWhile (· != ')') := fun hmem => by
        simpa using List.mem_takeWhile_imp hmem
      have hclose : c = ')' := by
        have hhead := List.head?_dropWhile_not (· != ')') inner
        rw [hdrop] at hhead
        simpa using hhead
      refine ⟨inner.takeWhile (· != ')'), ⟨hnotin, ?_⟩, rfl⟩
      rw [hclose] at hdrop
      rwa [← hdrop, List.takeWhile_append_dropWhile]
  · rintro ⟨raw, ⟨hnotin, hmark⟩, rfl⟩
    have hraw : ∀ c ∈ raw, (c != ')') = true := by
      intro c hc
      rw [bne_iff_ne]
      rintro rfl
      exact hnotin hc
    refine ⟨_, hmark, ?_⟩
    rw [List.dropWhile_append_of_pos hraw, List.takeWhile_append_of_pos hraw]
    simp

lemma ofUnit_eq_ok_iff {symbol : String} {t : Ty} :
    ofUnit symbol = .ok t ↔ symbol = "" ∧ t = measure "" ∨
      ∃ unit ∈ MeasureUnit.table, unit.symbol = symbol ∧ t = measure unit.base := by
  have hsymbols : ∀ unit ∈ MeasureUnit.table,
      unit.symbol ≠ "" ∧ MeasureUnit.base? unit.symbol = some unit.base := by
    decide +kernel
  unfold ofUnit
  split
  · rename_i hempty
    constructor
    · rintro ⟨⟩
      exact .inl ⟨hempty, rfl⟩
    · rintro (⟨-, rfl⟩ | ⟨unit, hunit, hsymbol, -⟩)
      · rfl
      · exact absurd (hsymbol.trans hempty) (hsymbols unit hunit).1
  · rename_i hne
    constructor
    · intro h
      right
      split at h
      · rename_i base hbase
        cases h
        rw [MeasureUnit.base?, Option.map_eq_some_iff] at hbase
        obtain ⟨unit, hfound, rfl⟩ := hbase
        have hsymbol := List.find?_some hfound
        exact ⟨unit, List.mem_of_find?_eq_some hfound, by simpa using hsymbol, rfl⟩
      · cases h
    · rintro (⟨hempty, -⟩ | ⟨unit, hunit, rfl, rfl⟩)
      · exact absurd hempty hne
      · rw [(hsymbols unit hunit).2]

lemma trim_append {gap : List Char} (h : Blank gap) (cs : List Char) : trim (gap ++ cs) = trim cs := by
  rw [trim, trimStart_append h, trim]

lemma trim_append_right {gap : List Char} (h : Blank gap) (cs : List Char) :
    trim (cs ++ gap) = trim cs := by
  have hreverse : Blank gap.reverse := fun c hc => h c (List.mem_reverse.1 hc)
  have hstart : trimStart (cs ++ gap) =
      if (trimStart cs).isEmpty then [] else trimStart cs ++ gap := by
    have hgap := blank_iff.1 h
    unfold trimStart at hgap ⊢
    rw [List.dropWhile_append, hgap]
  rw [trim, trim, hstart]
  split
  · rename_i hempty
    rw [List.isEmpty_iff.1 hempty]
  · rw [List.reverse_append, trimStart_append hreverse]

lemma exists_gaps (cs : List Char) :
    ∃ gap gap', Blank gap ∧ Blank gap' ∧ cs = gap ++ (trim cs ++ gap') := by
  obtain ⟨gap, hgap, hstart⟩ := exists_gap cs
  obtain ⟨gap', hgap', hend⟩ := exists_gap (trimStart cs).reverse
  refine ⟨gap, gap'.reverse, hgap, fun c hc => hgap' c (List.mem_reverse.1 hc), ?_⟩
  have hparts := congrArg List.reverse hend
  rw [List.reverse_reverse, List.reverse_append] at hparts
  rw [trim, ← hparts]
  exact hstart

lemma comma_not_mem_blank {gap : List Char} (h : Blank gap) : ',' ∉ gap :=
  fun hmem => absurd (h ',' hmem) (by decide)

/-- A text is its parts with commas between them. -/
lemma splitCommas_eq_iff {parts : List (List Char)} :
    splitCommas cs = parts ↔
      cs = [','].intercalate parts ∧ parts ≠ [] ∧ ∀ part ∈ parts, ',' ∉ part := by
  constructor
  · rintro rfl
    refine ⟨?_, splitCommas_ne_nil cs, fun part hpart => (mem_splitCommas hpart).1⟩
    induction cs with
    | nil => rfl
    | cons c cs ih =>
      obtain ⟨first, others, hcs⟩ := List.exists_cons_of_ne_nil (splitCommas_ne_nil cs)
      by_cases hc : c = ','
      · rw [hc, splitCommas_comma, hcs, List.intercalate_cons_cons, ← hcs, ← ih]
        rfl
      · have hnext : splitCommas ([c] ++ cs) = ([c] ++ first) :: others :=
          splitCommas_append (by simpa using Ne.symm hc) hcs
        rw [List.singleton_append] at hnext
        rw [hnext]
        rw [hcs] at ih
        cases others with
        | nil =>
          rw [List.intercalate_singleton] at ih ⊢
          rw [ih]
          rfl
        | cons other others =>
          rw [List.intercalate_cons_cons] at ih ⊢
          rw [List.append_assoc, List.append_assoc, ← List.append_assoc first, ← ih]
          rfl
  · rintro ⟨rfl, hne, hparts⟩
    exact splitCommas_intercalate hne hparts

lemma intercalate_concat_append (parts : List (List Char)) (last tail : List Char) :
    [','].intercalate (parts ++ [last ++ tail]) = [','].intercalate (parts ++ [last]) ++ tail := by
  induction parts with
  | nil => simp
  | cons first parts ih =>
    cases parts with
    | nil => simp [List.intercalate_cons_cons]
    | cons second parts =>
      rw [List.cons_append, List.cons_append, List.intercalate_cons_cons, ← List.cons_append, ih]
      simp [List.intercalate_cons_cons]

/-- White space after a text ends up in its last part. -/
lemma map_trim_splitCommas_append {gap : List Char} (h : Blank gap) (cs : List Char) :
    (splitCommas (cs ++ gap)).map trim = (splitCommas cs).map trim := by
  obtain ⟨parts, last, hlast⟩ : ∃ parts last, splitCommas cs = parts ++ [last] :=
    ⟨_, _, (List.dropLast_append_getLast (splitCommas_ne_nil cs)).symm⟩
  obtain ⟨hcs, -, hparts⟩ := splitCommas_eq_iff.1 hlast
  have hmoved : splitCommas (cs ++ gap) = parts ++ [last ++ gap] := by
    refine splitCommas_eq_iff.2 ⟨?_, by simp, ?_⟩
    · rw [intercalate_concat_append, ← hcs]
    · intro part hpart
      rcases List.mem_append.1 hpart with hpart | hpart
      · exact hparts part (List.mem_append_left _ hpart)
      · rw [List.mem_singleton.1 hpart, List.mem_append, not_or]
        exact ⟨hparts last (by simp), comma_not_mem_blank h⟩
  rw [hmoved, hlast, List.map_append, List.map_append, List.map_singleton, List.map_singleton,
    trim_append_right h]

/-- White space at the ends of a text makes no difference to its trimmed parts. -/
lemma map_trim_splitCommas (cs : List Char) :
    (splitCommas (trim cs)).map trim = (splitCommas cs).map trim := by
  obtain ⟨gap, gap', hgap, hgap', hcs⟩ := exists_gaps cs
  obtain ⟨first, others, hparts⟩ :=
    List.exists_cons_of_ne_nil (splitCommas_ne_nil (trim cs ++ gap'))
  have hfirst := splitCommas_append (comma_not_mem_blank hgap) hparts
  rw [← hcs] at hfirst
  rw [← map_trim_splitCommas_append hgap' (trim cs), hparts, hfirst, List.map_cons, List.map_cons,
    trim_append hgap]

end Ty

end ChannelRules
