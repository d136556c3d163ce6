import ChannelRules.Proofs.Named
import ChannelRules.Proofs.Ty.Token

/-!
# Types that are written down

The types that can be written down are those whose units, tags, entries and field names do not run
into the marks of the written form. Each of them is read back from its written form.
-/

namespace ChannelRules

namespace Ty

open Text (Bare isBlank trim trimStart)

mutual

/-- A type and all types inside it. -/
def parts : Ty → List Ty
  | array elem => array elem :: parts elem
  | map key value => map key value :: (parts key ++ parts value)
  | tuple items => tuple items :: partsItems items
  | object fields => object fields :: partsFields fields
  | other => [other]

def partsItems : List Ty → List Ty
  | [] => []
  | item :: rest => parts item ++ partsItems rest

def partsFields : List (String × Ty) → List Ty
  | [] => []
  | (_, field) :: rest => parts field ++ partsFields rest

end

/-- The fields of every object stand in increasing order of name. -/
def FieldsOrdered (t : Ty) : Prop := ∀ fields, object fields ∈ t.parts → Named.Ordered fields

/-- The types that their written form tells apart. -/
structure Printable (t : Ty) : Prop where
  vars : ∀ name, var name ∉ t.parts
  units : ∀ unit, measure unit ∈ t.parts →
    unit = "" ∨ unit ∈ MeasureUnit.table.map MeasureUnit.base
  tags : ∀ tag, entity tag ∈ t.parts → ')' ∉ tag.toList ∧ Bare tag.toList
  entries : ∀ entries, enum entries ∈ t.parts → entries ≠ [] ∧
    ∀ entry ∈ entries, ')' ∉ entry.toList ∧ ',' ∉ entry.toList ∧ Bare entry.toList
  names : ∀ fields, object fields ∈ t.parts → ∀ name ∈ Named.names fields,
    name ≠ "" ∧ ∀ c ∈ name.toList, isNameChar c = true

/-- A type that can be written down and whose objects are in order. -/
structure Writable (t : Ty) : Prop where
  printable : t.Printable
  ordered : t.FieldsOrdered

lemma Writable.of_subset {t sub : Ty} (h : t.Writable) (hsub : sub.parts ⊆ t.parts) :
    sub.Writable where
  printable :=
    { vars := fun name hmem => h.printable.vars name (hsub hmem)
      units := fun unit hmem => h.printable.units unit (hsub hmem)
      tags := fun tag hmem => h.printable.tags tag (hsub hmem)
      entries := fun entries hmem => h.printable.entries entries (hsub hmem)
      names := fun fields hmem => h.printable.names fields (hsub hmem) }
  ordered := fun fields hmem => h.ordered fields (hsub hmem)

lemma mem_parts_self (t : Ty) : t ∈ t.parts := by
  cases t <;> exact List.mem_cons_self

lemma mem_partsItems {items : List Ty} {part : Ty} :
    part ∈ partsItems items ↔ ∃ item ∈ items, part ∈ item.parts := by
  induction items with
  | nil => simp [partsItems]
  | cons first rest ih => simp [partsItems, ih]

lemma mem_partsFields {fields : List (String × Ty)} {part : Ty} :
    part ∈ partsFields fields ↔ ∃ field ∈ fields, part ∈ field.2.parts := by
  induction fields with
  | nil => simp [partsFields]
  | cons first rest ih => simp [partsFields, ih]

/-- What may follow a type. -/
def Closes (rest : List Char) : Prop := ∀ c ∈ rest.head?, c = ',' ∨ c = ')' ∨ c = '}'

lemma Closes.endsName {rest : List Char} (h : Closes rest) : EndsName rest := by
  intro c hc
  rcases h c hc with rfl | rfl | rfl <;> decide

lemma Closes.trimStart {rest : List Char} (h : Closes rest) : trimStart rest = rest := by
  apply Text.trimStart_of_head
  intro c hc
  rcases h c hc with rfl | rfl | rfl <;> decide

lemma closes_nil : Closes [] := by
  rintro c ⟨⟩

lemma closes_cons {c : Char} (h : c = ',' ∨ c = ')' ∨ c = '}') (rest : List Char) :
    Closes (c :: rest) := by
  rintro d ⟨⟩
  exact h

def StartsType (cs : List Char) : Prop := ∃ c rest, cs = c :: rest ∧ (isNameChar c = true ∨ c = '(')

lemma StartsType.append {cs : List Char} (h : StartsType cs) (rest : List Char) :
    StartsType (cs ++ rest) := by
  obtain ⟨c, cs, rfl, hc⟩ := h
  exact ⟨c, cs ++ rest, rfl, hc⟩

lemma StartsType.trimStart {cs : List Char} (h : StartsType cs) : trimStart cs = cs := by
  obtain ⟨c, rest, rfl, hc⟩ := h
  apply Text.trimStart_of_head
  rintro d ⟨⟩
  rcases hc with hc | rfl
  · exact isBlank_of_isNameChar hc
  · decide

/-- The head of a type is read up to its end. -/
lemma readType_head {head rest : List Char} (hne : head ≠ [])
    (hhead : ∀ c ∈ head, isNameChar c = true) (hrest : EndsName rest) (fuel : Nat) :
    readType (fuel + 1) (head ++ rest) = match plainNames.lookup (String.ofList head) with
      | some ty => .ok (ty, rest)
      | none => readApplied fuel (String.ofList head) rest := by
  obtain ⟨c, others, rfl⟩ := List.exists_cons_of_ne_nil hne
  have hc : isNameChar c = true := hhead c List.mem_cons_self
  have htrim : Text.trimStart (c :: others ++ rest) = c :: others ++ rest :=
    StartsType.trimStart ⟨c, others ++ rest, rfl, .inl hc⟩
  have hopen : c ≠ '(' := by
    rintro rfl
    exact absurd hc (by decide)
  rw [readType, htrim]
  split
  · rename_i heq
    cases heq
    exact absurd rfl hopen
  · rw [readName_append hne hhead hrest]
    rfl

/-- A text that is read as a type, whatever closes the type. -/
structure ReadsAs (cs : List Char) (t : Ty) : Prop where
  starts : StartsType cs
  reads : ∀ (fuel : Nat) {rest : List Char}, Closes rest → 3 * cs.length ≤ fuel →
    readType fuel (cs ++ rest) = .ok (t, rest)

lemma readsAs_plain (name : String) {t : Ty} (h : plainNames.lookup name = some t) (hne : name ≠ "")
    (hname : ∀ c ∈ name.toList, isNameChar c = true) : ReadsAs name.toList t := by
  have hchars : name.toList ≠ [] := by
    simpa using hne
  refine ⟨?_, ?_⟩
  · obtain ⟨c, rest, hcs⟩ := List.exists_cons_of_ne_nil hchars
    rw [hcs] at hname
    exact ⟨c, rest, hcs, .inl (hname c List.mem_cons_self)⟩
  · intro fuel rest hrest hfuel
    have hlength := List.length_pos_iff.2 hchars
    obtain ⟨fuel, rfl⟩ : ∃ n, fuel = n + 1 := ⟨fuel - 1, by omega⟩
    rw [readType_head hchars hname hrest.endsName, String.ofList_toList, h]

/-- The names that take arguments. -/
def appliedNames : List String := ["Measure", "Entity", "Enum", "Array", "Map", "Tuple", "Object"]

lemma appliedNames_chars {head : String} (h : head ∈ appliedNames) :
    head.toList ≠ [] ∧ ∀ c ∈ head.toList, isNameChar c = true := by
  simp only [appliedNames, List.mem_cons, List.not_mem_nil, or_false] at h
  rcases h with rfl | rfl | rfl | rfl | rfl | rfl | rfl <;>
    exact ⟨by decide, List.all_eq_true.1 (by decide)⟩

lemma lookup_appliedNames {head : String} (h : head ∈ appliedNames) :
    plainNames.lookup head = none := by
  simp only [appliedNames, List.mem_cons, List.not_mem_nil, or_false] at h
  rcases h with rfl | rfl | rfl | rfl | rfl | rfl | rfl <;> rfl

lemma readsAs_applied {head : String} {args : List Char} {t : Ty} (hhead : head ∈ appliedNames)
    (hargs : ∀ rest, Closes rest → EndsName (args ++ rest))
    (h : ∀ rest fuel, Closes rest → 3 * args.length ≤ fuel →
      readApplied (fuel + 1) head (args ++ rest) = .ok (t, rest)) :
    ReadsAs (head.toList ++ args) t := by
  obtain ⟨hne, hchars⟩ := appliedNames_chars hhead
  refine ⟨?_, ?_⟩
  · obtain ⟨c, rest, hcs⟩ := List.exists_cons_of_ne_nil hne
    rw [hcs] at hchars ⊢
    exact ⟨c, rest ++ args, rfl, .inl (hchars c List.mem_cons_self)⟩
  · intro fuel rest hrest hfuel
    have hlength := List.length_pos_iff.2 hne
    rw [List.length_append] at hfuel
    obtain ⟨fuel, rfl⟩ : ∃ n, fuel = n + 2 := ⟨fuel - 2, by omega⟩
    rw [List.append_assoc, readType_head hne hchars (hargs rest hrest), String.ofList_toList,
      lookup_appliedNames hhead]
    exact h rest fuel hrest (by omega)

/-- Arguments that start with a mark end the name before them. -/
lemma endsName_mark {mark : Char} (h : isNameChar mark = false) (cs : List Char) :
    EndsName (mark :: cs) := by
  rintro c ⟨⟩
  exact h

lemma toList_enclosed (opening inner closing : String) :
    (opening ++ inner ++ closing).toList = opening.toList ++ (inner.toList ++ closing.toList) := by
  rw [String.toList_append, String.toList_append, List.append_assoc]

lemma readApplied_measure (fuel : Nat) (cs : List Char) :
    readApplied (fuel + 1) "Measure" cs = readMeasure cs := rfl

lemma readApplied_entity (fuel : Nat) (cs : List Char) :
    readApplied (fuel + 1) "Entity" cs = readEntity cs := rfl

lemma readApplied_enum (fuel : Nat) (cs : List Char) :
    readApplied (fuel + 1) "Enum" cs = readEnum cs := rfl

lemma readsAs_raw {head : String} {raw : List Char} {t : Ty} (hhead : head ∈ appliedNames)
    (hclose : ')' ∉ raw) (hbare : Bare raw)
    (h : ∀ cs rest fuel, readRaw cs = .ok (raw, rest) →
      readApplied (fuel + 1) head cs = .ok (t, rest)) :
    ReadsAs (head.toList ++ '(' :: (raw ++ [')'])) t := by
  refine readsAs_applied hhead (fun rest _ => endsName_mark (by decide) _) ?_
  intro rest fuel _ _
  apply h
  rw [List.cons_append, List.append_assoc]
  exact readRaw_append hclose hbare

lemma units_plain : ∀ unit ∈ MeasureUnit.table.map MeasureUnit.base,
    unit ≠ "" ∧ ')' ∉ unit.toList ∧ Bare unit.toList ∧ MeasureUnit.base? unit = some unit := by
  decide +kernel

lemma readsAs_measure {unit : String}
    (h : unit = "" ∨ unit ∈ MeasureUnit.table.map MeasureUnit.base) :
    ReadsAs (measure unit).text.toList (measure unit) := by
  have hunit : ')' ∉ unit.toList ∧ Bare unit.toList ∧ ofUnit unit = .ok (measure unit) := by
    rcases h with rfl | h
    · exact ⟨by decide, by decide, rfl⟩
    · obtain ⟨hne, hclose, hbare, hbase⟩ := units_plain unit h
      refine ⟨hclose, hbare, ?_⟩
      rw [ofUnit, if_neg hne, hbase]
  obtain ⟨hclose, hbare, hunit⟩ := hunit
  have htext : (measure unit).text.toList = "Measure".toList ++ '(' :: (unit.toList ++ [')']) :=
    toList_enclosed "Measure(" unit ")"
  rw [htext]
  apply readsAs_raw (by decide) hclose hbare
  intro cs rest fuel hraw
  rw [readApplied_measure, readMeasure, hraw, ok_bind]
  simp only [String.ofList_toList, hunit]

lemma readsAs_entity {tag : String} (hclose : ')' ∉ tag.toList) (hbare : Bare tag.toList) :
    ReadsAs (entity tag).text.toList (entity tag) := by
  have htext : (entity tag).text.toList = "Entity".toList ++ '(' :: (tag.toList ++ [')']) :=
    toList_enclosed "Entity(" tag ")"
  rw [htext]
  apply readsAs_raw (by decide) hclose hbare
  intro cs rest fuel hraw
  rw [readApplied_entity, readEntity, hraw, ok_bind]
  simp only [String.ofList_toList]

lemma readsAs_enum {entries : List String} (hne : entries ≠ [])
    (h : ∀ entry ∈ entries, ')' ∉ entry.toList ∧ ',' ∉ entry.toList ∧ Bare entry.toList) :
    ReadsAs (enum entries).text.toList (enum entries) := by
  have hparts : ∀ part ∈ entries.map String.toList, ')' ∉ part ∧ ',' ∉ part ∧ Bare part := by
    intro part hpart
    obtain ⟨entry, hentry, rfl⟩ := List.mem_map.1 hpart
    exact h entry hentry
  let raw := [','].intercalate (entries.map String.toList)
  have htext : (enum entries).text.toList = "Enum".toList ++ '(' :: (raw ++ [')']) := by
    refine (toList_enclosed "Enum(" (String.intercalate "," entries) ")").trans ?_
    rw [String.toList_intercalate]
    rfl
  have hclose : ')' ∉ raw := by
    intro hmem
    rcases mem_intercalate hmem with hcomma | ⟨part, hpart, hin⟩
    · exact absurd hcomma (by decide)
    · exact (hparts part hpart).1 hin
  have hbare : Bare raw := bare_intercalate fun part hpart => (hparts part hpart).2.2
  have hsplit : splitCommas raw = entries.map String.toList :=
    splitCommas_intercalate (by simpa using hne) fun part hpart => (hparts part hpart).2.1
  have hentries : (entries.map String.toList).map (fun part => String.ofList (trim part)) =
      entries := by
    rw [List.map_map]
    conv_rhs => rw [← List.map_id entries]
    refine List.map_congr_left fun entry hentry => ?_
    rw [Function.comp_apply, Text.trim_of_bare (h entry hentry).2.2, String.ofList_toList, id]
  rw [htext]
  apply readsAs_raw (by decide) hclose hbare
  intro cs rest fuel hraw
  rw [readApplied_enum, readEnum, hraw, ok_bind]
  simp only [hsplit, hentries]

lemma readApplied_array (fuel : Nat) (cs : List Char) :
    readApplied (fuel + 1) "Array" cs = (do
      let cs ← readMark '(' cs
      let (elem, cs) ← readType fuel cs
      let cs ← readMark ')' cs
      .ok (array elem, cs)) := rfl

lemma readApplied_map (fuel : Nat) (cs : List Char) :
    readApplied (fuel + 1) "Map" cs = (do
      let cs ← readMark '(' cs
      let (key, cs) ← readType fuel cs
      let cs ← readMark ',' cs
      let (value, cs) ← readType fuel cs
      let cs ← readMark ')' cs
      .ok (map key value, cs)) := rfl

lemma readsAs_array {elem : Ty} (h : ReadsAs elem.text.toList elem) :
    ReadsAs (array elem).text.toList (array elem) := by
  have htext : (array elem).text.toList = "Array".toList ++ '(' :: (elem.text.toList ++ [')']) :=
    toList_enclosed "Array(" elem.text ")"
  rw [htext]
  refine readsAs_applied (by decide) (fun rest _ => endsName_mark (by decide) _) ?_
  intro rest fuel _ hfuel
  simp only [List.length_cons, List.length_append] at hfuel
  have helem : readType fuel (elem.text.toList ++ ')' :: rest) = .ok (elem, ')' :: rest) :=
    h.reads fuel (closes_cons (by decide) rest) (by omega)
  rw [readApplied_array, List.cons_append, readMark_cons (by decide), ok_bind, List.append_assoc,
    List.singleton_append, helem, ok_bind]
  simp only [readMark_cons (show isBlank ')' = false by decide), ok_bind]

lemma readsAs_map {key value : Ty} (hkey : ReadsAs key.text.toList key)
    (hvalue : ReadsAs value.text.toList value) :
    ReadsAs (map key value).text.toList (map key value) := by
  have htext : (map key value).text.toList =
      "Map".toList ++ '(' :: (key.text.toList ++ ',' :: (value.text.toList ++ [')'])) := by
    change ("Map(" ++ key.text ++ "," ++ value.text ++ ")").toList = _
    simp only [String.toList_append, List.append_assoc]
    rfl
  rw [htext]
  refine readsAs_applied (by decide) (fun rest _ => endsName_mark (by decide) _) ?_
  intro rest fuel _ hfuel
  simp only [List.length_cons, List.length_append] at hfuel
  have hfirst : readType fuel (key.text.toList ++ ',' :: (value.text.toList ++ ')' :: rest)) =
      .ok (key, ',' :: (value.text.toList ++ ')' :: rest)) :=
    hkey.reads fuel (closes_cons (by decide) _) (by omega)
  have hsecond : readType fuel (value.text.toList ++ ')' :: rest) = .ok (value, ')' :: rest) :=
    hvalue.reads fuel (closes_cons (by decide) rest) (by omega)
  rw [readApplied_map, List.cons_append, readMark_cons (by decide), ok_bind]
  simp only [List.append_assoc, List.cons_append, List.nil_append, hfirst, hsecond, ok_bind,
    readMark_cons (show isBlank ',' = false by decide),
    readMark_cons (show isBlank ')' = false by decide)]

lemma readApplied_tuple (fuel : Nat) (cs : List Char) :
    readApplied (fuel + 1) "Tuple" cs = match trimStart cs with
      | '(' :: rest => do
        let (items, rest) ← readItems fuel rest
        .ok (tuple items, rest)
      | cs => .ok (openTuple, cs) := rfl

lemma readApplied_object (fuel : Nat) (cs : List Char) :
    readApplied (fuel + 1) "Object" cs = match trimStart cs with
      | '{' :: rest => do
        let (fields, rest) ← readFields fuel rest
        .ok (object (Named.ofEntries fields), rest)
      | cs => .ok (openObject, cs) := rfl

lemma textItems_eq_map (items : List Ty) : textItems items = items.map text := by
  induction items with
  | nil => rfl
  | cons item rest ih => rw [textItems, ih, List.map_cons]

/-- The written form of a field. -/
def fieldText (field : String × Ty) : String := field.1 ++ ":" ++ field.2.text

lemma textFields_eq_map (fields : List (String × Ty)) :
    textFields fields = fields.map fieldText := by
  induction fields with
  | nil => rfl
  | cons field rest ih =>
    rw [textFields, ih, List.map_cons]
    rfl

/-- Texts between commas. -/
def joined (texts : List String) : List Char := (String.intercalate "," texts).toList

lemma joined_nil : joined [] = [] := rfl

lemma joined_singleton (text : String) : joined [text] = text.toList := by
  rw [joined, String.toList_intercalate]
  exact List.intercalate_singleton

lemma joined_cons_cons (first second : String) (rest : List String) :
    joined (first :: second :: rest) = first.toList ++ ',' :: joined (second :: rest) := by
  simp only [joined, String.toList_intercalate, List.map_cons, List.intercalate_cons_cons,
    List.append_assoc]
  rfl

/-- A list of items is read up to its closing parenthesis. -/
lemma readMoreItems_joined {items : List Ty} (fuel : Nat) (rest : List Char) (hne : items ≠ [])
    (h : ∀ item ∈ items, ReadsAs item.text.toList item)
    (hfuel : 3 * (joined (items.map text)).length + 1 ≤ fuel) :
    readMoreItems fuel (joined (items.map text) ++ ')' :: rest) = .ok (items, rest) := by
  induction items generalizing fuel with
  | nil => exact absurd rfl hne
  | cons item items ih =>
    obtain ⟨fuel, rfl⟩ : ∃ n, fuel = n + 1 := ⟨fuel - 1, by omega⟩
    have hitem := h item List.mem_cons_self
    cases items with
    | nil =>
      rw [List.map_cons, List.map_nil, joined_singleton] at hfuel ⊢
      have hclose : Closes (')' :: rest) := closes_cons (by decide) rest
      rw [readMoreItems, hitem.reads fuel hclose (by omega), ok_bind]
      simp only [hclose.trimStart]
    | cons next items =>
      rw [List.map_cons, List.map_cons, joined_cons_cons] at hfuel ⊢
      rw [List.length_append, List.length_cons] at hfuel
      rw [List.append_assoc, List.cons_append]
      have hmore : readMoreItems fuel (joined (next.text :: items.map text) ++ ')' :: rest) =
          .ok (next :: items, rest) := by
        apply ih fuel (List.cons_ne_nil _ _) fun item hmem => h item (List.mem_cons_of_mem _ hmem)
        rw [List.map_cons]
        omega
      have hclose : Closes (',' :: (joined (next.text :: items.map text) ++ ')' :: rest)) :=
        closes_cons (by decide) _
      rw [readMoreItems, hitem.reads fuel hclose (by omega), ok_bind]
      simp only [hclose.trimStart, hmore, ok_bind]

lemma joined_cons (first : String) (rest : List String) :
    ∃ after, joined (first :: rest) = first.toList ++ after := by
  cases rest with
  | nil => exact ⟨[], by rw [joined_singleton, List.append_nil]⟩
  | cons second rest => exact ⟨_, joined_cons_cons first second rest⟩

lemma readsAs_tuple {items : List Ty} (h : ∀ item ∈ items, ReadsAs item.text.toList item) :
    ReadsAs (tuple items).text.toList (tuple items) := by
  have htext : (tuple items).text.toList = '(' :: (joined (items.map text) ++ [')']) := by
    refine (toList_enclosed "(" (String.intercalate "," (textItems items)) ")").trans ?_
    rw [textItems_eq_map]
    rfl
  rw [htext]
  refine ⟨⟨'(', _, rfl, .inr rfl⟩, ?_⟩
  intro fuel rest _ hfuel
  simp only [List.length_cons, List.length_append] at hfuel
  obtain ⟨fuel, rfl⟩ : ∃ n, fuel = n + 2 := ⟨fuel - 2, by omega⟩
  have hopen : trimStart ('(' :: (joined (items.map text) ++ ')' :: rest)) =
      '(' :: (joined (items.map text) ++ ')' :: rest) :=
    StartsType.trimStart ⟨'(', _, rfl, .inr rfl⟩
  have hitems : readItems (fuel + 1) (joined (items.map text) ++ ')' :: rest) =
      .ok (items, rest) := by
    rw [readItems]
    cases items with
    | nil =>
      have hclose : Closes (')' :: rest) := closes_cons (by decide) rest
      simp only [List.map_nil, joined_nil, List.nil_append, hclose.trimStart]
    | cons first others =>
      -- The first item starts with no closing parenthesis.
      obtain ⟨after, hafter⟩ := joined_cons first.text (others.map text)
      have hmore := readMoreItems_joined fuel rest (List.cons_ne_nil _ _) h (by omega)
      rw [List.map_cons, hafter, List.append_assoc] at hmore ⊢
      have hstarts := (h first List.mem_cons_self).starts.append (after ++ ')' :: rest)
      rw [hstarts.trimStart]
      split
      · rename_i heq
        obtain ⟨c, cs, hcs, hc⟩ := hstarts
        rw [heq] at hcs
        cases hcs
        exact absurd hc (by decide)
      · exact hmore
  rw [readType, List.cons_append, List.append_assoc, List.singleton_append, hopen]
  simp only [hitems, ok_bind]

/-- The name of a field is read up to its colon. -/
lemma readName_fieldText {name : String}
    (hname : name ≠ "" ∧ ∀ c ∈ name.toList, isNameChar c = true) (field : Ty) (rest : List Char) :
    readName ((fieldText (name, field)).toList ++ rest) =
      .ok (name, ':' :: (field.text.toList ++ rest)) := by
  have htext : (fieldText (name, field)).toList = name.toList ++ ':' :: field.text.toList := by
    rw [fieldText, String.toList_append, String.toList_append, List.append_assoc]
    rfl
  rw [htext, List.append_assoc, List.cons_append, readName_append (by simpa using hname.1) hname.2
    (endsName_mark (by decide) _), String.ofList_toList]

lemma length_text_le_fieldText (name : String) (field : Ty) :
    field.text.toList.length ≤ (fieldText (name, field)).toList.length := by
  rw [fieldText, String.toList_append, List.length_append]
  exact Nat.le_add_left _ _

/-- The fields of an object are read up to its closing brace. -/
lemma readMoreFields_joined {fields : List (String × Ty)} (fuel : Nat) (rest : List Char)
    (hne : fields ≠ [])
    (hnames : ∀ field ∈ fields, field.1 ≠ "" ∧ ∀ c ∈ field.1.toList, isNameChar c = true)
    (h : ∀ field ∈ fields, ReadsAs field.2.text.toList field.2)
    (hfuel : 3 * (joined (fields.map fieldText)).length + 1 ≤ fuel) :
    readMoreFields fuel (joined (fields.map fieldText) ++ '}' :: rest) = .ok (fields, rest) := by
  induction fields generalizing fuel with
  | nil => exact absurd rfl hne
  | cons field fields ih =>
    obtain ⟨fuel, rfl⟩ : ∃ n, fuel = n + 1 := ⟨fuel - 1, by omega⟩
    obtain ⟨name, field⟩ := field
    have hname := hnames (name, field) List.mem_cons_self
    have hfield : ReadsAs field.text.toList field := h (name, field) List.mem_cons_self
    have hcolon := readMark_cons (show isBlank ':' = false by decide)
    have hlength := length_text_le_fieldText name field
    cases fields with
    | nil =>
      rw [List.map_cons, List.map_nil, joined_singleton] at hfuel ⊢
      have hclose : Closes ('}' :: rest) := closes_cons (by decide) rest
      have hread := hfield.reads fuel hclose (by omega)
      rw [readMoreFields, readName_fieldText hname, ok_bind]
      simp only [hcolon, hread, ok_bind, hclose.trimStart]
    | cons next fields =>
      rw [List.map_cons, List.map_cons, joined_cons_cons] at hfuel ⊢
      rw [List.length_append, List.length_cons] at hfuel
      rw [List.append_assoc, List.cons_append]
      have hmore : readMoreFields fuel
          (joined (fieldText next :: fields.map fieldText) ++ '}' :: rest) =
          .ok (next :: fields, rest) := by
        apply ih fuel (List.cons_ne_nil _ _)
          (fun field hmem => hnames field (List.mem_cons_of_mem _ hmem))
          (fun field hmem => h field (List.mem_cons_of_mem _ hmem))
        rw [List.map_cons]
        omega
      have hclose : Closes
          (',' :: (joined (fieldText next :: fields.map fieldText) ++ '}' :: rest)) :=
        closes_cons (by decide) _
      have hread := hfield.reads fuel hclose (by omega)
      rw [readMoreFields, readName_fieldText hname, ok_bind]
      simp only [hcolon, hread, ok_bind, hclose.trimStart, hmore]

lemma readsAs_object {fields : List (String × Ty)} (hordered : Named.Ordered fields)
    (hnames : ∀ field ∈ fields, field.1 ≠ "" ∧ ∀ c ∈ field.1.toList, isNameChar c = true)
    (h : ∀ field ∈ fields, ReadsAs field.2.text.toList field.2) :
    ReadsAs (object fields).text.toList (object fields) := by
  have htext : (object fields).text.toList =
      "Object".toList ++ '{' :: (joined (fields.map fieldText) ++ ['}']) := by
    have hparts := toList_enclosed "Object\x7b" (String.intercalate "," (textFields fields)) "\x7d"
    refine hparts.trans ?_
    rw [textFields_eq_map]
    rfl
  rw [htext]
  refine readsAs_applied (by decide) (fun rest _ => endsName_mark (by decide) _) ?_
  intro rest fuel _ hfuel
  simp only [List.length_cons, List.length_append] at hfuel
  obtain ⟨fuel, rfl⟩ : ∃ n, fuel = n + 1 := ⟨fuel - 1, by omega⟩
  have hopen : trimStart ('{' :: (joined (fields.map fieldText) ++ '}' :: rest)) =
      '{' :: (joined (fields.map fieldText) ++ '}' :: rest) := by
    apply Text.trimStart_of_head
    rintro c ⟨⟩
    decide
  have hfields : readFields (fuel + 1) (joined (fields.map fieldText) ++ '}' :: rest) =
      .ok (fields, rest) := by
    rw [readFields]
    cases fields with
    | nil =>
      have hclose : Closes ('}' :: rest) := closes_cons (by decide) rest
      simp only [List.map_nil, joined_nil, List.nil_append, hclose.trimStart]
    | cons first others =>
      -- The first name starts with no closing brace.
      obtain ⟨after, hafter⟩ := joined_cons (fieldText first) (others.map fieldText)
      have hmore := readMoreFields_joined fuel rest (List.cons_ne_nil _ _) hnames h (by omega)
      obtain ⟨hne, hchars⟩ := hnames first List.mem_cons_self
      have hchars' : first.1.toList ≠ [] := by
        simpa using hne
      obtain ⟨c, cs, hcs⟩ := List.exists_cons_of_ne_nil hchars'
      have hc : isNameChar c = true := hchars c (by rw [hcs]; exact List.mem_cons_self)
      rw [fieldText, String.toList_append, String.toList_append, hcs] at hafter
      rw [List.map_cons, fieldText, hafter] at hmore ⊢
      have hstarts : StartsType
          (c :: cs ++ ":".toList ++ first.2.text.toList ++ after ++ '}' :: rest) :=
        ⟨c, _, rfl, .inl hc⟩
      rw [hstarts.trimStart]
      split
      · rename_i heq
        cases heq
        exact absurd hc (by decide)
      · exact hmore
  rw [readApplied_object, List.cons_append, List.append_assoc, List.singleton_append, hopen]
  simp only [hfields, ok_bind, Named.ofEntries_of_ordered hordered]

lemma readsAs_open (head : String) {t : Ty} (hhead : head ∈ appliedNames)
    (h : ∀ rest fuel, Closes rest → readApplied (fuel + 1) head rest = .ok (t, rest)) :
    ReadsAs head.toList t := by
  rw [← List.append_nil head.toList]
  refine readsAs_applied hhead (fun rest hrest => hrest.endsName) ?_
  intro rest fuel hrest _
  exact h rest fuel hrest

lemma readsAs_openTuple : ReadsAs openTuple.text.toList openTuple := by
  apply readsAs_open "Tuple" (by decide)
  intro rest fuel hrest
  rw [readApplied_tuple, hrest.trimStart]
  split
  · exact absurd (hrest '(' rfl) (by decide)
  · rfl

lemma readsAs_openObject : ReadsAs openObject.text.toList openObject := by
  apply readsAs_open "Object" (by decide)
  intro rest fuel hrest
  rw [readApplied_object, hrest.trimStart]
  split
  · exact absurd (hrest '{' rfl) (by decide)
  · rfl

mutual

/-- Every type that can be written down is read back. -/
theorem readsAs_text : (t : Ty) → t.Writable → ReadsAs t.text.toList t
  | any, _ => readsAs_plain "Any" rfl (by decide) (List.all_eq_true.1 (by decide))
  | boolean, _ => readsAs_plain "Boolean" rfl (by decide) (List.all_eq_true.1 (by decide))
  | string, _ => readsAs_plain "String" rfl (by decide) (List.all_eq_true.1 (by decide))
  | number, _ => readsAs_plain "Number" rfl (by decide) (List.all_eq_true.1 (by decide))
  | time, _ => readsAs_plain "Time" rfl (by decide) (List.all_eq_true.1 (by decide))
  | date, _ => readsAs_plain "Date" rfl (by decide) (List.all_eq_true.1 (by decide))
  | location, _ =>
    readsAs_plain "Location" rfl (by decide) (List.all_eq_true.1 (by decide))
  | module, _ => readsAs_plain "Module" rfl (by decide) (List.all_eq_true.1 (by decide))
  | openTuple, _ => readsAs_openTuple
  | openObject, _ => readsAs_openObject
  | var name, h => absurd (mem_parts_self _) (h.printable.vars name)
  | entity tag, h =>
    have htag := h.printable.tags tag (mem_parts_self _)
    readsAs_entity htag.1 htag.2
  | measure unit, h => readsAs_measure (h.printable.units unit (mem_parts_self _))
  | enum entries, h =>
    have hentries := h.printable.entries entries (mem_parts_self _)
    readsAs_enum hentries.1 hentries.2
  | array elem, h => readsAs_array (readsAs_text elem (h.of_subset (List.subset_cons_self _ _)))
  | map key value, h =>
    readsAs_map
      (readsAs_text key (h.of_subset
        (List.subset_cons_of_subset _ (List.subset_append_left _ _))))
      (readsAs_text value (h.of_subset
        (List.subset_cons_of_subset _ (List.subset_append_right _ _))))
  | tuple items, h =>
    readsAs_tuple (readsAs_items items fun _ hitem =>
      h.of_subset (List.subset_cons_of_subset _ fun _ hpart =>
        mem_partsItems.2 ⟨_, hitem, hpart⟩))
  | object fields, h =>
    readsAs_object (h.ordered fields (mem_parts_self _))
      (fun _ hfield => h.printable.names fields (mem_parts_self _) _ (List.mem_map_of_mem hfield))
      (readsAs_fields fields fun _ hfield =>
        h.of_subset (List.subset_cons_of_subset _ fun _ hpart =>
          mem_partsFields.2 ⟨_, hfield, hpart⟩))

theorem readsAs_items : (items : List Ty) → (∀ item ∈ items, item.Writable) →
    ∀ item ∈ items, ReadsAs item.text.toList item
  | [], _, _, hmem => nomatch hmem
  | first :: rest, h, item, hmem => by
    rcases List.mem_cons.1 hmem with hfirst | hmem
    · rw [hfirst]
      exact readsAs_text first (h first List.mem_cons_self)
    · exact readsAs_items rest (fun item hitem => h item (List.mem_cons_of_mem _ hitem)) item hmem

theorem readsAs_fields : (fields : List (String × Ty)) → (∀ field ∈ fields, field.2.Writable) →
    ∀ field ∈ fields, ReadsAs field.2.text.toList field.2
  | [], _, _, hmem => nomatch hmem
  | (name, first) :: rest, h, field, hmem => by
    rcases List.mem_cons.1 hmem with hfirst | hmem
    · rw [hfirst]
      exact readsAs_text first (h (name, first) List.mem_cons_self)
    · exact readsAs_fields rest (fun field hfield => h field (List.mem_cons_of_mem _ hfield)) field
        hmem

end

lemma ofText_text {t : Ty} (h : t.Writable) : ofText t.text = .ok t := by
  have hread : readType (fuelFor t.text.toList) (t.text.toList ++ []) = .ok (t, []) :=
    (readsAs_text t h).reads _ closes_nil (Nat.le_add_right _ _)
  rw [List.append_nil] at hread
  rw [ofText, ofChars, hread]
  rfl

end Ty

end ChannelRules
