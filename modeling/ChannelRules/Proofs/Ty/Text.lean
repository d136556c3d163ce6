import ChannelRules.Proofs.Ty.Written

/-!
# Types as text and back

Every type that is read can be written down: its units are base units, its tags and entries are raw
text without the marks that end them, and its field names are names. Together with the way back this
makes writing and reading inverse to each other.
-/

namespace ChannelRules

namespace Ty

open Text (Bare)

/-- What a type asks of its own texts so that it can be written down. -/
def WritableNode : Ty → Prop
  | var _ => False
  | measure unit => unit = "" ∨ unit ∈ MeasureUnit.table.map MeasureUnit.base
  | entity tag => ')' ∉ tag.toList ∧ Bare tag.toList
  | enum entries => entries ≠ [] ∧
      ∀ entry ∈ entries, ')' ∉ entry.toList ∧ ',' ∉ entry.toList ∧ Bare entry.toList
  | object fields => Named.Ordered fields ∧
      ∀ name ∈ Named.names fields, name ≠ "" ∧ ∀ c ∈ name.toList, isNameChar c = true
  | _ => True

lemma writable_of_nodes {t : Ty} (h : ∀ part ∈ t.parts, WritableNode part) : t.Writable where
  printable :=
    { vars := fun _ hmem => h _ hmem
      units := fun _ hmem => h _ hmem
      tags := fun _ hmem => h _ hmem
      entries := fun _ hmem => h _ hmem
      names := fun _ hmem => (h _ hmem).2 }
  ordered := fun _ hmem => (h _ hmem).1

lemma plainNames_writable {name : String} {t : Ty} (h : plainNames.lookup name = some t) :
    ∀ part ∈ t.parts, WritableNode part := by
  have hmem : (name, t) ∈ plainNames := by
    obtain ⟨before, after, hsplit, -⟩ := List.lookup_eq_some_iff.1 h
    rw [hsplit]
    exact List.mem_append_right _ List.mem_cons_self
  simp only [plainNames, List.mem_cons, Prod.mk.injEq, List.not_mem_nil, or_false] at hmem
  intro part hpart
  rcases hmem with ⟨-, rfl⟩ | ⟨-, rfl⟩ | ⟨-, rfl⟩ | ⟨-, rfl⟩ | ⟨-, rfl⟩ | ⟨-, rfl⟩ | ⟨-, rfl⟩ |
    ⟨-, rfl⟩ | ⟨-, rfl⟩ | ⟨-, rfl⟩ | ⟨-, rfl⟩ | ⟨-, rfl⟩ | ⟨-, rfl⟩ | ⟨-, rfl⟩ | ⟨-, rfl⟩ <;>
    cases List.mem_singleton.1 hpart
  all_goals first | exact True.intro | exact ⟨by decide, by decide⟩

lemma readMeasure_writable {cs rest : List Char} {t : Ty} (h : readMeasure cs = .ok (t, rest)) :
    ∀ part ∈ t.parts, WritableNode part := by
  rw [readMeasure, bind_eq_ok] at h
  obtain ⟨⟨raw, after⟩, -, h⟩ := h
  simp only at h
  split at h
  · rename_i ty hunit
    cases h
    unfold ofUnit at hunit
    split at hunit
    · cases hunit
      intro part hpart
      rw [List.mem_singleton.1 hpart]
      exact .inl rfl
    · split at hunit
      · rename_i base hbase
        cases hunit
        intro part hpart
        rw [List.mem_singleton.1 hpart]
        rw [MeasureUnit.base?, Option.map_eq_some_iff] at hbase
        obtain ⟨unit, hfound, rfl⟩ := hbase
        exact .inr (List.mem_map_of_mem (List.mem_of_find?_eq_some hfound))
      · cases hunit
  · cases h

lemma readEntity_writable {cs rest : List Char} {t : Ty} (h : readEntity cs = .ok (t, rest)) :
    ∀ part ∈ t.parts, WritableNode part := by
  rw [readEntity, bind_eq_ok] at h
  obtain ⟨⟨raw, after⟩, hraw, h⟩ := h
  cases h
  intro part hpart
  rw [List.mem_singleton.1 hpart, WritableNode, String.toList_ofList]
  exact readRaw_eq_ok hraw

lemma readEnum_writable {cs rest : List Char} {t : Ty} (h : readEnum cs = .ok (t, rest)) :
    ∀ part ∈ t.parts, WritableNode part := by
  rw [readEnum, bind_eq_ok] at h
  obtain ⟨⟨raw, after⟩, hraw, h⟩ := h
  cases h
  intro part hpart
  rw [List.mem_singleton.1 hpart]
  refine ⟨by simpa using splitCommas_ne_nil raw, ?_⟩
  intro entry hentry
  obtain ⟨piece, hpiece, rfl⟩ := List.mem_map.1 hentry
  obtain ⟨hcomma, hsub⟩ := mem_splitCommas hpiece
  rw [String.toList_ofList]
  refine ⟨fun hmem => ?_, fun hmem => ?_, Text.bare_trim piece⟩
  · exact (readRaw_eq_ok hraw).1 (hsub (Text.mem_of_mem_trim hmem))
  · exact hcomma (Text.mem_of_mem_trim hmem)

lemma writableNode_array {elem : Ty} (h : ∀ part ∈ elem.parts, WritableNode part) :
    ∀ part ∈ (array elem).parts, WritableNode part :=
  List.forall_mem_cons.2 ⟨trivial, h⟩

lemma writableNode_map {key value : Ty} (hkey : ∀ part ∈ key.parts, WritableNode part)
    (hvalue : ∀ part ∈ value.parts, WritableNode part) :
    ∀ part ∈ (map key value).parts, WritableNode part :=
  List.forall_mem_cons.2 ⟨trivial, List.forall_mem_append.2 ⟨hkey, hvalue⟩⟩

lemma writableNode_tuple {items : List Ty}
    (h : ∀ item ∈ items, ∀ part ∈ item.parts, WritableNode part) :
    ∀ part ∈ (tuple items).parts, WritableNode part := by
  refine List.forall_mem_cons.2 ⟨trivial, ?_⟩
  intro part hpart
  obtain ⟨item, hitem, hpart⟩ := mem_partsItems.1 hpart
  exact h item hitem part hpart

lemma writableNode_object {fields : List (String × Ty)}
    (h : ∀ field ∈ fields, (field.1 ≠ "" ∧ ∀ c ∈ field.1.toList, isNameChar c = true) ∧
      ∀ part ∈ field.2.parts, WritableNode part) :
    ∀ part ∈ (object (Named.ofEntries fields)).parts, WritableNode part := by
  refine List.forall_mem_cons.2 ⟨⟨Named.ordered_ofEntries fields, ?_⟩, ?_⟩
  · intro name hname
    obtain ⟨field, hfield, rfl⟩ := List.mem_map.1 hname
    exact (h field (Named.mem_ofEntries hfield)).1
  · intro part hpart
    obtain ⟨field, hfield, hpart⟩ := mem_partsFields.1 hpart
    exact (h field (Named.mem_ofEntries hfield)).2 part hpart

/-- What the readers give with some fuel can be written down. -/
structure ReadsWritable (fuel : Nat) : Prop where
  type : ∀ {cs t rest}, readType fuel cs = .ok (t, rest) → ∀ part ∈ t.parts, WritableNode part
  applied : ∀ {head cs t rest}, readApplied fuel head cs = .ok (t, rest) →
    ∀ part ∈ t.parts, WritableNode part
  items : ∀ {cs items rest}, readItems fuel cs = .ok (items, rest) →
    ∀ item ∈ items, ∀ part ∈ item.parts, WritableNode part
  moreItems : ∀ {cs items rest}, readMoreItems fuel cs = .ok (items, rest) →
    ∀ item ∈ items, ∀ part ∈ item.parts, WritableNode part
  fields : ∀ {cs fields rest}, readFields fuel cs = .ok (fields, rest) →
    ∀ field ∈ fields, (field.1 ≠ "" ∧ ∀ c ∈ field.1.toList, isNameChar c = true) ∧
      ∀ part ∈ field.2.parts, WritableNode part
  moreFields : ∀ {cs fields rest}, readMoreFields fuel cs = .ok (fields, rest) →
    ∀ field ∈ fields, (field.1 ≠ "" ∧ ∀ c ∈ field.1.toList, isNameChar c = true) ∧
      ∀ part ∈ field.2.parts, WritableNode part

section Step

variable {fuel : Nat} (ih : ReadsWritable fuel) {cs rest : List Char}
include ih

lemma readType_writable {t : Ty} (h : readType (fuel + 1) cs = .ok (t, rest)) :
    ∀ part ∈ t.parts, WritableNode part := by
  rw [readType] at h
  split at h
  · obtain ⟨⟨items, after⟩, hitems, h⟩ := bind_eq_ok.1 h
    cases h
    exact writableNode_tuple (ih.items hitems)
  · obtain ⟨⟨head, after⟩, -, h⟩ := bind_eq_ok.1 h
    simp only at h
    split at h
    · rename_i ty hplain
      cases h
      exact plainNames_writable hplain
    · exact ih.applied h

lemma readApplied_writable {head : String} {t : Ty}
    (h : readApplied (fuel + 1) head cs = .ok (t, rest)) :
    ∀ part ∈ t.parts, WritableNode part := by
  rw [readApplied] at h
  split at h
  · exact readMeasure_writable h
  split at h
  · exact readEntity_writable h
  split at h
  · exact readEnum_writable h
  split at h
  · simp only [bind_eq_ok] at h
    obtain ⟨_, -, ⟨elem, _⟩, helem, _, -, h⟩ := h
    cases h
    exact writableNode_array (ih.type helem)
  split at h
  · simp only [bind_eq_ok] at h
    obtain ⟨_, -, ⟨key, _⟩, hkey, _, -, ⟨value, _⟩, hvalue, _, -, h⟩ := h
    cases h
    exact writableNode_map (ih.type hkey) (ih.type hvalue)
  split at h
  · split at h
    · obtain ⟨⟨items, _⟩, hitems, h⟩ := bind_eq_ok.1 h
      cases h
      exact writableNode_tuple (ih.items hitems)
    · cases h
      exact List.forall_mem_singleton.2 trivial
  split at h
  · split at h
    · obtain ⟨⟨fields, _⟩, hfields, h⟩ := bind_eq_ok.1 h
      cases h
      exact writableNode_object (ih.fields hfields)
    · cases h
      exact List.forall_mem_singleton.2 trivial
  · cases h

lemma readMoreItems_writable {items : List Ty}
    (h : readMoreItems (fuel + 1) cs = .ok (items, rest)) :
    ∀ item ∈ items, ∀ part ∈ item.parts, WritableNode part := by
  rw [readMoreItems] at h
  obtain ⟨⟨item, after⟩, hitem, h⟩ := bind_eq_ok.1 h
  simp only at h
  split at h
  · obtain ⟨⟨more, _⟩, hmore, h⟩ := bind_eq_ok.1 h
    cases h
    exact List.forall_mem_cons.2 ⟨ih.type hitem, ih.moreItems hmore⟩
  · cases h
    exact List.forall_mem_singleton.2 (ih.type hitem)
  · cases h

lemma readMoreFields_writable {fields : List (String × Ty)}
    (h : readMoreFields (fuel + 1) cs = .ok (fields, rest)) :
    ∀ field ∈ fields, (field.1 ≠ "" ∧ ∀ c ∈ field.1.toList, isNameChar c = true) ∧
      ∀ part ∈ field.2.parts, WritableNode part := by
  rw [readMoreFields] at h
  simp only [bind_eq_ok] at h
  obtain ⟨⟨name, _⟩, hname, _, -, ⟨field, after⟩, hfield, h⟩ := h
  have hfirst := And.intro (readName_eq_ok hname) (ih.type hfield)
  simp only at h
  split at h
  · obtain ⟨⟨more, _⟩, hmore, h⟩ := bind_eq_ok.1 h
    cases h
    exact List.forall_mem_cons.2 ⟨hfirst, ih.moreFields hmore⟩
  · cases h
    exact List.forall_mem_singleton.2 hfirst
  · cases h

end Step

theorem readsWritable (fuel : Nat) : ReadsWritable fuel := by
  induction fuel with
  | zero =>
    refine ⟨fun h => ?_, fun h => ?_, fun h => ?_, fun h => ?_, fun h => ?_, fun h => ?_⟩ <;> cases h
  | succ fuel ih =>
    refine ⟨readType_writable ih, readApplied_writable ih, ?_, readMoreItems_writable ih, ?_,
      readMoreFields_writable ih⟩
    · intro cs items rest h
      rw [readItems] at h
      split at h
      · cases h
        exact fun _ hitem => (List.not_mem_nil hitem).elim
      · exact ih.moreItems h
    · intro cs fields rest h
      rw [readFields] at h
      split at h
      · cases h
        exact fun _ hfield => (List.not_mem_nil hfield).elim
      · exact ih.moreFields h

lemma writable_of_ofText {s : String} {t : Ty} (h : ofText s = .ok t) : t.Writable := by
  unfold ofText at h
  split at h
  · rename_i ty hchars
    cases h
    rw [ofChars, bind_eq_ok] at hchars
    obtain ⟨⟨ty, rest⟩, hread, hchars⟩ := hchars
    simp only at hchars
    split at hchars
    · cases hchars
      exact writable_of_nodes ((readsWritable _).type hread)
    · cases hchars
  · cases h
  · cases h

/-- Writing types down and reading them are inverse to each other. Each printable type is read back
from its text, and each type that is read from some text is printable, and so read back as well. -/
theorem ofText_text_inverse :
    (∀ t : Ty, t.Printable → t.FieldsOrdered → ofText t.text = .ok t) ∧
    ∀ (s : String) (t : Ty), ofText s = .ok t →
      t.Printable ∧ t.FieldsOrdered ∧ ofText t.text = .ok t := by
  refine ⟨fun t hprintable hordered => ofText_text ⟨hprintable, hordered⟩, fun s t h => ?_⟩
  have hwritable := writable_of_ofText h
  exact ⟨hwritable.printable, hwritable.ordered, ofText_text hwritable⟩

theorem ofText_text_inverse_spaced :
    ofText (map (entity "tt:url") (enum ["", "on"])).text =
      .ok (map (entity "tt:url") (enum ["", "on"])) ∧
    ofText " Object\x7b b : Array(Enum(x , y)), a:Map( URL,Measure(km)), c: (Tuple, ()) \x7d" =
      .ok (object [("a", map (entity "tt:url") (measure "m")), ("b", array (enum ["x", "y"])),
        ("c", tuple [openTuple, tuple []])]) ∧
    ofText "Object\x7ba:Map(Entity(tt:url),Measure(m)),b:Array(Enum(x,y)),c:(Tuple,())\x7d" =
      .ok (object [("a", map (entity "tt:url") (measure "m")), ("b", array (enum ["x", "y"])),
        ("c", tuple [openTuple, tuple []])]) := by
  have hnodes : ∀ part ∈ (map (entity "tt:url") (enum ["", "on"])).parts, WritableNode part :=
    writableNode_map (List.forall_mem_singleton.2 ⟨by decide, by decide⟩)
      (List.forall_mem_singleton.2 ⟨by decide, by decide⟩)
  have hwritable := writable_of_nodes hnodes
  have hread : ofText
      " Object\x7b b : Array(Enum(x , y)), a:Map( URL,Measure(km)), c: (Tuple, ()) \x7d" =
      .ok (object [("a", map (entity "tt:url") (measure "m")), ("b", array (enum ["x", "y"])),
        ("c", tuple [openTuple, tuple []])]) := by
    decide +kernel
  refine ⟨ofText_text_inverse.1 _ hwritable.printable hwritable.ordered, hread, ?_⟩
  exact (ofText_text_inverse.2 _ _ hread).2.2

end Ty

end ChannelRules
