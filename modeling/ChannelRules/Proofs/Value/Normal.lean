import ChannelRules.Proofs.Value.Restored

/-!
# Literals in base units

Converting a literal to base units touches its measures only. It succeeds if all of them have units
of the table, and gives a literal that has base units everywhere, the same shape and the same type,
and that is not changed by converting it once more.
-/

namespace ChannelRules

namespace MeasureUnit

def symbols : List String := table.map symbol

lemma mem_symbols_iff {unit : String} : unit ∈ symbols ↔ ∃ known, find? unit = some known := by
  rw [← Option.isSome_iff_exists, find?, List.find?_isSome]
  simp [symbols]

lemma base_ne_empty {unit : MeasureUnit} (h : unit ∈ table) : unit.base ≠ "" := by
  intro hempty
  have hmem := base_mem_baseUnits unit h
  rw [hempty] at hmem
  revert hmem
  decide

end MeasureUnit

namespace Ty

/-- A unit of the table and its base unit make the same type of measure. -/
lemma ofUnit_base {unit : String} {known : MeasureUnit} (h : MeasureUnit.find? unit = some known) :
    ofUnit known.base = ofUnit unit := by
  have hunit : unit ≠ "" := by
    rintro rfl
    cases h
  have hbase := MeasureUnit.base_ne_empty (List.mem_of_find?_eq_some h)
  rw [ofUnit, ofUnit, if_neg hbase, if_neg hunit, MeasureUnit.base?, MeasureUnit.base?, h,
    MeasureUnit.find?_base h]
  rfl

end Ty

namespace Value

/-- Measures in a unit that is not among the given ones. -/
def isOutside (units : List String) : Value → Bool
  | measure _ unit => !units.contains unit
  | _ => false

mutual

/-- A value with one and the same measure in the place of every measure: what is left is its shape
apart from measures. -/
def outline : Value → Value
  | measure _ _ => measure 0 ""
  | array items => array (outlineItems items)
  | object fields => object (outlineFields fields)
  | v => v

def outlineItems : List Value → List Value
  | [] => []
  | item :: rest => outline item :: outlineItems rest

def outlineFields : List (String × Value) → List (String × Value)
  | [] => []
  | (name, value) :: rest => (name, outline value) :: outlineFields rest

end

lemma isOutside_measure {units : List String} {amount : Float} {unit : String} :
    (measure amount unit).isOutside units = false ↔ unit ∈ units := by
  rw [isOutside, Bool.not_eq_false', List.contains_iff_mem]

mutual

theorem normalize_ok_iff : (value : Value) →
    ((∃ normal, value.normalize = .ok normal) ↔
      value.holds (isOutside MeasureUnit.symbols) = false)
  | measure amount unit => by
    rw [holds, isOutside_measure, MeasureUnit.mem_symbols_iff, normalize]
    · cases MeasureUnit.find? unit <;> simp
    all_goals nofun
  | array items => by
    rw [holds, ← normalizeItems_ok_iff items]
    simp only [normalize, bind_eq_ok, pure_eq_ok]
    constructor
    · rintro ⟨_, normals, hitems, -⟩
      exact ⟨normals, hitems⟩
    · rintro ⟨normals, hitems⟩
      exact ⟨_, normals, hitems, rfl⟩
  | object fields => by
    rw [holds, ← normalizeFields_ok_iff fields]
    simp only [normalize, bind_eq_ok, pure_eq_ok]
    constructor
    · rintro ⟨_, normals, hfields, -⟩
      exact ⟨normals, hfields⟩
    · rintro ⟨normals, hfields⟩
      exact ⟨_, normals, hfields, rfl⟩
  | varRef _ | boolean _ | string _ | number _ | location _ _ _ | date _ | time _ _
  | entity _ _ _ | enum _ | feed _ => iff_of_true ⟨_, rfl⟩ rfl

theorem normalizeItems_ok_iff : (items : List Value) →
    ((∃ normals, normalizeItems items = .ok normals) ↔
      holdsItems (isOutside MeasureUnit.symbols) items = false)
  | [] => iff_of_true ⟨_, rfl⟩ rfl
  | item :: rest => by
    rw [holdsItems_cons_eq_false, ← normalize_ok_iff item, ← normalizeItems_ok_iff rest]
    simp only [normalizeItems, bind_eq_ok, pure_eq_ok]
    constructor
    · rintro ⟨_, normal, hitem, normals, hrest, -⟩
      exact ⟨⟨normal, hitem⟩, normals, hrest⟩
    · rintro ⟨⟨normal, hitem⟩, normals, hrest⟩
      exact ⟨_, normal, hitem, normals, hrest, rfl⟩

theorem normalizeFields_ok_iff : (fields : List (String × Value)) →
    ((∃ normals, normalizeFields fields = .ok normals) ↔
      holdsFields (isOutside MeasureUnit.symbols) fields = false)
  | [] => iff_of_true ⟨_, rfl⟩ rfl
  | (name, value) :: rest => by
    rw [holdsFields_cons_eq_false, ← normalize_ok_iff value, ← normalizeFields_ok_iff rest]
    simp only [normalizeFields, bind_eq_ok, pure_eq_ok]
    constructor
    · rintro ⟨_, normal, hvalue, normals, hrest, -⟩
      exact ⟨⟨normal, hvalue⟩, normals, hrest⟩
    · rintro ⟨⟨normal, hvalue⟩, normals, hrest⟩
      exact ⟨_, normal, hvalue, normals, hrest, rfl⟩

end

/-- A relation between literals that conversion to base units respects: each measure is related to
the converted one, all other single values to themselves, and composite values by their parts. -/
structure Converts (R : Value → Value → Prop) : Prop where
  measure : ∀ {amount : Float} {unit : String} {known : MeasureUnit},
    MeasureUnit.find? unit = some known →
      R (measure amount unit) (measure (known.conversion.toBase amount) known.base)
  single : ∀ {value : Value}, (∀ p, value.holds p = p value) → value.isMeasure = false →
    R value value
  array : ∀ {items normals : List Value}, List.Forall₂ R items normals →
    R (array items) (array normals)
  object : ∀ {fields normals : List (String × Value)},
    List.Forall₂ (fun x y => x.1 = y.1 ∧ R x.2 y.2) fields normals →
      R (object fields) (object normals)

section Converts

variable {R : Value → Value → Prop}

mutual

theorem converts_normalize (hR : Converts R) : (value : Value) → {normal : Value} →
    value.normalize = .ok normal → R value normal
  | measure amount unit, _, h => by
    rw [normalize] at h
    split at h
    · rename_i known hknown
      cases h
      exact hR.measure hknown
    · cases h
  | array items, _, h => by
    simp only [normalize, bind_eq_ok, pure_eq_ok] at h
    obtain ⟨normals, hitems, rfl⟩ := h
    exact hR.array (converts_normalizeItems hR items hitems)
  | object fields, _, h => by
    simp only [normalize, bind_eq_ok, pure_eq_ok] at h
    obtain ⟨normals, hfields, rfl⟩ := h
    exact hR.object (converts_normalizeFields hR fields hfields)
  | varRef _, _, h | boolean _, _, h | string _, _, h | number _, _, h | location _ _ _, _, h
  | date _, _, h | time _ _, _, h | entity _ _ _, _, h | enum _, _, h | feed _, _, h => by
    cases h
    exact hR.single (fun _ => rfl) rfl

theorem converts_normalizeItems (hR : Converts R) : (items : List Value) →
    {normals : List Value} → normalizeItems items = .ok normals → List.Forall₂ R items normals
  | [], _, h => by
    cases h
    exact .nil
  | item :: rest, _, h => by
    simp only [normalizeItems, bind_eq_ok, pure_eq_ok] at h
    obtain ⟨normal, hitem, normals, hrest, rfl⟩ := h
    exact .cons (converts_normalize hR item hitem) (converts_normalizeItems hR rest hrest)

theorem converts_normalizeFields (hR : Converts R) : (fields : List (String × Value)) →
    {normals : List (String × Value)} → normalizeFields fields = .ok normals →
      List.Forall₂ (fun x y => x.1 = y.1 ∧ R x.2 y.2) fields normals
  | [], _, h => by
    cases h
    exact .nil
  | (name, value) :: rest, _, h => by
    simp only [normalizeFields, bind_eq_ok, pure_eq_ok] at h
    obtain ⟨normal, hvalue, normals, hrest, rfl⟩ := h
    exact .cons ⟨rfl, converts_normalize hR value hvalue⟩ (converts_normalizeFields hR rest hrest)

end

end Converts

lemma converts_isOutside :
    Converts fun _ normal => normal.holds (isOutside MeasureUnit.baseUnits) = false where
  measure := by
    intro amount unit known hknown
    rw [holds, isOutside_measure]
    · exact MeasureUnit.base_mem_baseUnits known (List.mem_of_find?_eq_some hknown)
    all_goals nofun
  single := by
    intro value hsingle hmeasure
    rw [hsingle]
    cases value with
    | measure => cases hmeasure
    | _ => rfl
  array := by
    intro items normals h
    rw [holds]
    induction h with
    | nil => rfl
    | cons hitem _ ih => exact holdsItems_cons_eq_false.2 ⟨hitem, ih⟩
  object := by
    intro fields normals h
    rw [holds]
    induction h with
    | nil => rfl
    | cons hfield _ ih => exact holdsFields_cons_eq_false.2 ⟨hfield.2, ih⟩

lemma converts_outline : Converts fun value normal => normal.outline = value.outline where
  measure := fun _ => rfl
  single := fun _ _ => rfl
  array := by
    intro items normals h
    rw [outline, outline, array.injEq]
    induction h with
    | nil => rfl
    | cons hitem _ ih => rw [outlineItems, outlineItems, hitem, ih]
  object := by
    intro fields normals h
    rw [outline, outline, object.injEq]
    induction h with
    | nil => rfl
    | @cons field normal fields normals hfield _ ih =>
      obtain ⟨hname, hvalue⟩ := hfield
      rw [outlineFields, outlineFields, hname, hvalue, ih]

/-- The types of the items are found one after the other, and each stays what it was. -/
lemma converts_typeOf : Converts fun value normal => normal.typeOf = value.typeOf where
  measure := by
    intro amount unit known hknown
    rw [typeOf, typeOf, Ty.ofUnit_base hknown]
  single := fun _ _ => rfl
  array := by
    intro items normals h
    have hitems : ∀ elem, typeOfItems elem normals = typeOfItems elem items := by
      induction h with
      | nil => exact fun _ => rfl
      | cons hitem _ ih =>
        intro elem
        simp only [typeOfItems, hitem, ih]
    rw [typeOf, typeOf, hitems]
  object := by
    intro fields normals h
    have hfields : typeOfFields normals = typeOfFields fields := by
      induction h with
      | nil => rfl
      | @cons field normal fields normals hfield _ ih =>
        obtain ⟨hname, hvalue⟩ := hfield
        rw [typeOfFields, typeOfFields, hname, hvalue, ih]
    rw [typeOf, typeOf, hfields]

/-- A literal can be converted to base units exactly if all measures inside it have units of the
table. The result is not changed by a second conversion, it has base units everywhere, it has the
shape of the literal apart from measures, and its type is found in the same way: the same type or
the same error, with the same notices. -/
theorem normalize_baseUnits (value : Value) :
    ((∃ normal, value.normalize = .ok normal) ↔
      value.holds (isOutside MeasureUnit.symbols) = false) ∧
    ∀ normal, value.normalize = .ok normal →
      normal.normalize = .ok normal ∧
        normal.holds (isOutside MeasureUnit.baseUnits) = false ∧
        normal.outline = value.outline ∧ normal.typeOf = value.typeOf :=
  ⟨normalize_ok_iff value, fun _ h => ⟨normalize_normalize value h,
    converts_normalize converts_isOutside value h, converts_normalize converts_outline value h,
    converts_normalize converts_typeOf value h⟩⟩

/-- A trip with its time, its stages in two units of length, and its breaks. -/
def trip : Value :=
  object [("breaks", array []), ("stages", array [measure 2 "km", measure 50 "m"]),
    ("time", measure 3 "h")]

/-- The same trip in metres and milliseconds. -/
def tripInBaseUnits : Value :=
  object [("breaks", array []), ("stages", array [measure 2000 "m", measure 50 "m"]),
    ("time", measure 10800000 "ms")]

theorem normalize_baseUnits_trip :
    trip.holds (isOutside MeasureUnit.symbols) = false ∧
      trip.normalize = .ok tripInBaseUnits ∧
      tripInBaseUnits.normalize = .ok tripInBaseUnits ∧
      tripInBaseUnits.holds (isOutside MeasureUnit.baseUnits) = false ∧
      tripInBaseUnits.outline = trip.outline ∧ tripInBaseUnits.typeOf = trip.typeOf ∧
      trip.typeOf.result = .ok (.object [("breaks", .array .any), ("stages", .array (.measure "m")),
        ("time", .measure "ms")]) := by
  have hlong : (2 : Float) * 1000.0 = 2000 := by decide +kernel
  have hshort : (50 : Float) * 1.0 = 50 := Binary64.mul_one 50
  have htime : (3 : Float) * 3600000.0 = 10800000 := by decide +kernel
  have hnormal : trip.normalize = .ok tripInBaseUnits := by
    rw [tripInBaseUnits, ← hlong, ← hshort, ← htime]
    rfl
  have hknown := (normalize_baseUnits trip).1.1 ⟨_, hnormal⟩
  obtain ⟨hfixed, hbased, hshape, htype⟩ := (normalize_baseUnits trip).2 _ hnormal
  exact ⟨hknown, hnormal, hfixed, hbased, hshape, htype, rfl⟩

end Value

end ChannelRules
