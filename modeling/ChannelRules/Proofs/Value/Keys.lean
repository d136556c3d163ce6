import ChannelRules.Builtin.Native
import ChannelRules.Pattern.Machine
import ChannelRules.Proofs.Calendar.Text
import ChannelRules.Proofs.Decimal.Text
import ChannelRules.Proofs.Named
import ChannelRules.Proofs.Ty.Order
import ChannelRules.Proofs.Value.Literal

/-!
# Keys of maps

A map finds an entry by the text of its key. It is a finite map keyed by the equality that programs
see exactly on those keys that are alike when they have the same text. Texts, truth values, numbers,
amounts in base units, dates and times are such keys: their texts differ when they do. Locations are
not: a place is shown by its name, so a named place and the same place without a name are alike but
have different texts.
-/

namespace ChannelRules

namespace Ty

/-- The types whose values are texts. -/
def isTextual : Ty → Bool
  | string | entity _ | enum _ => true
  | _ => false

/-- The types of single values, with a known unit. -/
def isScalar : Ty → Bool
  | boolean | string | number | entity _ | enum _ | time | date => true
  | measure unit => unit != ""
  | _ => false

variable {a b c : Ty}

/-- A scalar type that holds no texts is above and below itself only. -/
lemma eq_of_scalar_le (ha : a.isScalar = true) (htext : a.isTextual = false) (h : a ≤ c) : a = c := by
  cases h with
  | refl => rfl
  | measure => cases ha
  | _ => simp_all [isScalar, isTextual]

lemma textual_of_le (ha : a.isTextual = true) (h : a ≤ c) : c.isTextual = true := by
  cases h <;> simp_all [isTextual]

/-- Scalar types that agree are equal, or all their values are texts. -/
lemma scalar_cases (ha : a.isScalar = true) (hb : b.isScalar = true) (hac : a ≤ c) (hbc : b ≤ c) :
    a.isTextual = true ∧ b.isTextual = true ∨ a = b := by
  cases hat : a.isTextual <;> cases hbt : b.isTextual
  · exact Or.inr ((eq_of_scalar_le ha hat hac).trans (eq_of_scalar_le hb hbt hbc).symm)
  · have hc := textual_of_le hbt hbc
    rw [← eq_of_scalar_le ha hat hac, hat] at hc
    cases hc
  · have hc := textual_of_le hat hac
    rw [← eq_of_scalar_le hb hbt hbc, hbt] at hc
    cases hc
  · exact Or.inl ⟨rfl, rfl⟩

/-- No type is above an enumeration and an entity. -/
lemma not_enum_le_of_entity_le {entries : List String} {tag : String} (hentity : entity tag ≤ c) :
    ¬ enum entries ≤ c := by
  intro henum
  cases hentity
  cases henum

end Ty

namespace Value

/-- A value whose text tells it from all values of its type that are not alike: amounts are no NaNs
and in a base unit, dates are well-formed. -/
def Exact : Value → Prop
  | boolean _ | string _ | entity _ _ _ | enum _ | time _ _ => True
  | number x => x.isNaN = false
  | measure x unit => x.isNaN = false ∧ MeasureUnit.base? unit = some unit
  | date t => t.WellFormed
  | varRef _ | location _ _ _ | object _ | array _ | feed _ => False

/-- The exact values with their types. -/
inductive ExactAt : Value → Ty → Prop
  | boolean (b : Bool) : ExactAt (boolean b) .boolean
  | string (s : String) : ExactAt (string s) .string
  | entity (value tag : String) (display : Option String) :
      ExactAt (entity value tag display) (.entity tag)
  | enum (entry : String) : ExactAt (enum entry) (.enum [entry])
  | number {x : Float} (hx : x.isNaN = false) : ExactAt (number x) .number
  | measure {x : Float} {unit : String} (hx : x.isNaN = false) (hunit : unit ≠ "") :
      ExactAt (measure x unit) (.measure unit)
  | date {t : Calendar.Instant} (ht : t.WellFormed) : ExactAt (date t) .date
  | time (hour minute : ℕ) : ExactAt (time hour minute) .time

lemma Exact.exactAt {v : Value} (hv : v.Exact) {ty : Ty} (hty : v.typeOf.result = .ok ty) :
    ExactAt v ty := by
  cases v with
  | measure x unit =>
    obtain ⟨hx, hbase⟩ := hv
    have hne : unit ≠ "" := by
      rintro rfl
      cases hbase
    have hunit : Ty.ofUnit unit = .ok (.measure unit) := by
      unfold Ty.ofUnit
      rw [if_neg hne, hbase]
    obtain rfl := Except.ok.inj (hunit.symm.trans hty)
    exact .measure hx hne
  | varRef | location | object | array | feed => cases hv
  | boolean b => cases hty; exact .boolean b
  | string s => cases hty; exact .string s
  | number x => cases hty; exact .number hv
  | date t => cases hty; exact .date hv
  | time hour minute => cases hty; exact .time hour minute
  | entity value tag display => cases hty; exact .entity value tag display
  | enum entry => cases hty; exact .enum entry

variable {k₁ k₂ : Value} {a b c : Ty}

lemma ExactAt.isScalar {v : Value} {ty : Ty} (h : ExactAt v ty) : ty.isScalar = true := by
  cases h with
  | measure _ hunit => simpa [Ty.isScalar] using hunit
  | _ => rfl

/-- Texts are alike when they are the same, except that no entity is an enumeration entry. -/
lemma ExactAt.alike_iff_of_texts (h₁ : ExactAt k₁ a) (h₂ : ExactAt k₂ b) (ha : a.isTextual = true)
    (hb : b.isTextual = true) (hac : a ≤ c) (hbc : b ≤ c) :
    k₁.alike k₂ = true ↔ k₁.mapKey = k₂.mapKey := by
  cases h₁ <;> cases ha <;> cases h₂ <;> cases hb
  case entity.refl.enum.refl => exact absurd hbc (Ty.not_enum_le_of_entity_le hac)
  case enum.refl.entity.refl => exact absurd hac (Ty.not_enum_le_of_entity_le hbc)
  all_goals simp [alike, sameAmount, asNumber, same, mapKey, asText]

lemma alike_boolean (x y : Bool) :
    (boolean x).alike (boolean y) = true ↔ (boolean x).mapKey = (boolean y).mapKey := by
  cases x <;> cases y <;> decide

lemma alike_number {x y : Float} (hx : x.isNaN = false) (hy : y.isNaN = false) :
    (number x).alike (number y) = true ↔ (number x).mapKey = (number y).mapKey :=
  (Decimal.amount_eq_iff hx hy).symm

lemma alike_measure {x y : Float} (hx : x.isNaN = false) (hy : y.isNaN = false) (unit : String) :
    (measure x unit).alike (measure y unit) = true ↔
      (measure x unit).mapKey = (measure y unit).mapKey := by
  refine (Decimal.amount_eq_iff hx hy).symm.trans ?_
  show _ ↔ Decimal.amount x ++ unit = Decimal.amount y ++ unit
  rw [← String.toList_inj, ← String.toList_inj, String.toList_append, String.toList_append,
    List.append_left_inj]

lemma alike_date {t u : Calendar.Instant} (ht : t.WellFormed) (hu : u.WellFormed) :
    (date t).alike (date u) = true ↔ (date t).mapKey = (date u).mapKey := by
  show (t == u) = true ↔ t.offsetText = u.offsetText
  rw [beq_iff_eq]
  exact ⟨congrArg _, Calendar.Instant.offsetText_inj ht hu⟩

lemma alike_time (h m h' m' : ℕ) :
    (time h m).alike (time h' m') = true ↔ (time h m).mapKey = (time h' m').mapKey := by
  show (h == h' && m == m') = true ↔ (time h m).text = (time h' m').text
  rw [Bool.and_eq_true, beq_iff_eq, beq_iff_eq, text, text]
  constructor
  · rintro ⟨rfl, rfl⟩
    rfl
  · exact Calendar.clockText_inj

/-- Values of one type that holds no texts are alike when they are shown alike. -/
lemma ExactAt.alike_iff_of_type (h₁ : ExactAt k₁ a) (h₂ : ExactAt k₂ a) :
    a.isTextual = true ∨ (k₁.alike k₂ = true ↔ k₁.mapKey = k₂.mapKey) := by
  cases h₁ with
  | boolean x => cases h₂ with | boolean y => exact Or.inr (alike_boolean x y)
  | number hx => cases h₂ with | number hy => exact Or.inr (alike_number hx hy)
  | measure hx => cases h₂ with | measure hy => exact Or.inr (alike_measure hx hy _)
  | date ht => cases h₂ with | date hu => exact Or.inr (alike_date ht hu)
  | time h m => cases h₂ with | time h' m' => exact Or.inr (alike_time h m h' m')
  | string | entity | enum => exact Or.inl rfl

/-- Exact values whose types agree are alike exactly if they have the same key. -/
theorem alike_iff_mapKey (h₁ : k₁.Exact) (h₂ : k₂.Exact) (hty₁ : k₁.typeOf.result = .ok a)
    (hty₂ : k₂.typeOf.result = .ok b) {s : Bindings} (hunify : Ty.unify a b .empty = .ok c s) :
    k₁.alike k₂ = true ↔ k₁.mapKey = k₂.mapKey := by
  have hat₁ := h₁.exactAt hty₁
  have hat₂ := h₂.exactAt hty₂
  obtain ⟨hac, hbc, -⟩ := Ty.isLUB_pair_iff.1
    (Ty.unifyWith_joins _ (hasVars_typeOf k₁ hty₁) (hasVars_typeOf k₂ hty₂) hunify)
  rcases Ty.scalar_cases hat₁.isScalar hat₂.isScalar hac hbc with ⟨ha, hb⟩ | rfl
  · exact hat₁.alike_iff_of_texts hat₂ ha hb hac hbc
  · rcases hat₁.alike_iff_of_type hat₂ with ha | h
    · exact hat₁.alike_iff_of_texts hat₂ ha ha hac hbc
    · exact h

/-- What a map has under a key. -/
def found (entries : Named Value) (k : Value) : Except RuntimeError Value :=
  match Named.get? entries k.mapKey with
  | some v => .ok v
  | none => .error (.missingProperty k.mapKey)

lemma found_insert (entries : Named Value) (k₁ k₂ v : Value) :
    found (Named.insert entries k₁.mapKey v) k₂ =
      if k₁.mapKey = k₂.mapKey then .ok v else found entries k₂ := by
  unfold found
  split_ifs with hkey
  · rw [hkey, Named.get?_insert_self]
  · rw [Named.get?_insert_of_ne entries v (Ne.symm hkey)]

lemma found_remove (entries : Named Value) (k₁ k₂ : Value) :
    found (Named.remove entries k₁.mapKey) k₂ =
      if k₁.mapKey = k₂.mapKey then .error (.missingProperty k₂.mapKey) else found entries k₂ := by
  unfold found
  rw [Named.get?_remove]
  split_ifs with hkey hother hother
  · rfl
  · exact absurd hkey.symm hother
  · exact absurd hother.symm hkey
  · rfl

lemma has_insert_key (entries : Named Value) (k₁ k₂ v : Value) :
    Named.has (Named.insert entries k₁.mapKey v) k₂.mapKey =
      if k₁.mapKey = k₂.mapKey then true else Named.has entries k₂.mapKey := by
  rw [Bool.eq_iff_iff, Named.has_insert]
  split_ifs with hkey
  · simp [hkey]
  · simp [Ne.symm hkey]

section Maps

variable [PatternEngine]

/-- What putting a value under one key and taking that key away do to another key, in every map: the
other key is affected exactly if the two are alike. -/
structure MapLaws (k₁ k₂ : Value) : Prop where
  lookup_insert : ∀ (entries : Named Value) (v : Value),
    (Calculation.mapInsert.run [object entries, k₁, v] >>= fun m =>
      Calculation.mapLookup.run [m, k₂]) =
        if k₁.alike k₂ then .ok v else Calculation.mapLookup.run [object entries, k₂]
  contains_insert : ∀ (entries : Named Value) (v : Value),
    (Calculation.mapInsert.run [object entries, k₁, v] >>= fun m =>
      Calculation.mapContains.run [m, k₂]) =
        if k₁.alike k₂ then .ok (boolean true)
        else Calculation.mapContains.run [object entries, k₂]
  lookup_remove : ∀ entries : Named Value,
    (Calculation.mapRemove.run [object entries, k₁] >>= fun m =>
      Calculation.mapLookup.run [m, k₂]) =
        if k₁.alike k₂ then .error (.missingProperty k₂.mapKey)
        else Calculation.mapLookup.run [object entries, k₂]

/-- Maps are keyed by the equality of programs exactly on the keys that are alike when they have the
same text, and only then. -/
lemma mapLaws_iff : MapLaws k₁ k₂ ↔ (k₁.alike k₂ = true ↔ k₁.mapKey = k₂.mapKey) := by
  constructor
  · intro h
    -- the map with one entry tells the two keys apart
    have hlookup : found (Named.insert [] k₁.mapKey (boolean true)) k₂ =
        if k₁.alike k₂ then .ok (boolean true) else found [] k₂ := h.lookup_insert [] (boolean true)
    rw [found_insert] at hlookup
    split_ifs at hlookup with hkey halike halike
    · exact iff_of_true halike hkey
    · cases hlookup
    · cases hlookup
    · exact iff_of_false halike hkey
  · intro h
    refine ⟨fun entries v => ?_, fun entries v => ?_, fun entries => ?_⟩
    · show found (Named.insert entries k₁.mapKey v) k₂ = if k₁.alike k₂ then _ else found entries k₂
      rw [found_insert]
      simp only [h]
    · show Except.ok (boolean (Named.has (Named.insert entries k₁.mapKey v) k₂.mapKey)) =
        if k₁.alike k₂ then _ else Except.ok (boolean (Named.has entries k₂.mapKey))
      rw [has_insert_key]
      simp only [h]
      split_ifs <;> rfl
    · show found (Named.remove entries k₁.mapKey) k₂ = if k₁.alike k₂ then _ else found entries k₂
      rw [found_remove]
      simp only [h]

/-- Maps are finite maps keyed by the equality of programs on a pair of keys exactly if the keys are
alike when they have the same text, and only then. So it is for exact keys whose types agree. For
named locations it is so exactly if they are one place under one name or two places under two
names. -/
theorem mapLaws_exact (k₁ k₂ : Value) :
    (MapLaws k₁ k₂ ↔ (k₁.alike k₂ = true ↔ k₁.mapKey = k₂.mapKey)) ∧
      (k₁.Exact → k₂.Exact → ∀ (a b c : Ty) (s : Bindings), k₁.typeOf.result = .ok a →
        k₂.typeOf.result = .ok b → Ty.unify a b .empty = .ok c s → MapLaws k₁ k₂) ∧
      ∀ (x y x' y' : Float) (name name' : String), k₁ = location x y (some name) →
        k₂ = location x' y' (some name') →
          (MapLaws k₁ k₂ ↔ ((x == x' && y == y') = true ↔ name = name')) := by
  refine ⟨mapLaws_iff, fun h₁ h₂ a b c s hty₁ hty₂ hunify => ?_, ?_⟩
  · exact mapLaws_iff.2 (alike_iff_mapKey h₁ h₂ hty₁ hty₂ hunify)
  · rintro x y x' y' name name' rfl rfl
    rw [mapLaws_iff]
    simp only [alike]
    rfl

end Maps

/-- A place with a name. -/
def home : Value := location 1 2 (some "Home")

/-- The same place without a name. -/
def unnamedHome : Value := location 1 2 none

/-- The place and its named form are alike, but what is put under one is not found under the other.
Numbers that differ in the last digit only are kept apart. -/
theorem mapLaws_exact_home :
    home.alike unnamedHome = true ∧ ¬ MapLaws home unnamedHome ∧
      (Calculation.mapInsert.run [object [], home, number 1] >>= fun m =>
        Calculation.mapLookup.run [m, unnamedHome]) =
          .error (.missingProperty "[Latitude: 2.000, Longitude: 1.000]") ∧
      MapLaws (number 0.3) (number 0.30000000000000004) := by
  refine ⟨rfl, ?_, rfl, ?_⟩
  · rw [(mapLaws_exact home unnamedHome).1]
    decide
  · exact (mapLaws_exact (number 0.3) (number 0.30000000000000004)).2.1 (by rfl) (by rfl)
      .number .number .number .empty rfl rfl rfl

end Value

end ChannelRules
