import ChannelRules.Builtin.Native
import ChannelRules.Proofs.Named
import ChannelRules.Proofs.Sequence

/-!
# Arguments and results of calculations

The first part says when an argument of an operation is found. The second part says what the result
of a calculation is made of: plain data, or pieces of the arguments. A property of values that plain
data has, and that arrays and objects have exactly when their contents have it, is therefore kept
by every calculation.
-/

namespace ChannelRules

section Arguments

variable {args : List Value} {i : Nat} {f : String}

lemma argument_eq_ok {v : Value} : argument args i f = .ok v ↔ args[i]? = some v := by
  unfold argument
  cases args[i]? <;> simp

lemma numberArgument_eq_ok {x : Float} :
    numberArgument args i f = .ok x ↔ ∃ v, args[i]? = some v ∧ v.asNumber = some x := by
  unfold numberArgument
  rw [bind_eq_ok]
  apply exists_congr
  intro v
  rw [argument_eq_ok]
  cases v.asNumber <;> simp

lemma textArgument_eq_ok {s : String} :
    textArgument args i f = .ok s ↔ ∃ v, args[i]? = some v ∧ v.asText = some s := by
  unfold textArgument
  rw [bind_eq_ok]
  apply exists_congr
  intro v
  rw [argument_eq_ok]
  cases v.asText <;> simp

lemma arrayArgument_eq_ok {items : List Value} :
    arrayArgument args i f = .ok items ↔ args[i]? = some (.array items) := by
  unfold arrayArgument
  rw [bind_eq_ok]
  constructor
  · rintro ⟨v, hv, h⟩
    rw [argument_eq_ok] at hv
    cases v <;> simp_all
  · intro h
    exact ⟨.array items, argument_eq_ok.2 h, rfl⟩

lemma mapArgument_eq_ok {entries : Named Value} :
    mapArgument args i f = .ok entries ↔ args[i]? = some (.object entries) := by
  unfold mapArgument
  rw [bind_eq_ok]
  constructor
  · rintro ⟨v, hv, h⟩
    rw [argument_eq_ok] at hv
    cases v <;> simp_all
  · intro h
    exact ⟨.object entries, argument_eq_ok.2 h, rfl⟩

end Arguments

/-- A property that plain data has, and that a container has exactly when its contents have it. -/
structure Hereditary (P : Value → Prop) : Prop where
  boolean : ∀ b, P (.boolean b)
  string : ∀ s, P (.string s)
  number : ∀ x, P (.number x)
  location : ∀ x y d, P (.location x y d)
  date : ∀ t, P (.date t)
  time : ∀ h m, P (.time h m)
  entity : ∀ v t d, P (.entity v t d)
  array : ∀ items, P (.array items) ↔ ∀ item ∈ items, P item
  object : ∀ fields, P (.object fields) ↔ ∀ entry ∈ fields, P entry.2

section Results

variable {args : List Value} {f : String} {v : Value}

lemma arithmetic_result {g : Float → Float → Float} (h : arithmetic g args f = .ok v) :
    ∃ x, v = .number x := by
  simp only [arithmetic, bind_eq_ok, pure_eq_ok] at h
  obtain ⟨x, -, y, -, rfl⟩ := h
  exact ⟨_, rfl⟩

lemma quotient_result {g : Float → Float → Float} (h : quotient g args f = .ok v) :
    ∃ x, v = .number x := by
  simp only [quotient, bind_eq_ok] at h
  obtain ⟨x, -, y, -, h⟩ := h
  split at h
  · cases h
  · cases h
    exact ⟨_, rfl⟩

lemma joined_result (h : joined args f = .ok v) : ∃ s, v = .string s := by
  simp only [joined, bind_eq_ok, pure_eq_ok] at h
  obtain ⟨x, -, y, -, rfl⟩ := h
  exact ⟨_, rfl⟩

lemma movedDate_result {sign : Float} (h : movedDate args f sign = .ok v) : ∃ t, v = .date t := by
  simp only [movedDate, bind_eq_ok] at h
  obtain ⟨a, -, h⟩ := h
  split at h
  · simp only [bind_eq_ok] at h
    obtain ⟨x, -, h⟩ := h
    split at h
    · cases h
      exact ⟨_, rfl⟩
    · cases h
  · cases h

lemma ordered_result {test : Ordering → Bool} (h : ordered test args f = .ok v) :
    ∃ b, v = .boolean b := by
  simp only [ordered, bind_eq_ok] at h
  obtain ⟨a, -, b, -, h⟩ := h
  split at h
  · cases h
    exact ⟨_, rfl⟩
  · cases h

lemma combined_result {g : Float → Float → Float} (h : combined g args f = .ok v) :
    ∃ x, v = .number x := by
  simp only [combined, bind_eq_ok] at h
  obtain ⟨xs, -, h⟩ := h
  split at h
  · cases h
  · cases h
    exact ⟨_, rfl⟩

lemma unaryNumber_result {g : Float → Float} (h : unaryNumber g args f = .ok v) :
    ∃ x, v = .number x := by
  simp only [unaryNumber, bind_eq_ok, pure_eq_ok] at h
  obtain ⟨x, -, rfl⟩ := h
  exact ⟨_, rfl⟩

end Results

namespace Calculation

variable [PatternEngine] {P : Value → Prop} {args : List Value} {v : Value}

/-- A hereditary property of the arguments is one of the result. -/
theorem run_hereditary (hP : Hereditary P) (op : Calculation) (hargs : ∀ a ∈ args, P a)
    (h : op.run args = .ok v) : P v := by
  have harg : ∀ {i f a}, argument args i f = .ok a → P a := fun h =>
    hargs _ (List.mem_of_getElem? (argument_eq_ok.1 h))
  have harray : ∀ {i f items}, arrayArgument args i f = .ok items → ∀ item ∈ items, P item :=
    fun h => (hP.array _).1 (hargs _ (List.mem_of_getElem? (arrayArgument_eq_ok.1 h)))
  have hmap : ∀ {i f entries}, mapArgument args i f = .ok entries → ∀ entry ∈ entries, P entry.2 :=
    fun h => (hP.object _).1 (hargs _ (List.mem_of_getElem? (mapArgument_eq_ok.1 h)))
  cases op with
  | add | subtract | multiply | power =>
    obtain ⟨x, rfl⟩ := arithmetic_result h
    exact hP.number x
  | divide | remainder =>
    obtain ⟨x, rfl⟩ := quotient_result h
    exact hP.number x
  | joinTexts | concatTexts =>
    obtain ⟨s, rfl⟩ := joined_result h
    exact hP.string s
  | dateAdd | dateSubtract =>
    obtain ⟨t, rfl⟩ := movedDate_result h
    exact hP.date t
  | greater | less | atLeast | atMost =>
    obtain ⟨b, rfl⟩ := ordered_result h
    exact hP.boolean b
  | maximum | minimum =>
    obtain ⟨x, rfl⟩ := combined_result h
    exact hP.number x
  | negate | floor | ceiling | round =>
    obtain ⟨x, rfl⟩ := unaryNumber_result h
    exact hP.number x
  | dateDifference =>
    simp only [run, bind_eq_ok] at h
    obtain ⟨a, -, b, -, h⟩ := h
    split at h
    · cases h
      exact hP.number _
    · cases h
  | equal | unequal | like | arrayContains | mapContains =>
    simp only [run, bind_eq_ok, pure_eq_ok] at h
    obtain ⟨a, -, b, -, rfl⟩ := h
    exact hP.boolean _
  | and =>
    simp only [run, bind_eq_ok] at h
    obtain ⟨a, -, h⟩ := h
    cases a with
    | false =>
      cases h
      exact hP.boolean _
    | true =>
      simp only [if_true, bind_eq_ok, pure_eq_ok] at h
      obtain ⟨b, -, rfl⟩ := h
      exact hP.boolean _
  | or =>
    simp only [run, bind_eq_ok] at h
    obtain ⟨a, -, h⟩ := h
    cases a with
    | true =>
      cases h
      exact hP.boolean _
    | false =>
      simp only [Bool.false_eq_true, if_false, bind_eq_ok, pure_eq_ok] at h
      obtain ⟨b, -, rfl⟩ := h
      exact hP.boolean _
  | not =>
    simp only [run, bind_eq_ok, pure_eq_ok] at h
    obtain ⟨a, -, rfl⟩ := h
    exact hP.boolean _
  | matchesPattern =>
    simp only [run, bind_eq_ok, pure_eq_ok] at h
    obtain ⟨text, -, pattern, -, flags, -, regex, -, rfl⟩ := h
    exact hP.boolean _
  | distance =>
    simp only [run, bind_eq_ok, pure_eq_ok] at h
    obtain ⟨⟨lat, lon⟩, -, ⟨lat', lon'⟩, -, rfl⟩ := h
    exact hP.number _
  | latitude | longitude =>
    simp only [run, bind_eq_ok, pure_eq_ok] at h
    obtain ⟨⟨lat, lon⟩, -, rfl⟩ := h
    exact hP.number _
  | makeDate =>
    simp only [run, bind_eq_ok] at h
    obtain ⟨year, -, month, -, day, -, h⟩ := h
    split at h
    · cases h
      exact hP.date _
    · cases h
  | makeTime =>
    simp only [run, bind_eq_ok] at h
    obtain ⟨hour, -, minute, -, h⟩ := h
    split at h
    · cases h
      exact hP.time _ _
    · cases h
  | makeLocation =>
    simp only [run, bind_eq_ok, pure_eq_ok] at h
    obtain ⟨y, -, x, -, rfl⟩ := h
    exact hP.location _ _ _
  | makeEmailAddress | makePhoneNumber =>
    simp only [run, bind_eq_ok, pure_eq_ok] at h
    obtain ⟨text, -, rfl⟩ := h
    exact hP.entity _ _ _
  | emptyMap =>
    cases h
    exact (hP.object _).2 fun entry hentry => nomatch hentry
  | append =>
    simp only [run, bind_eq_ok, pure_eq_ok] at h
    obtain ⟨items, hitems, item, hitem, rfl⟩ := h
    rw [hP.array]
    intro a ha
    rcases List.mem_append.1 ha with ha | ha
    · exact harray hitems a ha
    · rw [List.mem_singleton.1 ha]
      exact harg hitem
  | arrayRemove =>
    simp only [run, bind_eq_ok, pure_eq_ok] at h
    obtain ⟨needle, -, items, hitems, rfl⟩ := h
    rw [hP.array]
    intro a ha
    exact harray hitems a (List.mem_filter.1 ha).1
  | concatArrays =>
    simp only [run, bind_eq_ok, pure_eq_ok] at h
    obtain ⟨xs, hxs, ys, hys, rfl⟩ := h
    rw [hP.array]
    intro a ha
    rcases List.mem_append.1 ha with ha | ha
    · exact harray hxs a ha
    · exact harray hys a ha
  | mapRemove =>
    simp only [run, bind_eq_ok, pure_eq_ok] at h
    obtain ⟨entries, hentries, key, -, rfl⟩ := h
    rw [hP.object]
    intro entry hentry
    exact hmap hentries entry (List.mem_filter.1 hentry).1
  | mapInsert =>
    simp only [run, bind_eq_ok, pure_eq_ok] at h
    obtain ⟨entries, hentries, key, -, value, hvalue, rfl⟩ := h
    rw [hP.object]
    intro entry hentry
    rcases Named.mem_insert hentry with rfl | hentry
    · exact harg hvalue
    · exact hmap hentries entry hentry
  | mapLookup =>
    simp only [run, bind_eq_ok] at h
    obtain ⟨entries, hentries, key, -, h⟩ := h
    split at h
    · rename_i value hvalue
      cases h
      exact hmap hentries _ (Named.mem_of_get? hvalue)
    · cases h
  | count =>
    simp only [run, bind_eq_ok] at h
    obtain ⟨a, -, h⟩ := h
    split at h
    · cases h
      exact hP.number _
    · cases h
      exact hP.number _
    · cases h
  | sum =>
    simp only [run, bind_eq_ok, pure_eq_ok] at h
    obtain ⟨xs, -, rfl⟩ := h
    exact hP.number _
  | average =>
    simp only [run, bind_eq_ok] at h
    obtain ⟨xs, -, h⟩ := h
    split at h
    · cases h
    · cases h
      exact hP.number _

end Calculation

end ChannelRules
