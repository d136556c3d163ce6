import ChannelRules.Proofs.Named
import ChannelRules.Proofs.Sequence
import ChannelRules.Value.Basic

/-!
# The values of a type

Which runtime values a type has. The variables of a builtin's signature have the values that they
are taken to have; types whose shape is not known have none. Bringing two types without variables
together gives a type that has the values of both.
-/

namespace ChannelRules

namespace Ty

mutual

/-- Types whose shape is known throughout. -/
def isStatic : Ty → Bool
  | any | openTuple | openObject | module | var _ => false
  | boolean | string | number | entity _ | measure _ | enum _ | time | date | location => true
  | array elem => isStatic elem
  | map key value => isStatic key && isStatic value
  | tuple items => isStaticItems items
  | object fields => isStaticFields fields

def isStaticItems : List Ty → Bool
  | [] => true
  | item :: rest => isStatic item && isStaticItems rest

def isStaticFields : List (String × Ty) → Bool
  | [] => true
  | (_, field) :: rest => isStatic field && isStaticFields rest

end

end Ty

namespace Value

/-- A runtime value is one of a type, where `vars` says which values the variables have. Amounts of
any unit are plain numbers, and entities and enumeration entries may be plain texts. -/
inductive Inhabits (vars : String → Value → Prop) : Value → Ty → Prop
  | boolean (b : Bool) : Inhabits vars (boolean b) .boolean
  | number {v : Value} (h : v.asNumber.isSome) : Inhabits vars v .number
  | measure {v : Value} (unit : String) (h : v.asNumber.isSome) : Inhabits vars v (.measure unit)
  | string {v : Value} (h : v.asText.isSome) : Inhabits vars v .string
  | entity {v : Value} (tag : String) (h : v.asText.isSome) : Inhabits vars v (.entity tag)
  | enum {v : Value} (entries : List String) (h : v.asText.isSome) : Inhabits vars v (.enum entries)
  | date (t : Calendar.Instant) : Inhabits vars (date t) .date
  | time (hour minute : Nat) : Inhabits vars (time hour minute) .time
  | location (x y : Float) (display : Option String) : Inhabits vars (location x y display) .location
  | array {items : List Value} {elem : Ty} (h : ∀ item ∈ items, Inhabits vars item elem) :
      Inhabits vars (array items) (.array elem)
  | map {entries : Named Value} {value : Ty} (key : Ty)
      (h : ∀ entry ∈ entries, Inhabits vars entry.2 value) :
      Inhabits vars (object entries) (.map key value)
  | tuple {items : List Value} {types : List Ty} (hlength : items.length = types.length)
      (h : ∀ (i : Nat) (v : Value) (ty : Ty), items[i]? = some v → types[i]? = some ty →
        Inhabits vars v ty) : Inhabits vars (array items) (.tuple types)
  | object {entries : Named Value} {fields : Named Ty} (pick : String → Value)
      (hpick : ∀ name ty, Named.get? fields name = some ty →
        Named.get? entries name = some (pick name))
      (h : ∀ name ty, Named.get? fields name = some ty → Inhabits vars (pick name) ty) :
      Inhabits vars (object entries) (.object fields)
  | var {v : Value} {name : String} (h : vars name v) : Inhabits vars v (.var name)

/-- A runtime value is one of a type without variables. -/
abbrev HasType (v : Value) (ty : Ty) : Prop := Inhabits (fun _ _ => False) v ty

namespace Inhabits

variable {vars vars' : String → Value → Prop} {v : Value} {ty : Ty}

/-- More values of the variables give more values of the type. -/
theorem mono (hvars : ∀ name v, vars name v → vars' name v) (h : Inhabits vars v ty) :
    Inhabits vars' v ty := by
  induction h with
  | boolean b => exact .boolean b
  | number h => exact .number h
  | measure unit h => exact .measure unit h
  | string h => exact .string h
  | entity tag h => exact .entity tag h
  | enum entries h => exact .enum entries h
  | date t => exact .date t
  | time hour minute => exact .time hour minute
  | location x y display => exact .location x y display
  | array _ ih => exact .array ih
  | map key _ ih => exact .map key ih
  | tuple hlength _ ih => exact .tuple hlength ih
  | object pick hpick _ ih => exact .object pick hpick ih
  | var h => exact .var (hvars _ _ h)

lemma of_hasType (h : v.HasType ty) : Inhabits vars v ty := h.mono fun _ _ h => h.elim

lemma object_iff {entries : Named Value} {fields : Named Ty} :
    Inhabits vars (Value.object entries) (.object fields) ↔
      ∀ name ty, Named.get? fields name = some ty →
        ∃ v, Named.get? entries name = some v ∧ Inhabits vars v ty := by
  constructor
  · intro h name ty hty
    cases h with
    | object pick hpick h => exact ⟨pick name, hpick name ty hty, h name ty hty⟩
  · intro h
    have hget : ∀ name ty, Named.get? fields name = some ty →
        Named.get? entries name = some ((Named.get? entries name).getD default) := by
      intro name ty hty
      obtain ⟨v, hv, -⟩ := h name ty hty
      rw [hv, Option.getD_some]
    refine .object (fun name => (Named.get? entries name).getD default) hget ?_
    intro name ty hty
    obtain ⟨v, hv, hinhabits⟩ := h name ty hty
    rw [hv]
    exact hinhabits

end Inhabits

end Value

end ChannelRules
