import ChannelRules.Code.Clause
import Mathlib.Data.List.Basic
import Mathlib.Tactic.Common

/-!
# Places of parameters

The variables and the checks of an invocation are listed with the places of their parameters. Both
lists go through all parameters and keep what some of them hold, so what is at a place of such a list
can be read off the parameter there.
-/

namespace ChannelRules

def entriesAt {α : Type} (entries : List (Nat × α)) (place : Nat) : List α :=
  (entries.filter fun entry => entry.1 = place).map Prod.snd

section Placed

variable {β γ : Type} (f : Slot → Option β)

/-- What is found in some of the slots, with their places counted from the given one on. -/
def placed : Nat → List Slot → List (Nat × β)
  | _, [] => []
  | index, slot :: rest => (f slot).toList.map (Prod.mk index) ++ placed (index + 1) rest

lemma mem_placed_iff {slots : List Slot} {index place : Nat} {b : β} :
    (place, b) ∈ placed f index slots ↔ ∃ k, place = index + k ∧ slots[k]?.bind f = some b := by
  induction slots generalizing index with
  | nil => simp [placed]
  | cons slot rest ih =>
    have hhere : (place, b) ∈ (f slot).toList.map (Prod.mk index) ↔
        place = index ∧ f slot = some b := by
      cases f slot <;> simp [eq_comm]
    rw [placed, List.mem_append, hhere, ih]
    constructor
    · rintro (⟨rfl, hslot⟩ | ⟨k, rfl, hslot⟩)
      · exact ⟨0, rfl, hslot⟩
      · exact ⟨k + 1, by omega, hslot⟩
    · rintro ⟨k, rfl, hslot⟩
      cases k with
      | zero => exact .inl ⟨rfl, hslot⟩
      | succ k => exact .inr ⟨k, by omega, hslot⟩

lemma le_of_mem_placed {slots : List Slot} {index : Nat} {entry : Nat × β}
    (h : entry ∈ placed f index slots) : index ≤ entry.1 := by
  obtain ⟨k, hk, -⟩ := (mem_placed_iff f).1 h
  omega

lemma lt_of_mem_placed {slots : List Slot} {index : Nat} {entry : Nat × β}
    (h : entry ∈ placed f index slots) : entry.1 < index + slots.length := by
  obtain ⟨k, hk, hslot⟩ := (mem_placed_iff f).1 h
  obtain ⟨slot, hget, -⟩ := Option.bind_eq_some_iff.1 hslot
  have hlt := (List.getElem?_eq_some_iff.1 hget).1
  omega

lemma placed_pairwise (slots : List Slot) (index : Nat) :
    ((placed f index slots).map Prod.fst).Pairwise (· < ·) := by
  rw [List.pairwise_map]
  induction slots generalizing index with
  | nil => exact .nil
  | cons slot rest ih =>
    refine List.pairwise_append.2 ⟨?_, ih (index + 1), fun entry hentry later hlater => ?_⟩
    · cases f slot with
      | none => exact .nil
      | some b => exact List.pairwise_singleton _ _
    · obtain ⟨b, -, rfl⟩ := List.mem_map.1 hentry
      exact le_of_mem_placed f hlater

lemma entriesAt_placed (slots : List Slot) (index place : Nat) :
    entriesAt (placed f index slots) (index + place) = (slots[place]?.bind f).toList := by
  induction slots generalizing index place with
  | nil => rfl
  | cons slot rest ih =>
    rw [placed, entriesAt, List.filter_append, List.map_append]
    cases place with
    | zero =>
      have hlater : (placed f (index + 1) rest).filter (fun entry => entry.1 = index + 0) = [] := by
        refine List.filter_eq_nil_iff.2 fun entry hentry => ?_
        have hle := le_of_mem_placed f hentry
        simp only [decide_eq_true_eq]
        omega
      rw [hlater]
      cases hslot : f slot <;> simp [hslot]
    | succ place =>
      have hhere : ((f slot).toList.map (Prod.mk index)).filter
          (fun entry => entry.1 = index + (place + 1)) = [] := by
        cases f slot <;> simp
      have hplace : index + (place + 1) = index + 1 + place := by omega
      rw [hhere, hplace]
      exact ih (index + 1) place

lemma map_placed (g : β → γ) (slots : List Slot) (index : Nat) :
    (placed f index slots).map (fun entry => (entry.1, g entry.2)) =
      placed (fun slot => (f slot).map g) index slots := by
  induction slots generalizing index with
  | nil => rfl
  | cons slot rest ih =>
    rw [placed, placed, List.map_append, ih]
    cases f slot <;> rfl

end Placed

/-- The variable that a parameter becomes. -/
def Slot.assigned? : Slot → Option String
  | assigned name => some name
  | _ => none

/-- The expression of a parameter that waits for the event. -/
def Slot.deferred? : Slot → Option Typed.Expr
  | deferred expr => some expr
  | _ => none

lemma Slot.assigned?_eq_some {slot : Slot} {name : String} :
    slot.assigned? = some name ↔ slot = .assigned name := by
  cases slot <;> simp [assigned?]

lemma Slot.deferred?_eq_some {slot : Slot} {expr : Typed.Expr} :
    slot.deferred? = some expr ↔ slot = .deferred expr := by
  cases slot <;> simp [deferred?]

lemma assignedSlots_eq_placed (slots : List Slot) (index : Nat) :
    assignedSlots index slots = placed Slot.assigned? index slots := by
  induction slots generalizing index with
  | nil => rfl
  | cons slot rest ih =>
    cases slot <;> simp [assignedSlots, placed, Slot.assigned?, ih]

lemma deferredSlots_eq_placed (slots : List Slot) (index : Nat) :
    deferredSlots index slots = placed Slot.deferred? index slots := by
  induction slots generalizing index with
  | nil => rfl
  | cons slot rest ih =>
    cases slot <;> simp [deferredSlots, placed, Slot.deferred?, ih]

lemma mem_assignedSlots_iff {slots : List Slot} {index place : Nat} {name : String} :
    (place, name) ∈ assignedSlots index slots ↔
      ∃ k, place = index + k ∧ slots[k]? = some (.assigned name) := by
  simp only [assignedSlots_eq_placed, mem_placed_iff, Option.bind_eq_some_iff,
    Slot.assigned?_eq_some, exists_eq_right]

lemma mem_deferredSlots_iff {slots : List Slot} {index place : Nat} {expr : Typed.Expr} :
    (place, expr) ∈ deferredSlots index slots ↔
      ∃ k, place = index + k ∧ slots[k]? = some (.deferred expr) := by
  simp only [deferredSlots_eq_placed, mem_placed_iff, Option.bind_eq_some_iff,
    Slot.deferred?_eq_some, exists_eq_right]

end ChannelRules
