/-!
# Comparisons that may have no answer

A comparison of two things gives an order or nothing. It is lawful if exchanging the two reverses
the order and if two steps that do not go down make one step that does not go down, and goes up if
one of them does. Comparisons that always answer are lawful if they are transitive, and comparing
things by some measure of them keeps the laws.
-/

namespace ChannelRules

/-- Exchanging operands reverses the order, and the order is transitive. -/
structure LawfulCompare {α : Type} (cmp : α → α → Option Ordering) : Prop where
  swap : ∀ a b, cmp b a = (cmp a b).map Ordering.swap
  trans : ∀ {a b c o p}, cmp a b = some o → cmp b c = some p → o.isLE = true → p.isLE = true →
    cmp a c = some (o.then p)

namespace LawfulCompare

variable {α β : Type}

theorem total (cmp : α → α → Ordering) [Std.TransCmp cmp] :
    LawfulCompare fun a b => some (cmp a b) where
  swap a b := congrArg some Std.OrientedCmp.eq_swap
  trans := by
    rintro a b c o p ⟨⟩ ⟨⟩ hab hbc
    refine congrArg some ?_
    cases hfirst : cmp a b with
    | lt => exact Std.TransCmp.lt_of_lt_of_isLE hfirst hbc
    | eq => exact Std.TransCmp.congr_left hfirst
    | gt =>
      rw [hfirst] at hab
      cases hab

/-- Things may be compared by something that not all of them have. -/
theorem along {cmp : β → β → Option Ordering} (h : LawfulCompare cmp) (f : α → Option β) :
    LawfulCompare fun a b => (f a).bind fun x => (f b).bind fun y => cmp x y where
  swap a b := by
    cases f a with
    | none => cases f b <;> rfl
    | some x =>
      cases f b with
      | none => rfl
      | some y => exact h.swap x y
  trans := by
    intro a b c o p hab hbc ho hp
    simp only [Option.bind_eq_some_iff] at hab hbc ⊢
    obtain ⟨x, hx, y, hy, hxy⟩ := hab
    obtain ⟨y', hy', z, hz, hyz⟩ := hbc
    obtain rfl := Option.some.inj (hy.symm.trans hy')
    exact ⟨x, hx, z, hz, h.trans hxy hyz ho hp⟩

end LawfulCompare

end ChannelRules
