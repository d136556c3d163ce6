import ChannelRules.Proofs.Ty.Order

/-!
# What unification depends on

Whether two types without variables can be brought together, and to what, depends on the two types
only: neither on the bindings and notices from before nor on the fuel, as long as there is more of
it than the first type has constructors.
-/

namespace ChannelRules

namespace Ty

section Steady

variable {α β : Type}

/-- Two computations that succeed with the same result or both fail, whatever each starts from. -/
def Steady (x y : Unify α) : Prop :=
  ∀ s t, (∃ a s' t', x s = .ok a s' ∧ y t = .ok a t') ∨
    ∃ e e' s' t', x s = .error e s' ∧ y t = .error e' t'

lemma steady_pure (a : α) : Steady (pure a) (pure a) := fun s t => .inl ⟨a, s, t, rfl, rfl⟩

lemma steady_throw (e e' : TypeError) : Steady (throw e : Unify α) (throw e') :=
  fun s t => .inr ⟨e, e', s, t, rfl, rfl⟩

lemma steady_deprecatedString (ty : Ty) :
    Steady (deprecatedString ty) (deprecatedString ty) :=
  fun _ _ => .inl ⟨ty, _, _, rfl, rfl⟩

lemma Steady.bind {x y : Unify α} {f g : α → Unify β} (hx : Steady x y)
    (hf : ∀ a, Steady (f a) (g a)) : Steady (x >>= f) (y >>= g) := by
  intro s t
  change (∃ b s' t', EStateM.bind x f s = .ok b s' ∧ EStateM.bind y g t = .ok b t') ∨
    ∃ e e' s' t', EStateM.bind x f s = .error e s' ∧ EStateM.bind y g t = .error e' t'
  rcases hx s t with ⟨a, s', t', hxs, hyt⟩ | ⟨e, e', s', t', hxs, hyt⟩
  · simp only [EStateM.bind, hxs, hyt]
    exact hf a s' t'
  · simp only [EStateM.bind, hxs, hyt]
    exact .inr ⟨e, e', s', t', rfl, rfl⟩

/-- Computations that are steady succeed together. -/
lemma Steady.ok_iff {x y : Unify α} (h : Steady x y) (s t : Bindings) :
    (∃ a s', x s = .ok a s') ↔ ∃ a t', y t = .ok a t' := by
  rcases h s t with ⟨a, s', t', hx, hy⟩ | ⟨e, e', s', t', hx, hy⟩ <;> simp [hx, hy]

end Steady

section Shapes

variable {step step' : Ty → Ty → Unify Ty}

lemma unifyLists_steady {xs ys : List Ty}
    (h : ∀ x ∈ xs, ∀ y ∈ ys, Steady (step x y) (step' x y)) :
    Steady (unifyLists step xs ys) (unifyLists step' xs ys) := by
  induction xs generalizing ys with
  | nil => exact steady_pure []
  | cons x xs ih =>
    cases ys with
    | nil => exact steady_pure []
    | cons y ys =>
      have hfirst := h x List.mem_cons_self y List.mem_cons_self
      have hrest := ih fun x hx y hy => h x (List.mem_cons_of_mem _ hx) y (List.mem_cons_of_mem _ hy)
      exact hfirst.bind fun _ => hrest.bind fun _ => steady_pure _

lemma steady_direct {a b : Ty} {result : Unify Ty} (h : Direct a b result) :
    Steady result result := by
  cases h with
  | second _ | first _ | entries _ => exact steady_pure _
  | secondNoted _ | firstNoted _ => exact steady_deprecatedString _
  | apart => exact steady_throw _ _

/-- Two different shapes are brought together in the same way by steps that treat the smaller types
inside them in the same way. -/
lemma unifyShapes_steady {a b : Ty} (ha : a.hasVars = false) (hb : b.hasVars = false)
    (h : ∀ x y : Ty, x.size < a.size → x.hasVars = false → y.hasVars = false →
      Steady (step x y) (step' x y)) :
    Steady (unifyShapes step a b) (unifyShapes step' a b) := by
  rcases unifyShapes_cases a b with ⟨result, hdirect, hresult⟩ | haligned
  · rw [hresult, hresult]
    exact steady_direct hdirect
  · rw [unifyShapes_aligned _ haligned, unifyShapes_aligned _ haligned]
    exact (unifyLists_steady fun x hx y hy => h x y (size_lt_of_mem_components hx)
      (hasVars_of_mem_components ha hx) (hasVars_of_mem_components hb hy)).bind
        fun _ => steady_pure _

/-- With enough fuel, bringing two types without variables together depends on the types only. -/
theorem unifyWith_steady {fuel fuel' : Nat} {a b : Ty} (hfuel : a.size < fuel)
    (hfuel' : a.size < fuel') (ha : a.hasVars = false) (hb : b.hasVars = false) :
    Steady (unifyWith fuel a b) (unifyWith fuel' a b) := by
  induction fuel generalizing fuel' a b with
  | zero => omega
  | succ fuel ih =>
    cases fuel' with
    | zero => omega
    | succ fuel' =>
      have hvarsA := ne_var_of_hasVars ha
      have hvarsB := ne_var_of_hasVars hb
      rw [unifyWith_shapes fuel hvarsA hvarsB, unifyWith_shapes fuel' hvarsA hvarsB]
      split
      · exact steady_pure _
      · exact unifyShapes_steady ha hb fun x y hsize hx hy =>
          ih (by omega) (by omega) hx hy

end Shapes

lemma agree_isLUB {a b c : Ty} (ha : a.hasVars = false) (hb : b.hasVars = false)
    (h : (agree a b).result = .ok c) : IsLUB {a, b} c := by
  obtain ⟨s, hunify⟩ := agree_eq_ok.1 h
  exact unifyWith_joins _ ha hb hunify

/-- Two types without variables agree exactly if they can be brought together, with enough fuel and
from any bindings. -/
lemma agree_ok_iff {a b : Ty} (ha : a.hasVars = false) (hb : b.hasVars = false) {fuel : Nat}
    (hfuel : a.size < fuel) (s : Bindings) :
    (∃ c, (agree a b).result = .ok c) ↔ ∃ c s', unifyWith fuel a b s = .ok c s' := by
  have hsteady := unifyWith_steady (size_lt_unifyFuel a b .empty) hfuel ha hb
  rw [← hsteady.ok_iff .empty s]
  exact exists_congr fun c => agree_eq_ok

lemma size_le_boundSize {types : Named Ty} {name : String} {bound : Ty}
    (h : Named.get? types name = some bound) : bound.size ≤ boundSize types := by
  induction types with
  | nil => cases h
  | cons entry rest ih =>
    obtain ⟨key, ty⟩ := entry
    rw [Named.get?] at h
    change bound.size ≤ ty.size + 1 + boundSize rest
    split at h
    · cases h
      omega
    · have := ih h
      omega

lemma size_succ_lt_unifyFuel {name : String} {bound : Ty} {s : Bindings} (b : Ty)
    (hbound : Named.get? s.types name = some bound) :
    bound.size + 1 < unifyFuel (var name) b s := by
  have hsize := size_le_boundSize hbound
  have hbase : bound.size + 1 < 2 * ((var name).size + b.size + boundSize s.types) + 3 := by omega
  exact lt_of_lt_of_le hbase (Nat.le_self_pow (by decide) _)

lemma unifyVar_of_bound {step : Ty → Ty → Unify Ty} {name : String} {bound b : Ty} {s : Bindings}
    (hbound : Named.get? s.types name = some bound) : unifyVar step name b s =
      (do
        let unified ← step bound b
        assign name unified
        return unified : Unify Ty) s := by
  have hlookup : lookup name s = .ok (some bound) s := by
    change EStateM.Result.ok (Named.get? s.types name) s = _
    rw [hbound]
  rw [unifyVar]
  change EStateM.bind (lookup name) _ s = _
  rw [EStateM.bind, hlookup]

/-- A bound variable can be brought together with a type exactly if what it is bound to agrees with
that type. -/
lemma unify_bound_ok_iff {name : String} {bound b : Ty} {s : Bindings}
    (hbound : Named.get? s.types name = some bound) (hvars : bound.hasVars = false)
    (hb : b.hasVars = false) :
    (∃ c s', unify (var name) b s = .ok c s') ↔ ∃ c, (agree bound b).result = .ok c := by
  have hsize := size_succ_lt_unifyFuel b hbound
  obtain ⟨fuel, hfuel⟩ := Nat.exists_eq_succ_of_ne_zero (Nat.ne_zero_of_lt hsize)
  rw [agree_ok_iff hvars hb (show bound.size < fuel by omega) s, unify, hfuel, Nat.succ_eq_add_one,
    unifyWith_var fuel name (ne_var_of_hasVars hb), unifyVar_of_bound hbound]
  simp only [state_bind_eq_ok, state_pure_eq_ok]
  constructor
  · rintro ⟨c, s', unified, t, hunified, -⟩
    exact ⟨unified, t, hunified⟩
  · rintro ⟨c, t, hc⟩
    exact ⟨c, _, c, t, hc, ⟨⟩, _, rfl, rfl, rfl⟩

end Ty

end ChannelRules
