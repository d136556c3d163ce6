import ChannelRules.Proofs.Ty.Fuel
import ChannelRules.Proofs.Ty.Steady
import ChannelRules.Proofs.Ty.Substituted
import Mathlib.Data.Finset.Lattice.Fold
import Mathlib.Data.Fintype.EquivFin
import Mathlib.Data.Prod.Lex
import Mathlib.Order.OrderIsoNat

/-!
# When unification returns

Unification follows variables to what they are bound to. It does not return if this has no end, and
then it goes round a circle: from a variable to one that it is bound to a type with, and so on back
to the first variable. Such circles can be made, because a variable can be bound to itself. They cannot
be made as long as one side of every call has no variables.
-/

namespace ChannelRules

namespace Ty

open Relation (TransGen)

/-- A call of unification: two types, and the bindings it starts with. -/
structure Call where
  lhs : Ty
  rhs : Ty
  bindings : Bindings

/-- The calls for two lists of parts. Every part is brought together with its counterpart after the
parts before it have been brought together. -/
inductive ListCalls : List Ty → List Ty → Bindings → Call → Prop
  | head {x y : Ty} {xs ys : List Ty} {s : Bindings} : ListCalls (x :: xs) (y :: ys) s ⟨x, y, s⟩
  | tail {x y z : Ty} {xs ys : List Ty} {s t : Bindings} {call : Call} (fuel : Nat)
      (h : unifyWith fuel x y s = .ok z t) (hrest : ListCalls xs ys t call) :
      ListCalls (x :: xs) (y :: ys) s call

namespace Call

/-- The calls that a call makes itself. -/
inductive Makes : Call → Call → Prop
  | vars {x y : String} {a b : Ty} {s : Bindings} (hx : Named.get? s.types x = some a)
      (hy : Named.get? s.types y = some b) : Makes ⟨var x, var y, s⟩ ⟨a, b, s⟩
  | left {name : String} {bound other : Ty} {s : Bindings} (hother : ∀ name, other ≠ var name)
      (h : Named.get? s.types name = some bound) : Makes ⟨var name, other, s⟩ ⟨bound, other, s⟩
  | right {name : String} {bound other : Ty} {s : Bindings} (hother : ∀ name, other ≠ var name)
      (h : Named.get? s.types name = some bound) : Makes ⟨other, var name, s⟩ ⟨bound, other, s⟩
  | part {a b : Ty} {s : Bindings} {call : Call} (hne : a ≠ b) (h : Aligned a b)
      (hcall : ListCalls a.components b.components s call) : Makes ⟨a, b, s⟩ call

/-- What a call gives with so much fuel. -/
def run (call : Call) (fuel : Nat) : EStateM.Result TypeError Bindings Ty :=
  unifyWith fuel call.lhs call.rhs call.bindings

/-- A call is not cut off if there is enough fuel. -/
def Returns (call : Call) : Prop := ∃ fuel, ¬ CutOff (call.run fuel)

lemma run_of_le {call : Call} {fuel more : Nat} (h : ¬ CutOff (call.run fuel)) (hle : fuel ≤ more) :
    call.run more = call.run fuel :=
  unifyWith_refines hle call.lhs call.rhs call.bindings h

lemma run_eq {call : Call} {fuel other : Nat} (h : ¬ CutOff (call.run fuel))
    (h' : ¬ CutOff (call.run other)) : call.run fuel = call.run other := by
  rcases Nat.le_total fuel other with hle | hle
  · exact (run_of_le h hle).symm
  · exact run_of_le h' hle

end Call

section Makes

variable {fuel : Nat} {s : Bindings}

/-- A variable is looked up without being cut off. -/
lemma cutOff_lookup {α : Type} {name : String} {f : Option Ty → Unify α} :
    CutOff ((lookup name >>= f) s) ↔ CutOff (f (Named.get? s.types name) s) := Iff.rfl

lemma cutOff_unifyVar {step : Ty → Ty → Unify Ty} {name : String} {b : Ty} :
    CutOff (unifyVar step name b s) ↔
      ∃ bound, Named.get? s.types name = some bound ∧ CutOff (step bound b s) := by
  rw [unifyVar, cutOff_lookup]
  cases Named.get? s.types name with
  | none => exact iff_of_false id (by simp)
  | some bound =>
    rw [cutOff_bind_iff fun _ _ => id]
    simp

lemma cutOff_unifyVars {step : Ty → Ty → Unify Ty} {x y : String} :
    CutOff (unifyVars step x y s) ↔ ∃ a b, Named.get? s.types x = some a ∧
      Named.get? s.types y = some b ∧ CutOff (step a b s) := by
  rw [unifyVars, cutOff_lookup, cutOff_lookup]
  cases Named.get? s.types x with
  | none =>
    cases Named.get? s.types y with
    | none =>
      refine iff_of_false ?_ (by simp)
      dsimp only
      split <;> exact id
    | some b => exact iff_of_false id (by simp)
  | some a =>
    cases Named.get? s.types y with
    | none => exact iff_of_false id (by simp)
    | some b =>
      rw [cutOff_bind_iff fun _ _ => id]
      simp

lemma not_cutOff_direct {a b : Ty} {result : Unify Ty} (h : Direct a b result) :
    ¬ CutOff (result s) := by
  cases h <;> exact id

lemma not_cutOff_listCalls {xs ys : List Ty} {call : Call}
    (h : ¬ CutOff (unifyLists (unifyWith fuel) xs ys s)) (hcall : ListCalls xs ys s call) :
    ¬ CutOff (call.run fuel) := by
  induction hcall with
  | head =>
    rw [unifyLists, cutOff_bind, not_or] at h
    exact h.1
  | @tail x y z xs ys s t call other hz _ ih =>
    rw [unifyLists, cutOff_bind, not_or] at h
    have hother : ¬ CutOff ((Call.mk x y s).run other) := by
      rw [Call.run, hz]
      exact id
    have hfirst : ¬ CutOff ((Call.mk x y s).run fuel) := h.1
    have hrun : unifyWith fuel x y s = .ok z t := (Call.run_eq hfirst hother).trans hz
    exact ih fun hcut => h.2 ⟨z, t, hrun, (cutOff_bind_iff fun _ _ => id).2 hcut⟩

lemma exists_not_cutOff_unifyLists {xs ys : List Ty}
    (h : ∀ call, ListCalls xs ys s call → call.Returns) :
    ∃ fuel, ¬ CutOff (unifyLists (unifyWith fuel) xs ys s) := by
  induction xs generalizing ys s with
  | nil => exact ⟨0, id⟩
  | cons x xs ih =>
    cases ys with
    | nil => exact ⟨0, id⟩
    | cons y ys =>
      obtain ⟨fuel, hfirst⟩ := h _ .head
      cases hrun : unifyWith fuel x y s with
      | error e t =>
        refine ⟨fuel, ?_⟩
        rw [unifyLists, cutOff_bind, not_or]
        refine ⟨hfirst, ?_⟩
        rintro ⟨z, t', hz, -⟩
        rw [hrun] at hz
        cases hz
      | ok z t =>
        obtain ⟨more, hrest⟩ := ih fun call hcall => h call (.tail fuel hrun hcall)
        have hfirst' : unifyWith (max fuel more) x y s = .ok z t :=
          (Call.run_of_le hfirst (Nat.le_max_left _ _)).trans hrun
        have hrest' : ¬ CutOff (unifyLists (unifyWith (max fuel more)) xs ys t) := by
          rwa [unifyLists_refines (fun a b => unifyWith_refines (Nat.le_max_right fuel more) a b)
            xs ys t hrest]
        refine ⟨max fuel more, ?_⟩
        rw [unifyLists, cutOff_bind, not_or, hfirst']
        refine ⟨id, ?_⟩
        rintro ⟨z', t', hz, hcut⟩
        cases hz
        exact hrest' ((cutOff_bind_iff fun _ _ => id).1 hcut)

end Makes

namespace Call

/-- A call that is not cut off makes no call that is cut off with the fuel that it hands on. -/
lemma Makes.not_cutOff {call next : Call} {fuel : Nat} (h : call.Makes next)
    (hcall : ¬ CutOff (call.run (fuel + 1))) : ¬ CutOff (next.run fuel) := by
  refine fun hcut => hcall ?_
  cases h with
  | vars hx hy =>
    rw [run, unifyWith_vars]
    exact cutOff_unifyVars.2 ⟨_, _, hx, hy, hcut⟩
  | left hother hbound =>
    rw [run, unifyWith_var fuel _ hother]
    exact cutOff_unifyVar.2 ⟨_, hbound, hcut⟩
  | right hother hbound =>
    rw [run, unifyWith_var_right fuel _ hother]
    exact cutOff_unifyVar.2 ⟨_, hbound, hcut⟩
  | part hne haligned hlist =>
    rw [run, unifyWith_shapes fuel haligned.ne_var.1 haligned.ne_var.2, if_neg hne,
      unifyShapes_aligned _ haligned, cutOff_bind_iff fun _ _ => id]
    exact not_imp_not.1 (fun h => not_cutOff_listCalls h hlist) hcut

/-- A call with a variable returns if the call for what the variable is bound to returns. -/
lemma returns_unifyVar {name : String} {other : Ty} {s : Bindings}
    (h : ∀ bound, Named.get? s.types name = some bound → (Call.mk bound other s).Returns) :
    ∃ fuel, ¬ CutOff (unifyVar (unifyWith fuel) name other s) := by
  cases hbound : Named.get? s.types name with
  | none =>
    refine ⟨0, fun hcut => ?_⟩
    obtain ⟨bound, hsome, -⟩ := cutOff_unifyVar.1 hcut
    rw [hbound] at hsome
    cases hsome
  | some bound =>
    obtain ⟨fuel, hnext⟩ := h bound hbound
    refine ⟨fuel, fun hcut => ?_⟩
    obtain ⟨bound', hsome, hcut⟩ := cutOff_unifyVar.1 hcut
    cases hbound.symm.trans hsome
    exact hnext hcut

lemma returns_unifyVars {x y : String} {s : Bindings} (h : ∀ a b, Named.get? s.types x = some a →
      Named.get? s.types y = some b → (Call.mk a b s).Returns) :
    ∃ fuel, ¬ CutOff (unifyVars (unifyWith fuel) x y s) := by
  by_cases hbound : ∃ a b, Named.get? s.types x = some a ∧ Named.get? s.types y = some b
  · obtain ⟨a, b, hx, hy⟩ := hbound
    obtain ⟨fuel, hnext⟩ := h a b hx hy
    refine ⟨fuel, fun hcut => ?_⟩
    obtain ⟨a', b', hx', hy', hcut⟩ := cutOff_unifyVars.1 hcut
    cases hx.symm.trans hx'
    cases hy.symm.trans hy'
    exact hnext hcut
  · refine ⟨0, fun hcut => hbound ?_⟩
    obtain ⟨a, b, hx, hy, -⟩ := cutOff_unifyVars.1 hcut
    exact ⟨a, b, hx, hy⟩

/-- A call returns if all calls that it makes return. -/
lemma returns_of_makes {call : Call} (h : ∀ next, call.Makes next → next.Returns) :
    call.Returns := by
  obtain ⟨a, b, s⟩ := call
  unfold Returns run
  cases sides a b with
  | vars x y =>
    obtain ⟨fuel, hreturns⟩ := returns_unifyVars fun a b hx hy => h ⟨a, b, s⟩ (.vars hx hy)
    exact ⟨fuel + 1, hreturns⟩
  | left name hother =>
    obtain ⟨fuel, hreturns⟩ := returns_unifyVar fun bound hbound => h _ (.left hother hbound)
    refine ⟨fuel + 1, ?_⟩
    rwa [unifyWith_var fuel name hother]
  | right name hother =>
    obtain ⟨fuel, hreturns⟩ := returns_unifyVar fun bound hbound => h _ (.right hother hbound)
    refine ⟨fuel + 1, ?_⟩
    rwa [unifyWith_var_right fuel name hother]
  | shapes ha hb =>
    by_cases hne : a = b
    · refine ⟨1, ?_⟩
      rw [unifyWith_shapes 0 ha hb, if_pos hne]
      exact id
    rcases unifyShapes_cases a b with ⟨result, hdirect, hresult⟩ | haligned
    · refine ⟨1, ?_⟩
      rw [unifyWith_shapes 0 ha hb, if_neg hne, hresult]
      exact not_cutOff_direct hdirect
    · obtain ⟨fuel, hlists⟩ := exists_not_cutOff_unifyLists fun next hnext =>
        h next (.part hne haligned hnext)
      refine ⟨fuel + 1, ?_⟩
      rwa [unifyWith_shapes fuel ha hb, if_neg hne, unifyShapes_aligned _ haligned,
        cutOff_bind_iff fun _ _ => id]

/-- A call returns exactly if there is no endless chain of calls that starts with it. -/
lemma returns_iff {call : Call} : call.Returns ↔
    ¬ ∃ chain : ℕ → Call, chain 0 = call ∧ ∀ n, (chain n).Makes (chain (n + 1)) := by
  rw [← not_acc_iff_exists_descending_chain (r := fun next call => Makes call next), not_not]
  constructor
  · rintro ⟨fuel, h⟩
    -- The fuel that is enough for a call goes down along a chain.
    induction fuel generalizing call with
    | zero => exact absurd trivial h
    | succ fuel ih => exact ⟨call, fun next hnext => ih (hnext.not_cutOff h)⟩
  · intro hacc
    induction hacc with
    | intro call _ ih => exact returns_of_makes ih

end Call

lemma inherited_varsIn (names : Finset String) : Inherited (VarsIn names) where
  part := fun hty hpart name hname => hty name (.part hpart hname)
  withComponents := by
    intro ty items hty hitems name hname
    generalize hcombined : ty.withComponents items = combined at hname
    cases hname with
    | here =>
      rw [eq_var_of_withComponents hcombined] at hty
      exact hty name .here
    | part hpart hname =>
      subst hcombined
      rcases mem_components_withComponents hpart with hpart | hpart
      · exact hitems _ hpart name hname
      · exact hty name (.part hpart hname)
  enum := by
    intro entries name hname
    cases hname with
    | part hpart _ => cases hpart

namespace Call

/-- All variables of a call and of its bindings are among the given ones. -/
structure Within (names : Finset String) (call : Call) : Prop where
  lhs : VarsIn names call.lhs
  rhs : VarsIn names call.rhs
  bindings : BindsOnly (VarsIn names) call.bindings.types

lemma exists_within (call : Call) : ∃ names, call.Within names := by
  obtain ⟨lhs, hlhs⟩ := exists_varsIn call.lhs
  obtain ⟨rhs, hrhs⟩ := exists_varsIn call.rhs
  obtain ⟨bound, hbound⟩ := exists_varsIn_of_mem Prod.snd call.bindings.types
    fun entry _ => exists_varsIn entry.2
  refine ⟨lhs ∪ rhs ∪ bound, ?_, ?_, ?_⟩
  · exact varsIn_mono (Finset.subset_union_left.trans Finset.subset_union_left) hlhs
  · exact varsIn_mono (Finset.subset_union_right.trans Finset.subset_union_left) hrhs
  · intro name ty hty
    exact varsIn_mono Finset.subset_union_right (hbound _ (Named.mem_of_get? hty))

end Call

variable {names : Finset String}

lemma within_listCalls {xs ys : List Ty} {s : Bindings} {call : Call} (h : ListCalls xs ys s call)
    (hxs : ∀ x ∈ xs, VarsIn names x) (hys : ∀ y ∈ ys, VarsIn names y)
    (hs : BindsOnly (VarsIn names) s.types) : call.Within names := by
  induction h with
  | head => exact ⟨hxs _ List.mem_cons_self, hys _ List.mem_cons_self, hs⟩
  | tail fuel hz _ ih =>
    rw [List.forall_mem_cons] at hxs hys
    have hkept := (unifyWith_keeps (inherited_varsIn names) fuel hxs.1 hys.1).ok hs hz
    exact ih hxs.2 hys.2 hkept.1

lemma Call.Makes.within {call next : Call} (h : call.Makes next) (hcall : call.Within names) :
    next.Within names := by
  obtain ⟨hlhs, hrhs, hs⟩ := hcall
  cases h with
  | vars hx hy => exact ⟨hs _ _ hx, hs _ _ hy, hs⟩
  | left _ hbound => exact ⟨hs _ _ hbound, hrhs, hs⟩
  | right _ hbound => exact ⟨hs _ _ hbound, hlhs, hs⟩
  | part _ _ hlist =>
    exact within_listCalls hlist (fun x hx => (inherited_varsIn names).part hlhs hx)
      (fun y hy => (inherited_varsIn names).part hrhs hy) hs

section Level

open Classical

/-- The highest rank of a variable of a type, or zero if there is none. -/
noncomputable def level (names : Finset String) (rank : String → ℕ) (ty : Ty) : ℕ :=
  (names.filter fun name => Mentions name ty).sup fun name => rank name + 1

variable {rank : String → ℕ}

lemma level_part (names : Finset String) (rank : String → ℕ) {ty part : Ty}
    (h : part ∈ ty.components) : level names rank part ≤ level names rank ty := by
  refine Finset.sup_mono fun name hname => ?_
  rw [Finset.mem_filter] at hname ⊢
  exact ⟨hname.1, .part h hname.2⟩

/-- A type whose variables have lower ranks than a variable is on a lower level. -/
lemma level_lt {name : String} {bound : Ty} (hname : name ∈ names)
    (h : ∀ other, Mentions other bound → rank other < rank name) :
    level names rank bound < level names rank (var name) := by
  have hbound : level names rank bound ≤ rank name :=
    Finset.sup_le fun other hother => h other (Finset.mem_filter.1 hother).2
  have hvar : rank name + 1 ≤ level names rank (var name) :=
    Finset.le_sup (f := fun name => rank name + 1) (Finset.mem_filter.2 ⟨hname, .here⟩)
  omega

/-- How far a call is from its end, if following bindings leads to lower ranks: the levels of its
types and, among calls on the same levels, their sizes. -/
noncomputable def Call.distance (names : Finset String) (rank : String → ℕ) (call : Call) : ℕ ×ₗ ℕ :=
  toLex (level names rank call.lhs + level names rank call.rhs, call.lhs.size + call.rhs.size)

lemma mem_of_listCalls {xs ys : List Ty} {s : Bindings} {call : Call} (h : ListCalls xs ys s call) :
    call.lhs ∈ xs ∧ call.rhs ∈ ys := by
  induction h with
  | head => exact ⟨List.mem_cons_self, List.mem_cons_self⟩
  | tail _ _ _ ih => exact ⟨List.mem_cons_of_mem _ ih.1, List.mem_cons_of_mem _ ih.2⟩

lemma Call.Makes.distance_lt {call next : Call} (h : call.Makes next) (hcall : call.Within names)
    (hrank : ∀ name ty, Named.get? call.bindings.types name = some ty →
      ∀ other, Mentions other ty → rank other < rank name) :
    next.distance names rank < call.distance names rank := by
  obtain ⟨hlhs, hrhs, hs⟩ := hcall
  rw [Call.distance, Call.distance, Prod.Lex.toLex_lt_toLex]
  cases h with
  | vars hx hy =>
    have hx' := level_lt (hlhs _ .here) (hrank _ _ hx)
    have hy' := level_lt (hrhs _ .here) (hrank _ _ hy)
    exact .inl (Nat.add_lt_add hx' hy')
  | left _ hbound =>
    exact .inl (Nat.add_lt_add_right (level_lt (hlhs _ .here) (hrank _ _ hbound)) _)
  | right _ hbound =>
    have hlevel := level_lt (hrhs _ .here) (hrank _ _ hbound)
    refine .inl ?_
    dsimp only
    omega
  | part _ _ hlist =>
    obtain ⟨hleft, hright⟩ := mem_of_listCalls hlist
    have hlevelLeft := level_part names rank hleft
    have hlevelRight := level_part names rank hright
    have hsizeLeft := size_lt_of_mem_components hleft
    have hsizeRight := size_lt_of_mem_components hright
    dsimp only
    omega

end Level

/-- One of the calls finds the first variable bound to a type with the second one. -/
def Leads (chain : ℕ → Call) (name other : String) : Prop :=
  ∃ n ty, Named.get? (chain n).bindings.types name = some ty ∧ Mentions other ty

/-- An endless chain of calls goes round a circle. -/
lemma exists_circle {chain : ℕ → Call} (h : ∀ n, (chain n).Makes (chain (n + 1))) :
    ∃ name, TransGen (Leads chain) name name := by
  by_contra hcircle
  obtain ⟨names, hnames⟩ := (chain 0).exists_within
  have hwithin : ∀ n, (chain n).Within names := by
    intro n
    induction n with
    | zero => exact hnames
    | succ n ih => exact (h n).within ih
  obtain ⟨rank, hrank⟩ := exists_rank (R := Leads chain) names
    (fun name other ⟨n, ty, hty, hother⟩ => (hwithin n).bindings name ty hty other hother)
    fun name hname => hcircle ⟨name, hname⟩
  obtain ⟨n, hn⟩ := WellFounded.not_rel_apply_succ (r := (· < ·))
    fun n => (chain n).distance names rank
  exact hn ((h n).distance_lt (hwithin n) fun name ty hty other hother =>
    hrank name other ⟨n, ty, hty, hother⟩)

def bindingsAfter : EStateM.Result TypeError Bindings Ty → Bindings
  | .ok _ s => s
  | .error _ s => s

/-- The calls of a sequence, each with the bindings that the calls before it have left. -/
def callsFrom : List (Ty × Ty) → Bindings → List Call
  | [], _ => []
  | (a, b) :: rest, s => ⟨a, b, s⟩ :: callsFrom rest (bindingsAfter (unify a b s))

/-- Calls with a side without variables are not cut off, whatever the calls before them have given. -/
lemma callsFrom_finish {pairs : List (Ty × Ty)} {s : Bindings} (hs : BindsOnly Plain s.types)
    (h : ∀ pair ∈ pairs, pair.1.hasVars = false ∨ pair.2.hasVars = false) :
    ∀ call ∈ callsFrom pairs s, ¬ CutOff (unify call.lhs call.rhs call.bindings) := by
  induction pairs generalizing s with
  | nil => exact List.forall_mem_nil _
  | cons pair rest ih =>
    obtain ⟨hpair, hrest⟩ := List.forall_mem_cons.1 h
    obtain ⟨hkept, hreturns⟩ := unify_finishes hpair s hs
    refine List.forall_mem_cons.2 ⟨hreturns, ih ?_ hrest⟩
    cases hresult : unify pair.1 pair.2 s with
    | ok c t =>
      rw [hresult] at hkept
      exact hkept.1
    | error e t =>
      rw [hresult] at hkept
      exact hkept

/-- In a sequence of calls that share their bindings, a call returns exactly if there is no endless
chain of calls from it in which each call makes the next, and an endless chain goes round a circle
of variables, each bound to a type with the next. Calls whose one side has no variables never bind
in a circle: in a sequence of them none is cut off, whether the calls before it have failed or
not. -/
theorem unify_returns (pairs : List (Ty × Ty)) (s : Bindings) :
    (∀ call ∈ callsFrom pairs s,
      ((∃ fuel, ¬ CutOff (unifyWith fuel call.lhs call.rhs call.bindings)) ↔
        ¬ ∃ chain : ℕ → Call, chain 0 = call ∧ ∀ n, (chain n).Makes (chain (n + 1))) ∧
      ∀ chain : ℕ → Call, chain 0 = call → (∀ n, (chain n).Makes (chain (n + 1))) →
        ∃ name, TransGen (Leads chain) name name) ∧
    (BindsOnly Plain s.types →
      (∀ pair ∈ pairs, pair.1.hasVars = false ∨ pair.2.hasVars = false) →
        ∀ call ∈ callsFrom pairs s, ¬ CutOff (unify call.lhs call.rhs call.bindings)) :=
  ⟨fun _ _ => ⟨Call.returns_iff, fun _ _ h => exists_circle h⟩, fun hs h => callsFrom_finish hs h⟩

/-- The bindings after two variables have been brought together twice, in both orders. -/
def selfBound : Bindings := ⟨[("a", var "b"), ("b", var "b")], []⟩

/-- Two variables are brought together in both orders. A third call then never returns. A variable
that is brought together with types without variables is never in the way. -/
theorem unify_returns_selfBound :
    callsFrom [(var "a", var "b"), (var "b", var "a"), (var "b", number)] .empty =
        [⟨var "a", var "b", .empty⟩, ⟨var "b", var "a", ⟨[("a", var "b")], []⟩⟩,
          ⟨var "b", number, selfBound⟩] ∧
      (∀ fuel, CutOff (unifyWith fuel (var "b") number selfBound)) ∧
      ∃ chain : ℕ → Call, chain 0 = ⟨var "b", number, selfBound⟩ ∧
        (∀ n, (chain n).Makes (chain (n + 1))) ∧
        (∃ name, TransGen (Leads chain) name name) ∧
      ∀ call ∈ callsFrom [(var "a", any), (array string, array (var "a"))] .empty,
        ¬ CutOff (unify call.lhs call.rhs call.bindings) := by
  have hendless : ∀ fuel, CutOff (unifyWith fuel (var "b") number selfBound) := by
    intro fuel
    induction fuel with
    | zero => exact trivial
    | succ fuel ih =>
      rw [unifyWith_var fuel "b" (ne_var_of_hasVars rfl)]
      exact cutOff_unifyVar.2 ⟨var "b", rfl, ih⟩
  have hcalls : callsFrom [(var "a", var "b"), (var "b", var "a"), (var "b", number)] .empty =
      [⟨var "a", var "b", .empty⟩, ⟨var "b", var "a", ⟨[("a", var "b")], []⟩⟩,
        ⟨var "b", number, selfBound⟩] := rfl
  have hlast : (⟨var "b", number, selfBound⟩ : Call) ∈
      callsFrom [(var "a", var "b"), (var "b", var "a"), (var "b", number)] .empty := by
    rw [hcalls]
    exact List.mem_cons_of_mem _ (List.mem_cons_of_mem _ List.mem_cons_self)
  obtain ⟨hreturns, hcircle⟩ := (unify_returns
    [(var "a", var "b"), (var "b", var "a"), (var "b", number)] .empty).1 _ hlast
  have hchain := mt hreturns.2 fun ⟨fuel, hfuel⟩ => hfuel (hendless fuel)
  obtain ⟨chain, hstart, hmakes⟩ := not_not.1 hchain
  exact ⟨hcalls, hendless, chain, hstart, hmakes, hcircle chain hstart hmakes,
    (unify_returns _ .empty).2 (bindsOnly_nil Plain) (by simp [hasVars])⟩

end Ty

end ChannelRules
