import ChannelRules.Ty.Unify

/-!
# Outcomes with notices

A computation that may fail and that gives notices on the way. Notices given before a failure are
kept. The outcome of a sequence depends on the outcomes of its parts only, never on the notices.
-/

namespace ChannelRules

/-- An outcome, and the notices given while it was found. -/
structure Noted (ε α : Type) where
  notices : List Notice
  result : Except ε α

namespace Noted

variable {ε ε' α β : Type}

/-- Succeed without a notice. -/
def ok (a : α) : Noted ε α := ⟨[], .ok a⟩

/-- Fail without a notice. -/
def fail (e : ε) : Noted ε α := ⟨[], .error e⟩

/-- An outcome without notices. -/
def ofExcept (result : Except ε α) : Noted ε α := ⟨[], result⟩

/-- Run a second computation after a first one that succeeds. -/
def andThen (first : Noted ε α) (next : α → Noted ε β) : Noted ε β :=
  match first.result with
  | .ok a =>
    let second := next a
    ⟨first.notices ++ second.notices, second.result⟩
  | .error e => ⟨first.notices, .error e⟩

instance : Monad (Noted ε) where
  pure := ok
  bind := andThen

/-- Restate a failure. -/
def mapError (f : ε → ε') (x : Noted ε α) : Noted ε' α := ⟨x.notices, x.result.mapError f⟩

/-- Put notices before those of a computation. -/
def after (notices : List Notice) (x : Noted ε α) : Noted ε α := ⟨notices ++ x.notices, x.result⟩

@[simp] theorem result_after (notices : List Notice) (x : Noted ε α) :
    (after notices x).result = x.result := rfl

@[simp] theorem result_pure (a : α) : (pure a : Noted ε α).result = .ok a := rfl

@[simp] theorem result_fail (e : ε) : (fail e : Noted ε α).result = .error e := rfl

@[simp] theorem result_ofExcept (r : Except ε α) : (ofExcept r).result = r := rfl

@[simp] theorem result_mapError (f : ε → ε') (x : Noted ε α) :
    (x.mapError f).result = x.result.mapError f := rfl

/-- The outcome of a sequence is found from the outcomes alone. -/
@[simp] theorem result_bind (x : Noted ε α) (f : α → Noted ε β) :
    (x >>= f).result = x.result >>= fun a => (f a).result := by
  show (andThen x f).result = _
  unfold andThen
  cases x.result <;> rfl

/-- Run a computation on every item of a list, up to the first failure. -/
def forAll (f : α → Noted ε β) : List α → Noted ε (List β)
  | [] => pure []
  | a :: rest => do
    let b ← f a
    let bs ← forAll f rest
    return b :: bs

end Noted

namespace Ty

/-- Bring two types together without bindings from before. -/
def agree (a b : Ty) : Noted TypeError Ty :=
  let (result, notices) := unifyFresh a b
  ⟨notices, result⟩

theorem agree_eq_ok {a b c : Ty} :
    (agree a b).result = .ok c ↔ ∃ s, unify a b .empty = .ok c s := by
  unfold agree unifyFresh
  cases unify a b .empty <;> simp

/-- Bring a list of types together, one after the other, with shared bindings. -/
def unifyAll : Ty → List Ty → Unify Ty
  | first, [] => return first
  | first, ty :: rest => do
    let joined ← unify first ty
    unifyAll joined rest

/-- The type that all the given types agree with. -/
def join (types : List Ty) : Noted TypeError Ty :=
  match unifyAll any types .empty with
  | .ok ty s => ⟨s.notices, .ok ty⟩
  | .error e s => ⟨s.notices, .error e⟩

theorem join_eq_ok {types : List Ty} {c : Ty} :
    (join types).result = .ok c ↔ ∃ s, unifyAll any types .empty = .ok c s := by
  unfold join
  cases unifyAll any types .empty <;> simp

end Ty

end ChannelRules
