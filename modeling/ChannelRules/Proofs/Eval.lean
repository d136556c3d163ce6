import ChannelRules.Env.Format
import ChannelRules.Proofs.Named
import ChannelRules.Proofs.Sequence

/-!
# Reasoning about evaluation

A computation is described by what it makes of the keyword cells and by its outcome: from cells with
a property it leaves cells with that property, and its result or failure has a property too. Such
descriptions are put together as the computations are.
-/

namespace ChannelRules

variable {α β : Type}

namespace Eval

@[simp] lemma ofExcept_ok (a : α) : ofExcept (.ok a) = pure a := rfl

lemma ofExcept_eq_ok {y : Except RuntimeError α} {a : α} {w w' : World} :
    ofExcept y w = .ok a w' ↔ y = .ok a ∧ w = w' := by
  cases y <;> simp [ofExcept]

lemma map_eq_ok {x : Eval α} {f : α → β} {b : β} {w w' : World} :
    (f <$> x) w = .ok b w' ↔ ∃ a, x w = .ok a w' ∧ f a = b := by
  change EStateM.map f x w = _ ↔ _
  unfold EStateM.map
  cases x w <;> simp [and_comm]

lemma ofExcept_bind (y : Except RuntimeError α) (g : α → Except RuntimeError β) :
    ofExcept (y >>= g) = ofExcept y >>= fun a => ofExcept (g a) := by
  cases y <;> rfl

lemma attempt_congr {x y : Eval α} {w v : World} (h : x w = y v) : x.attempt w = y.attempt v := by
  unfold attempt
  rw [h]

lemma attempt_bind_of_ok {x : Eval α} {a : α} {w : World} (h : (x.attempt w).1 = .ok a)
    (f : α → Eval β) : (x >>= f).attempt w = (f a).attempt (x.attempt w).2 := by
  unfold attempt at h ⊢
  cases hrun : x w with
  | error e v =>
    rw [hrun] at h
    cases h
  | ok b v =>
    rw [hrun] at h
    cases h
    rw [state_bind_of_ok hrun]

lemma attempt_bind_of_error {x : Eval α} {e : RuntimeError} {w : World}
    (h : (x.attempt w).1 = .error e) (f : α → Eval β) :
    (x >>= f).attempt w = (.error e, (x.attempt w).2) := by
  unfold attempt at h ⊢
  cases hrun : x w with
  | ok a v =>
    rw [hrun] at h
    cases h
  | error d v =>
    rw [hrun] at h
    cases h
    rw [state_bind_of_error hrun]

/-- From cells with a property a computation leaves cells with the property, and its outcome is a
result or a failure with the given properties. -/
def Ensures (I : Named Value → Prop) (P : α → Prop) (E : RuntimeError → Prop) (x : Eval α) : Prop :=
  ∀ w : World, I w.cells →
    match x w with
    | .ok a v => I v.cells ∧ P a
    | .error e v => I v.cells ∧ E e

/-- From cells with a property a computation leaves cells with the property. -/
abbrev Keeps (I : Named Value → Prop) (x : Eval α) : Prop :=
  Ensures I (fun _ => True) (fun _ => True) x

section Ensures

variable {I : Named Value → Prop} {P R : α → Prop} {Q : β → Prop} {E F : RuntimeError → Prop}
  {x : Eval α}

lemma ensures_pure {a : α} (h : P a) : Ensures I P E (pure a) := fun _ hI => ⟨hI, h⟩

lemma ensures_throw {e : RuntimeError} (h : E e) : Ensures I P E (throw e) := fun _ hI => ⟨hI, h⟩

lemma ensures_ofExcept {y : Except RuntimeError α} (h : Gives P E y) :
    Ensures I P E (ofExcept y) := by
  cases y with
  | error e => exact ensures_throw h
  | ok a => exact ensures_pure h

lemma ensures_readKeyword {cell : String} {Q : Value → Prop}
    (h : ∀ cells, I cells → ∃ v, Named.get? cells cell = some v ∧ Q v) :
    Ensures I Q E (readKeyword cell) := by
  intro w hI
  obtain ⟨v, hget, hv⟩ := h w.cells hI
  unfold readKeyword
  rw [hget]
  exact ⟨hI, hv⟩

lemma ensures_writeKeyword {cell : String} {value : Value} {view : View}
    (h : ∀ cells, I cells → I (Named.insert cells cell value)) (hE : E (.readOnlyKeyword cell)) :
    Ensures I (fun _ => True) E (view.writeKeyword cell value) := by
  unfold View.writeKeyword
  split
  · exact fun w hI => ⟨h w.cells hI, trivial⟩
  · exact ensures_throw hE

lemma ensures_draw : Ensures I (fun _ => True) E draw := fun _ hI => ⟨hI, trivial⟩

lemma Ensures.bind {f : α → Eval β} (hx : Ensures I P E x) (hf : ∀ a, P a → Ensures I Q E (f a)) :
    Ensures I Q E (x >>= f) := by
  intro w hI
  have hxw := hx w hI
  change match EStateM.bind x f w with | .ok a v => _ | .error e v => _
  unfold EStateM.bind
  cases hrun : x w with
  | error e v =>
    rw [hrun] at hxw
    exact hxw
  | ok a v =>
    rw [hrun] at hxw
    exact hf a hxw.2 v hxw.1

lemma Ensures.map {f : α → β} (hx : Ensures I P E x) (hf : ∀ a, P a → Q (f a)) :
    Ensures I Q E (f <$> x) := by
  rw [map_eq_pure_bind]
  exact hx.bind fun a ha => ensures_pure (hf a ha)

lemma Ensures.mono (hx : Ensures I P E x) (hP : ∀ a, P a → R a) (hE : ∀ e, E e → F e) :
    Ensures I R F x := by
  intro w hI
  have hxw := hx w hI
  cases hrun : x w with
  | error e v =>
    rw [hrun] at hxw
    exact hxw.imp_right (hE e)
  | ok a v =>
    rw [hrun] at hxw
    exact hxw.imp_right (hP a)

lemma Ensures.attempt (hx : Ensures I P E x) {w : World} (hI : I w.cells) :
    I (x.attempt w).2.cells ∧ Gives P E (x.attempt w).1 := by
  have hxw := hx w hI
  unfold Eval.attempt
  cases hrun : x w with
  | error e v =>
    rw [hrun] at hxw
    exact hxw
  | ok a v =>
    rw [hrun] at hxw
    exact hxw

end Ensures

end Eval

/-- All formatters of an environment, whatever they are given, keep a property of the cells and fail
only as given. -/
def Env.FormattersEnsure (I : Named Value → Prop) (E : RuntimeError → Prop) (env : Env) : Prop :=
  ∀ entry ∈ env.formatters, ∀ frame hint view,
    Eval.Ensures I (fun _ => True) E (entry.2 frame hint view)

/-- The formatters of an environment keep a property of the cells. -/
abbrev Env.FormattersKeep (I : Named Value → Prop) (env : Env) : Prop :=
  env.FormattersEnsure I fun _ => True

lemma Env.formattersKeep_true (env : Env) : env.FormattersKeep fun _ => True := by
  intro entry _ frame hint view w _
  cases entry.2 frame hint view w <;> exact ⟨trivial, trivial⟩

/-- The text of an event is as good as the formatters. -/
lemma formatEvent_ensures {I : Named Value → Prop} {E : RuntimeError → Prop} {env : Env}
    (hformat : env.FormattersEnsure I E) (hevent : E .noEvent) (hint : FormatHint) :
    Eval.Ensures I (fun _ => True) E (env.formatEvent hint) := by
  have hcurrent : Gives (fun _ => True) E env.currentEvent := by
    unfold View.currentEvent
    split
    · trivial
    · trivial
    · exact hevent
  refine (Eval.ensures_ofExcept hcurrent).bind fun frame _ => ?_
  have hchunks : Eval.Ensures I (fun _ => True) E (env.chunksOf frame hint) := by
    unfold Env.chunksOf
    split
    · rename_i formatter hformatter
      exact hformat _ (Named.mem_of_get? hformatter) frame hint env.toView
    · exact Eval.ensures_pure trivial
  exact hchunks.bind fun _ _ => Eval.ensures_pure trivial

end ChannelRules
