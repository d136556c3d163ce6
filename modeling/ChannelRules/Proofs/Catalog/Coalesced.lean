import ChannelRules.Proofs.Catalog.Runs

/-!
# Requests share calls

However requests, flushes and answers follow each other, no kind is asked for twice at the same time,
and a kind whose schemas have come is not asked for again. A kind that is not requested again is in
the pending batch or in one of the calls that are made from now on, never in both.
-/

namespace ChannelRules

namespace BatchCache

variable {kind : String} {id : Nat} {batch : Batch}

/-- How many of some batches have a kind. -/
def asks (kind : String) (batches : List Batch) : Nat :=
  batches.countP fun batch => decide (kind ∈ batch.kinds)

lemma callsOf_cons (event : Event) (events : List Event) :
    callsOf (event :: events) = event.call?.toList ++ callsOf events := by
  unfold callsOf
  rw [List.filterMap_cons]
  cases event.call? with
  | none => rfl
  | some batch => rfl

lemma callsOf_append (xs ys : List Event) : callsOf (xs ++ ys) = callsOf xs ++ callsOf ys :=
  List.filterMap_append

lemma asks_append (xs ys : List Batch) : asks kind (xs ++ ys) = asks kind xs + asks kind ys :=
  List.countP_append

lemma callsOf_eq_nil {events : List Event} (h : ∀ id found, Event.flush id found ∉ events) :
    callsOf events = [] := by
  refine List.filterMap_eq_nil_iff.2 fun event hevent => ?_
  cases event with
  | flush id found => exact absurd hevent (h id found)
  | get | answer | resume => rfl

def pendingKinds (cache : BatchCache) : List String := cache.pending.toList.flatMap Batch.kinds

lemma pendingKinds_enqueue (cache : BatchCache) (kind : String) :
    (cache.enqueue kind).2.pendingKinds = cache.pendingKinds ++ [kind] := by
  obtain ⟨kinds, hpending, -, -, -, hkinds⟩ := enqueue_pending cache kind
  have hbefore : cache.pendingKinds = kinds := hkinds
  rw [hbefore, pendingKinds, hpending]
  simp

lemma asks_pending (cache : BatchCache) :
    asks kind cache.pending.toList = if kind ∈ cache.pendingKinds then 1 else 0 := by
  unfold asks pendingKinds
  cases cache.pending with
  | none => rfl
  | some batch =>
    by_cases hkind : kind ∈ batch.kinds
    · simp [hkind]
    · simp [hkind]

namespace System

variable {s t u : System} {event : Event} {events first rest : List Event} {found : Option Batch}

lemma Sound.flush_found (h : s.Sound) (hstep : Step s (.flush id found) t) :
    ∃ batch, found = some batch ∧ s.cache.pending = some batch ∧ t.cache.pending = none ∧
      batch.id = id ∧ batch.kinds ≠ [] ∧ batch.kinds.Nodup := by
  cases hstep with
  | flush hid =>
    obtain ⟨batch, hpending, heq, hkinds, hflush⟩ := h.coherent.flush_eq hid
    have hnodup := h.coherent.nodup
    rw [batches, hpending, List.flatMap_append] at hnodup
    have hbatch : batch.kinds.Nodup := by simpa using hnodup.of_append_left
    exact ⟨batch, by rw [hflush], hpending, by rw [hflush], heq, hkinds, hbatch⟩

lemma Run.step_of_mem (hrun : Run s events u) (hevent : event ∈ events) :
    ∃ before t t', Run s before t ∧ Step t event t' := by
  obtain ⟨before, after, rfl⟩ := List.append_of_mem hevent
  obtain ⟨t, hbefore, hafter⟩ := hrun.split
  cases hafter with
  | cons hstep hrest => exact ⟨before, t, _, hbefore, hstep⟩

lemma mem_callsOf : batch ∈ callsOf events ↔ ∃ id, Event.flush id (some batch) ∈ events := by
  unfold callsOf
  rw [List.mem_filterMap]
  constructor
  · rintro ⟨event, hevent, hcall⟩
    cases event with
    | flush id found =>
      have heq : found = some batch := hcall
      exact ⟨id, heq ▸ hevent⟩
    | get | answer | resume => cases hcall
  · rintro ⟨id, hevent⟩
    exact ⟨_, hevent, rfl⟩

lemma Run.not_asked {schemas : KindSchemas} {call : CompletedCall} (hrun : Run s events t)
    (h : s.Sound) (hcall : call ∈ s.completed) (hreturns : call.answer.Returns kind schemas)
    (hbatch : batch ∈ callsOf events) : kind ∉ batch.kinds := by
  obtain ⟨id, hflush⟩ := mem_callsOf.1 hbatch
  obtain ⟨before, u, u', hbefore, hstep⟩ := hrun.step_of_mem hflush
  have hu : u.Sound := hbefore.sound h
  obtain ⟨_, heq, hpending, -⟩ := hu.flush_found hstep
  cases heq
  -- What is in the pending batch is not known, but the schemas of the kind have come before.
  have hknown := (hu.known kind schemas).2 ⟨call, hbefore.completed_subset hcall, hreturns⟩
  intro hkind
  have hmem : batch ∈ u.cache.batches := by
    rw [batches, hpending]
    exact List.mem_cons_self
  have hnone := hu.coherent.unknown kind batch.id ⟨batch, hmem, rfl, hkind⟩
  rw [hknown] at hnone
  cases hnone

lemma Step.asks_eq (hstep : Step s event t) (h : s.Sound)
    (hget : ∀ ticket, event ≠ .get kind ticket) :
    asks kind event.call?.toList + asks kind t.cache.pending.toList =
      asks kind s.cache.pending.toList := by
  have hnone : asks kind (Option.toList none) = 0 := rfl
  cases hstep with
  | get other =>
    have hne : kind ≠ other := fun heq => hget _ (by rw [heq])
    have hcall : (Event.get other (s.cache.request other).1).call? = none := rfl
    rw [hcall, hnone, Nat.zero_add]
    rcases s.cache.request_cache other with heq | ⟨-, -, heq⟩
    · rw [heq]
    · rw [heq, asks_pending, asks_pending, pendingKinds_enqueue]
      simp [hne]
  | @flush id hid =>
    obtain ⟨batch, hfound, hpending, hafter, -⟩ := h.flush_found (Step.flush hid)
    have hcall : (Event.flush id (s.cache.flush id).1).call? = some batch := hfound
    have hafter' : (s.cache.flush id).2.pending = none := hafter
    simp only [hcall, hafter', hpending, hnone, Nat.add_zero]
  | answer => exact Nat.zero_add _
  | resume => exact Nat.zero_add _

/-- A kind that is not requested in the meantime goes from the pending batch into one call. -/
lemma Run.asks_eq (hrun : Run s events t) (h : s.Sound)
    (hget : ∀ ticket, Event.get kind ticket ∉ events) :
    asks kind (callsOf events) + asks kind t.cache.pending.toList =
      asks kind s.cache.pending.toList := by
  induction hrun with
  | nil s => exact Nat.zero_add _
  | cons hstep _ ih =>
    have hfirst := hstep.asks_eq h fun ticket heq => hget ticket (heq ▸ List.mem_cons_self)
    have hrest := ih (hstep.sound h) fun ticket hmem => hget ticket (List.mem_cons_of_mem _ hmem)
    rw [callsOf_cons, asks_append]
    omega

/-- No flush has run yet. -/
structure Unasked (s : System) : Prop where
  calls : s.cache.calls = []
  completed : s.completed = []

lemma Unasked.step (hunasked : s.Unasked) (hstep : Step s event t)
    (hflush : ∀ id found, event ≠ .flush id found) :
    t.Unasked ∧ s.cache.pendingKinds ⊆ t.cache.pendingKinds := by
  cases hstep with
  | get other =>
    rcases s.cache.request_cache other with heq | ⟨-, -, heq⟩
    · rw [heq]
      exact ⟨⟨hunasked.calls, hunasked.completed⟩, List.Subset.refl _⟩
    · obtain ⟨-, -, hcalls, -⟩ := enqueue_pending s.cache other
      rw [heq]
      refine ⟨⟨hcalls.trans hunasked.calls, hunasked.completed⟩, ?_⟩
      rw [pendingKinds_enqueue]
      exact List.subset_append_left _ _
  | flush => exact absurd rfl (hflush _ _)
  | answer hbatch =>
    rw [hunasked.calls] at hbatch
    cases hbatch
  | resume => exact ⟨⟨hunasked.calls, hunasked.completed⟩, List.Subset.refl _⟩

lemma Unasked.get (hunasked : s.Unasked) (h : s.Sound) {ticket : Ticket}
    (hstep : Step s (.get kind ticket) t) : kind ∈ t.cache.pendingKinds := by
  have hbatches : s.cache.batches = s.cache.pending.toList := by
    rw [batches, hunasked.calls, List.append_nil]
  cases hstep with
  | get =>
    rcases s.cache.request_cases kind with ⟨_, hknown, heq⟩ | ⟨id, hflight, heq⟩ | ⟨-, -, heq⟩
    · obtain ⟨call, hcall, -⟩ := (h.known _ _).1 hknown
      rw [hunasked.completed] at hcall
      cases hcall
    · have hmem := mem_kinds.2 ⟨id, (h.coherent.inFlight kind id).1 hflight⟩
      rw [hbatches] at hmem
      simp only [heq]
      exact hmem
    · simp only [heq]
      rw [pendingKinds_enqueue]
      exact List.mem_append_right _ (List.mem_singleton_self _)

lemma Run.unasked (hrun : Run s events t) (h : s.Sound) (hunasked : s.Unasked)
    (hflush : ∀ id found, Event.flush id found ∉ events) :
    s.cache.pendingKinds ⊆ t.cache.pendingKinds ∧
      ∀ kind ticket, Event.get kind ticket ∈ events → kind ∈ t.cache.pendingKinds := by
  induction hrun with
  | nil s => exact ⟨List.Subset.refl _, fun _ _ hmem => nomatch hmem⟩
  | cons hstep _ ih =>
    obtain ⟨hnext, hsubset⟩ := hunasked.step hstep fun id found heq =>
      hflush id found (heq ▸ List.mem_cons_self)
    obtain ⟨hrest, hgets⟩ := ih (hstep.sound h) hnext fun id found hmem =>
      hflush id found (List.mem_cons_of_mem _ hmem)
    refine ⟨List.Subset.trans hsubset hrest, fun kind ticket hmem => ?_⟩
    rcases List.mem_cons.1 hmem with rfl | hmem
    · exact hrest (hunasked.get h hstep)
    · exact hgets kind ticket hmem

/-- Of the calls of a run that requests a kind before the first flush only, and of the pending batch at
its end, exactly one has the kind. -/
lemma Run.asks_once {ticket : Ticket} (hrun : Run .empty (first ++ rest) s)
    (hflush : ∀ id found, Event.flush id found ∉ first) (hfirst : Event.get kind ticket ∈ first)
    (hrest : ∀ ticket, Event.get kind ticket ∉ rest) :
    asks kind (callsOf (first ++ rest)) +
      asks kind s.cache.pending.toList = 1 := by
  -- Where the two parts of the run meet, the kind is pending, and no call has been made.
  obtain ⟨t, hbefore, hafter⟩ := hrun.split
  have hkind : kind ∈ t.cache.pendingKinds :=
    (hbefore.unasked sound_empty ⟨rfl, rfl⟩ hflush).2 kind ticket hfirst
  have hasks := hafter.asks_eq (hbefore.sound sound_empty) hrest
  have hnone : callsOf first = [] := callsOf_eq_nil hflush
  have hcalls : callsOf (first ++ rest) = callsOf rest := by
    rw [callsOf_append, hnone, List.nil_append]
  rw [hcalls, hasks, asks_pending, if_pos hkind]

/-- Once a flush has run, a kind that has not been requested since is not pending. -/
lemma Run.asks_pending_of_flush (hrun : Run s events t) (h : s.Sound)
    (hflush : Event.flush id found ∈ events) (hget : ∀ ticket, Event.get kind ticket ∉ events) :
    asks kind t.cache.pending.toList = 0 := by
  obtain ⟨before, after, rfl⟩ := List.append_of_mem hflush
  obtain ⟨u, hbefore, hrest⟩ := hrun.split
  cases hrest with
  | cons hstep hafter =>
    have hu : u.Sound := hbefore.sound h
    obtain ⟨_, -, -, hpending, -⟩ := hu.flush_found hstep
    have hasks := hafter.asks_eq (hstep.sound hu) fun ticket hmem =>
      hget ticket (List.mem_append_right _ (List.mem_cons_of_mem _ hmem))
    have hnone : asks kind (Option.toList none) = 0 := rfl
    rw [hpending, hnone] at hasks
    omega

/-- Schemas that a call has returned are not asked for again. -/
lemma Run.not_asked_after {before after : List Event} {schemas : Named KindSchemas}
    (hrun : Run s (before ++ .answer batch (.ok schemas) :: after) t) (h : s.Sound)
    (hkind : kind ∈ Named.names schemas) {asked : Batch} (hasked : asked ∈ callsOf after) :
    kind ∉ asked.kinds := by
  obtain ⟨u, hbefore, hrest⟩ := hrun.split
  obtain ⟨found, hfound⟩ := Named.has_eq_true_iff.1 ((Named.has_iff_mem_names schemas kind).2 hkind)
  cases hrest with
  | cons hstep hafter =>
    have hsound := hstep.sound (hbefore.sound h)
    cases hstep with
    | answer =>
      exact hafter.not_asked hsound (List.mem_append_right _ (List.mem_singleton_self _))
        ⟨schemas, rfl, hfound⟩ hasked

/-- Once a flush has run or none is left to run, exactly one call has a kind that was requested before
the first flush only. -/
lemma Run.asks_exactly_once {ticket : Ticket} (hrun : Run .empty (first ++ rest) s)
    (hflush : ∀ id found, Event.flush id found ∉ first) (hfirst : Event.get kind ticket ∈ first)
    (hrest : ∀ ticket, Event.get kind ticket ∉ rest)
    (hran : (∃ id found, Event.flush id found ∈ rest) ∨ s.cache.flushes = []) :
    asks kind (callsOf (first ++ rest)) = 1 := by
  have honce := hrun.asks_once hflush hfirst hrest
  have hnone : asks kind s.cache.pending.toList = 0 := by
    rcases hran with ⟨id, found, hran⟩ | hran
    · obtain ⟨t, hbefore, hafter⟩ := hrun.split
      exact hafter.asks_pending_of_flush (hbefore.sound sound_empty) hran hrest
    · have hpending := (hrun.sound sound_empty).coherent.flushes
      rw [hran] at hpending
      have heq : s.cache.pending.toList = [] := List.map_eq_nil_iff.1 hpending.symm
      rw [heq]
      rfl
  omega

/-- Every flush finds the batch that it was started for; the batch has kinds, and none of them twice.
No kind is in two calls that are not answered, or twice in one of them. A kind whose schemas have
been returned is not asked for again. If a kind is requested before the first flush, any number of
times, and not again, then at most one call has it, and exactly one as soon as a flush has run and
whenever no flush is left to run. -/
theorem Run.coalesced (hrun : Run .empty events s) :
    (∀ id found, Event.flush id found ∈ events →
      ∃ batch, found = some batch ∧ batch.id = id ∧ batch.kinds ≠ [] ∧ batch.kinds.Nodup) ∧
    (s.cache.calls.flatMap Batch.kinds).Nodup ∧
    (∀ before batch schemas after, events = before ++ .answer batch (.ok schemas) :: after →
      ∀ kind ∈ Named.names schemas, ∀ asked ∈ callsOf after, kind ∉ asked.kinds) ∧
    (∀ kind ticket first rest, events = first ++ rest →
      (∀ id found, Event.flush id found ∉ first) → Event.get kind ticket ∈ first →
      (∀ ticket, Event.get kind ticket ∉ rest) →
        asks kind (callsOf events) ≤ 1 ∧
        ((∃ id found, Event.flush id found ∈ rest) ∨ s.cache.flushes = [] →
          asks kind (callsOf events) = 1)) := by
  have h : s.Sound := hrun.sound sound_empty
  refine ⟨fun id found hflush => ?_, ?_,
    fun before batch schemas after heq kind hkind asked hasked => ?_,
    fun kind ticket first rest heq hflush hfirst hrest => ?_⟩
  · obtain ⟨before, t, t', hbefore, hstep⟩ := hrun.step_of_mem hflush
    obtain ⟨batch, hfound, -, -, hbatch⟩ := (hbefore.sound sound_empty).flush_found hstep
    exact ⟨batch, hfound, hbatch⟩
  · have hnodup := h.coherent.nodup
    rw [batches, List.flatMap_append] at hnodup
    exact hnodup.of_append_right
  · subst heq
    exact hrun.not_asked_after sound_empty hkind hasked
  · subst heq
    have honce := hrun.asks_once hflush hfirst hrest
    exact ⟨by omega, fun hran => hrun.asks_exactly_once hflush hfirst hrest hran⟩

/-- Of three requests before the flush, two are for one kind. -/
theorem Run.coalesced_lampTwice :
    ∃ s, Run .empty [.get "lamp" (.wait 0), .get "tv" (.wait 0), .get "lamp" (.wait 0),
        .flush 0 (some ⟨0, ["lamp", "tv"]⟩)] s ∧
      (s.cache.calls.flatMap Batch.kinds).Nodup ∧
      asks "lamp" (callsOf [.get "lamp" (.wait 0), .get "tv" (.wait 0), .get "lamp" (.wait 0),
        .flush 0 (some ⟨0, ["lamp", "tv"]⟩)]) = 1 := by
  have hrun : Run .empty [.get "lamp" (.wait 0), .get "tv" (.wait 0), .get "lamp" (.wait 0),
      .flush 0 (some ⟨0, ["lamp", "tv"]⟩)]
      ⟨⟨[], [("lamp", 0), ("tv", 0)], none, [], [⟨0, ["lamp", "tv"]⟩], 1⟩,
        [⟨"lamp", 0⟩, ⟨"tv", 0⟩, ⟨"lamp", 0⟩], []⟩ :=
    .cons (.get "lamp") <| .cons (.get "tv") <| .cons (.get "lamp") <|
      .cons (.flush List.mem_cons_self) (.nil _)
  obtain ⟨-, hnodup, -, honce⟩ := hrun.coalesced
  refine ⟨_, hrun, hnodup, ?_⟩
  have hone := honce "lamp" (.wait 0)
    [.get "lamp" (.wait 0), .get "tv" (.wait 0), .get "lamp" (.wait 0)]
    [.flush 0 (some ⟨0, ["lamp", "tv"]⟩)] rfl (by simp) (by simp) (by simp)
  exact hone.2 (.inl ⟨0, _, List.mem_cons_self⟩)

end System

end BatchCache

end ChannelRules
