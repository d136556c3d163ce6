import ChannelRules.Proofs.Catalog.Coherent

/-!
# What every run keeps

Batches are told apart by their numbers, everyone who waits has joined a batch with the kind that is
waited for, and the known schemas are those that the store has returned.
-/

namespace ChannelRules

namespace BatchCache

variable {cache : BatchCache} {kind : String} {id : Nat} {batch : Batch} {answer : StoreAnswer}

lemma request_known (cache : BatchCache) (kind : String) :
    (cache.request kind).2.known = cache.known := by
  rcases cache.request_cache kind with heq | ⟨-, -, heq⟩
  · rw [heq]
  · obtain ⟨-, -, -, hknown, -⟩ := enqueue_pending cache kind
    rw [heq]
    exact hknown

lemma request_carries {other : String} (h : cache.Carries other id) :
    (cache.request kind).2.Carries other id := by
  rcases cache.request_cache kind with heq | ⟨-, -, heq⟩
  · rwa [heq]
  · rw [heq]
    exact carries_enqueue.2 (.inr h)

/-- A request that has to wait has joined a batch. -/
lemma Coherent.request_wait (h : cache.Coherent) {waiter : Waiter}
    (hwaiter : waiter ∈ (cache.request kind).1.waiters kind) :
    (cache.request kind).2.Carries waiter.kind waiter.batch := by
  rcases cache.request_cases kind with ⟨_, -, heq⟩ | ⟨id, hflight, heq⟩ | ⟨-, -, heq⟩
  · rw [heq] at hwaiter
    cases hwaiter
  · rw [heq] at hwaiter ⊢
    have heq' : waiter = ⟨kind, id⟩ := List.mem_singleton.1 hwaiter
    rw [heq']
    exact (h.inFlight kind id).1 hflight
  · rw [heq] at hwaiter ⊢
    have heq' : waiter = ⟨kind, (cache.enqueue kind).1⟩ := List.mem_singleton.1 hwaiter
    rw [heq']
    exact carries_enqueue.2 (.inl ⟨rfl, rfl⟩)

lemma request_ids (cache : BatchCache) (kind : String) :
    ((cache.request kind).2.batches.map Batch.id = cache.batches.map Batch.id ∧
      (cache.request kind).2.nextId = cache.nextId) ∨
    ((cache.request kind).2.batches.map Batch.id = cache.nextId :: cache.batches.map Batch.id ∧
      (cache.request kind).2.nextId = cache.nextId + 1) := by
  rcases cache.request_cache kind with heq | ⟨-, -, heq⟩
  · rw [heq]
    exact .inl ⟨rfl, rfl⟩
  · rw [heq]
    unfold enqueue batches
    cases cache.pending with
    | some batch => exact .inl ⟨rfl, rfl⟩
    | none => exact .inr ⟨rfl, rfl⟩

lemma carries_of_receive (hbatch : batch ∈ cache.calls) (h : cache.Carries kind id) :
    (cache.receive batch answer).Carries kind id ∨ batch.id = id ∧ kind ∈ batch.kinds := by
  obtain ⟨carrier, hcarrier, hid, hkind⟩ := h
  have hperm : cache.batches.Perm (batch :: (cache.receive batch answer).batches) :=
    batches_receive hbatch
  rcases List.mem_cons.1 (hperm.mem_iff.1 hcarrier) with rfl | hleft
  · exact .inr ⟨hid, hkind⟩
  · exact .inl ⟨carrier, hleft, hid, hkind⟩

namespace System

variable {s t u : System} {event : Event} {events events' : List Event}

/-- A call to the store has been answered for a kind in the batch of a number. -/
def Carried (s : System) (kind : String) (id : Nat) : Prop :=
  ∃ call ∈ s.completed, call.batch.id = id ∧ kind ∈ call.batch.kinds

/-- What holds in every state that a run from the empty cache reaches. -/
structure Sound (s : System) : Prop where
  coherent : s.cache.Coherent
  ids : (s.issued.map Batch.id).Nodup
  bound : ∀ id ∈ s.issued.map Batch.id, id < s.cache.nextId
  waiters : ∀ waiter ∈ s.waiters,
    s.cache.Carries waiter.kind waiter.batch ∨ s.Carried waiter.kind waiter.batch
  permits : ∀ call ∈ s.completed, call.batch.Permits call.answer
  known : ∀ kind schemas, Named.get? s.cache.known kind = some schemas ↔
    ∃ call ∈ s.completed, call.answer.Returns kind schemas

lemma sound_empty : empty.Sound where
  coherent := coherent_empty
  ids := List.nodup_nil
  bound := fun _ h => nomatch h
  waiters := fun _ h => nomatch h
  permits := fun _ h => nomatch h
  known := fun _ _ => ⟨fun h => (nomatch h), fun ⟨_, h, _⟩ => (nomatch h)⟩

lemma Sound.get (h : s.Sound) (kind : String) :
    ({ s with
      cache := (s.cache.request kind).2
      waiters := s.waiters ++ (s.cache.request kind).1.waiters kind } : System).Sound := by
  have hids : ({ s with cache := (s.cache.request kind).2 } : System).issued.map Batch.id =
      (s.cache.request kind).2.batches.map Batch.id ++
        (s.completed.map CompletedCall.batch).map Batch.id := List.map_append
  have hbefore : s.issued.map Batch.id = s.cache.batches.map Batch.id ++
      (s.completed.map CompletedCall.batch).map Batch.id := List.map_append
  have hfresh : s.cache.nextId ∉ s.issued.map Batch.id := fun hmem =>
    Nat.lt_irrefl _ (h.bound _ hmem)
  refine ⟨h.coherent.request kind, ?_, fun id hid => ?_, fun waiter hwaiter => ?_, h.permits,
    fun other schemas => ?_⟩
  -- A new batch takes the next number, which no batch before it has.
  · refine hids ▸ ?_
    rcases request_ids s.cache kind with ⟨heq, -⟩ | ⟨heq, -⟩
    · rw [heq, ← hbefore]
      exact h.ids
    · rw [heq, List.cons_append, ← hbefore]
      exact List.nodup_cons.2 ⟨hfresh, h.ids⟩
  · replace hid := hids ▸ hid
    rcases request_ids s.cache kind with ⟨heq, hnext⟩ | ⟨heq, hnext⟩
    · rw [heq, ← hbefore] at hid
      have hlt := h.bound id hid
      simp only [hnext]
      exact hlt
    · rw [heq, List.cons_append, ← hbefore] at hid
      simp only [hnext]
      rcases List.mem_cons.1 hid with rfl | hid
      · omega
      · have hlt := h.bound id hid
        omega
  · rcases List.mem_append.1 hwaiter with hwaiter | hwaiter
    · exact (h.waiters waiter hwaiter).imp_left request_carries
    · exact .inl (h.coherent.request_wait hwaiter)
  · rw [← h.known other schemas]
    exact Eq.congr_left (congrArg (Named.get? · other) (request_known s.cache kind))

lemma Sound.flush (h : s.Sound) {id : Nat} (hid : id ∈ s.cache.flushes) :
    ({ s with cache := (s.cache.flush id).2 } : System).Sound := by
  obtain ⟨batch, -, -, -, heq⟩ := h.coherent.flush_eq hid
  have hperm : (({ s with cache := (s.cache.flush id).2 } : System).issued.map Batch.id).Perm
      (s.issued.map Batch.id) := ((batches_flush s.cache id).append_right _).map _
  have hsame : (s.cache.flush id).2.known = s.cache.known ∧
      (s.cache.flush id).2.nextId = s.cache.nextId := by
    rw [heq]
    exact ⟨rfl, rfl⟩
  refine ⟨h.coherent.flush hid, hperm.nodup_iff.2 h.ids, fun other hother => ?_,
    fun waiter hwaiter => ?_, h.permits, fun kind schemas => ?_⟩
  · simp only [hsame.2]
    exact h.bound other (hperm.mem_iff.1 hother)
  · exact (h.waiters waiter hwaiter).imp_left carries_flush.2
  · simp only [hsame.1]
    exact h.known kind schemas

lemma known_answer (h : s.Sound) (hbatch : batch ∈ s.cache.calls) (hanswer : batch.Permits answer)
    (kind : String) (schemas : KindSchemas) :
    Named.get? (s.cache.receive batch answer).known kind = some schemas ↔
      Named.get? s.cache.known kind = some schemas ∨ answer.Returns kind schemas := by
  cases answer with
  | error error =>
    have hnone : ¬StoreAnswer.Returns (.error error) kind schemas := fun ⟨_, h, _⟩ => nomatch h
    simp [receive, hnone]
  | ok found =>
    have hreturns : StoreAnswer.Returns (.ok found) kind schemas ↔
        Named.get? found kind = some schemas := by simp [StoreAnswer.Returns]
    have hlearn : (s.cache.receive batch (.ok found)).known = learn s.cache.known found := rfl
    rw [hreturns, hlearn, get?_learn hanswer.1]
    by_cases hkind : kind ∈ batch.kinds
    · have hcarries : s.cache.Carries kind batch.id :=
        ⟨batch, List.mem_append_right _ hbatch, rfl, hkind⟩
      -- The kind is on its way, so nothing that was known is replaced.
      rw [h.coherent.unknown kind batch.id hcarries]
      simp
    · have hnone : Named.get? found kind = none :=
        Named.get?_eq_none_iff.2 fun hmem => hkind (hanswer.2 hmem)
      rw [hnone]
      simp

lemma Sound.receive (h : s.Sound) (hbatch : batch ∈ s.cache.calls)
    (hanswer : batch.Permits answer) :
    ({ s with
      cache := s.cache.receive batch answer
      completed := s.completed ++ [⟨batch, answer⟩] } : System).Sound := by
  have hperm : (({ s with
      cache := s.cache.receive batch answer
      completed := s.completed ++ [⟨batch, answer⟩] } : System).issued.map Batch.id).Perm
        (s.issued.map Batch.id) := by
    refine List.Perm.map _ ?_
    have hbatches : s.cache.batches.Perm (batch :: (s.cache.receive batch answer).batches) :=
      batches_receive hbatch
    unfold issued
    rw [List.map_append, ← List.append_assoc]
    refine List.perm_append_comm.trans ?_
    exact (hbatches.append_right _).symm
  refine ⟨h.coherent.receive hbatch hanswer, hperm.nodup_iff.2 h.ids, fun other hother => ?_,
    fun waiter hwaiter => ?_, fun call hcall => ?_, fun kind schemas => ?_⟩
  · exact h.bound other (hperm.mem_iff.1 hother)
  · rcases h.waiters waiter hwaiter with hcarries | ⟨call, hcall, hcarried⟩
    · refine (carries_of_receive hbatch hcarries).imp_right fun hcarried => ?_
      exact ⟨⟨batch, answer⟩, List.mem_append_right _ (List.mem_singleton_self _), hcarried⟩
    · exact .inr ⟨call, List.mem_append_left _ hcall, hcarried⟩
  · rcases List.mem_append.1 hcall with hcall | hcall
    · exact h.permits call hcall
    · rw [List.mem_singleton.1 hcall]
      exact hanswer
  · rw [known_answer h hbatch hanswer, h.known]
    simp only [List.mem_append, List.mem_singleton, or_and_right, exists_or, exists_eq_left]

lemma Step.sound (hstep : Step s event t) (h : s.Sound) : t.Sound := by
  cases hstep with
  | get kind => exact h.get kind
  | flush hid => exact h.flush hid
  | answer hbatch hanswer => exact h.receive hbatch hanswer
  | resume hwaiter hanswer =>
    exact { h with waiters := fun waiter hleft => h.waiters waiter (List.mem_of_mem_erase hleft) }

lemma Run.sound (hrun : Run s events t) (h : s.Sound) : t.Sound := by
  induction hrun with
  | nil s => exact h
  | cons hstep _ ih => exact ih (hstep.sound h)

lemma Run.split (h : Run s (events ++ events') u) : ∃ t, Run s events t ∧ Run t events' u := by
  induction events generalizing s with
  | nil => exact ⟨s, .nil s, h⟩
  | cons event events ih =>
    cases h with
    | cons hstep hrun =>
      obtain ⟨t, hfirst, hrest⟩ := ih hrun
      exact ⟨t, .cons hstep hfirst, hrest⟩

lemma Step.completed_subset (h : Step s event t) : s.completed ⊆ t.completed := by
  cases h with
  | answer => exact List.subset_append_left _ _
  | get | flush | resume => exact List.Subset.refl _

lemma Run.completed_subset (h : Run s events t) : s.completed ⊆ t.completed := by
  induction h with
  | nil s => exact List.Subset.refl _
  | cons hstep _ ih => exact List.Subset.trans hstep.completed_subset ih

end System

end BatchCache

end ChannelRules
