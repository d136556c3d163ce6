import ChannelRules.Proofs.Catalog.Runs

/-!
# Everyone who asks is answered

A request completes with what the call that carried its kind has brought: the schemas of that kind, or
the reason why there are none. A kind that could not be had is forgotten, so that the next request
for it asks again.
-/

namespace ChannelRules

namespace BatchCache

variable {kind : String} {batch : Batch} {answer : StoreAnswer} {schemas : KindSchemas}
  {error : SchemaError}

lemma collect_ok (kind : String) (found : Named KindSchemas) :
    collect kind (.ok found) =
      (Named.get? found kind).elim (.error (.unknownKind kind)) Except.ok := by
  simp only [collect, bind, Except.bind]
  cases Named.get? found kind <;> rfl

lemma collect_eq_ok : collect kind answer = .ok schemas ↔ answer.Returns kind schemas := by
  cases answer with
  | error error => simp [collect, StoreAnswer.Returns, bind, Except.bind]
  | ok found =>
    rw [collect_ok]
    cases hget : Named.get? found kind with
    | none => simp [StoreAnswer.Returns, hget]
    | some schemas' => simp [StoreAnswer.Returns, hget]

lemma collect_eq_error : collect kind answer = .error error ↔
    answer = .error error ∨ error = .unknownKind kind ∧ answer.Omits kind := by
  cases answer with
  | error error' => simp [collect, StoreAnswer.Omits, bind, Except.bind]
  | ok found =>
    rw [collect_ok]
    cases hget : Named.get? found kind with
    | none => simp [StoreAnswer.Omits, hget, eq_comm]
    | some schemas => simp [StoreAnswer.Omits, hget]

namespace System

variable {s t : System} {event : Event} {events : List Event} {ticket : Ticket}
  {waiter : Waiter} {outcome : Except SchemaError KindSchemas}

lemma Sound.mem_inFlight (h : s.Sound) : kind ∈ Named.names s.cache.inFlight ↔
    (∃ batch, s.cache.pending = some batch ∧ kind ∈ batch.kinds) ∨
      ∃ batch ∈ s.cache.calls, kind ∈ batch.kinds := by
  have hcarries : kind ∈ Named.names s.cache.inFlight ↔ ∃ id, s.cache.Carries kind id := by
    rw [← Named.has_iff_mem_names, Named.has_eq_true_iff]
    exact exists_congr (h.coherent.inFlight kind)
  rw [hcarries, ← mem_kinds, batches, List.flatMap_append, List.mem_append, List.mem_flatMap,
    List.mem_flatMap]
  simp only [Option.mem_toList]

lemma Step.ticket_eq (hstep : Step s (.get kind ticket) t) : ticket = (s.cache.request kind).1 := by
  cases hstep
  rfl

/-- Schemas that are found in the cache have been returned by a call. -/
lemma Sound.hit (h : s.Sound) (hstep : Step s (.get kind (.hit schemas)) t) :
    ∃ call ∈ s.completed, kind ∈ call.batch.kinds ∧ call.answer.Returns kind schemas := by
  have hhit : (s.cache.request kind).1 = .hit schemas := hstep.ticket_eq.symm
  have hknown : Named.get? s.cache.known kind = some schemas := by
    rcases s.cache.request_cases kind with ⟨found, hfound, heq⟩ | ⟨_, -, heq⟩ | ⟨-, -, heq⟩
    · rw [heq] at hhit
      cases hhit
      exact hfound
    · rw [heq] at hhit
      cases hhit
    · rw [heq] at hhit
      cases hhit
  obtain ⟨call, hcall, hreturns⟩ := (h.known kind schemas).1 hknown
  obtain ⟨found, hanswer, hfound⟩ := hreturns
  have hpermits := h.permits call hcall
  rw [hanswer] at hpermits
  have hmem : kind ∈ Named.names found := by
    rw [← Named.has_iff_mem_names, Named.has_eq_true_iff]
    exact ⟨schemas, hfound⟩
  exact ⟨call, hcall, hpermits.2 hmem, found, hanswer, hfound⟩

lemma Sound.call_unique (h : s.Sound) {call call' : CompletedCall} (hcall : call ∈ s.completed)
    (hcall' : call' ∈ s.completed) (hid : call.batch.id = call'.batch.id) : call = call' := by
  have hids := h.ids
  rw [issued, List.map_append, List.map_map] at hids
  exact List.inj_on_of_nodup_map hids.of_append_right hcall hcall' hid

lemma Sound.carries_ne (h : s.Sound) {id : Nat} {call : CompletedCall} (hcall : call ∈ s.completed)
    (hcarries : s.cache.Carries kind id) : call.batch.id ≠ id := by
  obtain ⟨batch, hbatch, hid, -⟩ := hcarries
  have hids := h.ids
  rw [issued, List.map_append] at hids
  intro heq
  refine (List.nodup_append'.1 hids).2.2 (List.mem_map_of_mem hbatch) ?_
  rw [hid, ← heq]
  exact List.mem_map_of_mem (List.mem_map_of_mem hcall)

/-- Whoever waits is told the answer to the call that carried the kind, and nothing else. -/
lemma Sound.resolves (h : s.Sound) (hwaiter : waiter ∈ s.waiters)
    (hresolves : s.Resolves waiter.batch answer) :
    ∃ call ∈ s.completed, call.batch.id = waiter.batch ∧ waiter.kind ∈ call.batch.kinds ∧
      call.answer = answer := by
  cases hresolves with
  | @completed call hcall hid =>
    rcases h.waiters waiter hwaiter with hcarries | ⟨carrier, hcarrier, hid', hkind⟩
    -- The number of a batch that is still on its way is not that of a completed call.
    · exact absurd hid (h.carries_ne hcall hcarries)
    · have heq : call = carrier := h.call_unique hcall hcarrier (hid.trans hid'.symm)
      exact ⟨call, hcall, hid, heq ▸ hkind, rfl⟩
  | dropped hdropped =>
    exfalso
    rcases h.waiters waiter hwaiter with ⟨batch, hbatch, hid, -⟩ | ⟨call, hcall, hid, -⟩
    · exact hdropped batch (List.mem_append_left _ hbatch) hid
    · exact hdropped call.batch (List.mem_append_right _ (List.mem_map_of_mem hcall)) hid

lemma Sound.resume (h : s.Sound) (hstep : Step s (.resume waiter outcome) t) :
    ∃ call ∈ s.completed, call.batch.id = waiter.batch ∧ waiter.kind ∈ call.batch.kinds ∧
      collect waiter.kind call.answer = outcome := by
  cases hstep with
  | resume hwaiter hresolves =>
    obtain ⟨call, hcall, hid, hkind, heq⟩ := h.resolves hwaiter hresolves
    exact ⟨call, hcall, hid, hkind, heq ▸ rfl⟩

/-- A kind is neither known nor on its way. -/
structure Absent (s : System) (kind : String) : Prop where
  known : Named.get? s.cache.known kind = none
  inFlight : Named.get? s.cache.inFlight kind = none

lemma Absent.not_carries (habsent : s.Absent kind) (h : s.Sound) {id : Nat} :
    ¬s.cache.Carries kind id := by
  intro hcarries
  have hsome := (h.coherent.inFlight kind id).2 hcarries
  rw [habsent.inFlight] at hsome
  cases hsome

/-- A call that does not bring the schemas of a kind leaves the kind absent. -/
lemma Sound.absent_answer (h : s.Sound) (hstep : Step s (.answer batch answer) t)
    (hkind : kind ∈ batch.kinds) (hreturns : ∀ schemas, ¬answer.Returns kind schemas) :
    t.Absent kind := by
  have ht := hstep.sound h
  cases hstep with
  | answer hbatch hanswer =>
    constructor
    · have hcarries : s.cache.Carries kind batch.id :=
        ⟨batch, List.mem_append_right _ hbatch, rfl, hkind⟩
      have hunknown := h.coherent.unknown kind batch.id hcarries
      refine Option.eq_none_iff_forall_ne_some.2 fun schemas hsome => ?_
      rcases (known_answer h hbatch hanswer kind schemas).1 hsome with hbefore | hbrought
      · rw [hunknown] at hbefore
        cases hbefore
      · exact hreturns schemas hbrought
    · refine Option.eq_none_iff_forall_ne_some.2 fun id hsome => ?_
      have hcarries := (ht.coherent.inFlight kind id).1 hsome
      exact ((carries_receive h.coherent hbatch).1 hcarries).2 hkind

lemma Step.absent (hstep : Step s event t) (h : s.Sound) (habsent : s.Absent kind)
    (hget : ∀ ticket, event ≠ .get kind ticket) : t.Absent kind := by
  cases hstep with
  | get other =>
    have hne : kind ≠ other := fun heq => hget _ (by rw [heq])
    refine ⟨(congrArg (Named.get? · kind) (request_known s.cache other)).trans habsent.known, ?_⟩
    rcases s.cache.request_cache other with heq | ⟨-, -, heq⟩
    · rw [heq]
      exact habsent.inFlight
    · obtain ⟨-, -, -, -, hinsert, -⟩ := enqueue_pending s.cache other
      rw [heq]
      simp only [hinsert]
      rw [Named.get?_insert_of_ne _ _ hne]
      exact habsent.inFlight
  | flush hid =>
    obtain ⟨batch, -, -, -, heq⟩ := h.coherent.flush_eq hid
    rw [heq]
    exact ⟨habsent.known, habsent.inFlight⟩
  | @answer batch answer hbatch hanswer =>
    have hkind : kind ∉ batch.kinds := fun hkind =>
      habsent.not_carries h ⟨batch, List.mem_append_right _ hbatch, rfl, hkind⟩
    constructor
    · exact (get?_known_receive hanswer hkind).trans habsent.known
    · have hremoved : (s.cache.receive batch answer).inFlight =
          batch.kinds.foldl (fun map kind => Named.remove map kind) s.cache.inFlight := rfl
      simp only [hremoved, get?_removeAll, if_neg hkind]
      exact habsent.inFlight
  | resume => exact ⟨habsent.known, habsent.inFlight⟩

lemma Run.absent (hrun : Run s events t) (h : s.Sound) (habsent : s.Absent kind)
    (hget : ∀ ticket, Event.get kind ticket ∉ events) : t.Absent kind := by
  induction hrun with
  | nil s => exact habsent
  | cons hstep _ ih =>
    have hfirst := hstep.absent h habsent fun ticket heq => hget ticket (heq ▸ List.mem_cons_self)
    exact ih (hstep.sound h) hfirst fun ticket hmem => hget ticket (List.mem_cons_of_mem _ hmem)

/-- A request for a kind that is absent joins the pending batch, whose flush is yet to run. -/
lemma Absent.get (habsent : s.Absent kind) (h : s.Sound)
    (hstep : Step s (.get kind ticket) t) :
    ∃ batch, t.cache.pending = some batch ∧ ticket = .wait batch.id ∧ kind ∈ batch.kinds ∧
      batch.id ∈ t.cache.flushes := by
  obtain ⟨kinds, hpending, -⟩ := enqueue_pending s.cache kind
  have hrequest : s.cache.request kind =
      (.wait (s.cache.enqueue kind).1, (s.cache.enqueue kind).2) := by
    simp [request, habsent.known, habsent.inFlight]
  have hflushes : (s.cache.enqueue kind).2.flushes = [(s.cache.enqueue kind).1] :=
    enqueue_flushes h.coherent
  cases hstep with
  | get kind =>
    rw [hrequest]
    refine ⟨_, hpending, rfl, List.mem_append_right _ (List.mem_singleton_self _), ?_⟩
    rw [hflushes]
    exact List.mem_singleton_self _

/-- In every state that can be reached, the kinds that are noted as on their way are those of the
pending batch and of the calls that have not been answered. A request that completes gets the schemas
that a call has returned for its kind. A request that has waited gets what the call that carried its
kind has brought: an error only if that call has failed with it, or has succeeded without the kind.
If the store fails with errors of its own only, nobody is told that the request was cancelled. A call
that does not bring a kind leaves it neither known nor on its way, and the next request for it asks
again. -/
theorem Run.answered (hrun : Run .empty events s) :
    (∀ kind, kind ∈ Named.names s.cache.inFlight ↔
      (∃ batch, s.cache.pending = some batch ∧ kind ∈ batch.kinds) ∨
        ∃ batch ∈ s.cache.calls, kind ∈ batch.kinds) ∧
    (∀ kind schemas t, Step s (.get kind (.hit schemas)) t →
      ∃ call ∈ s.completed, kind ∈ call.batch.kinds ∧ call.answer.Returns kind schemas) ∧
    (∀ waiter outcome t, Step s (.resume waiter outcome) t →
      ∃ call ∈ s.completed, call.batch.id = waiter.batch ∧ waiter.kind ∈ call.batch.kinds ∧
        (∀ other ∈ s.completed, other.batch.id = waiter.batch → other = call) ∧
        (∀ schemas, outcome = .ok schemas → call.answer.Returns waiter.kind schemas) ∧
        (∀ error, outcome = .error error → call.answer = .error error ∨
          error = .unknownKind waiter.kind ∧ call.answer.Omits waiter.kind) ∧
        ((∀ error, call.answer = .error error → ∃ reason, error = .client reason) →
          outcome ≠ .error .cancelled ∧
            ∀ kind, outcome = .error (.unknownKind kind) →
              kind = waiter.kind ∧ call.answer.Omits waiter.kind)) ∧
    (∀ batch answer t, Step s (.answer batch answer) t → ∀ kind ∈ batch.kinds,
      (∀ schemas, ¬answer.Returns kind schemas) →
        Named.get? t.cache.known kind = none ∧ Named.get? t.cache.inFlight kind = none ∧
        ∀ later u ticket v, Run t later u → (∀ ticket, Event.get kind ticket ∉ later) →
          Step u (.get kind ticket) v →
            ∃ pending, v.cache.pending = some pending ∧ ticket = .wait pending.id ∧
              kind ∈ pending.kinds ∧ pending.id ∈ v.cache.flushes) := by
  have h : s.Sound := hrun.sound sound_empty
  refine ⟨fun kind => h.mem_inFlight, fun kind schemas t hstep => h.hit hstep,
    fun waiter outcome t hstep => ?_, fun batch answer t hstep kind hkind hreturns => ?_⟩
  · obtain ⟨call, hcall, hid, hkind, rfl⟩ := h.resume hstep
    refine ⟨call, hcall, hid, hkind, fun other hother hid' => ?_, fun schemas => collect_eq_ok.1,
      fun error => collect_eq_error.1, fun hclient => ⟨fun hcancelled => ?_, fun kind hunknown => ?_⟩⟩
    · exact h.call_unique hother hcall (hid'.trans hid.symm)
    · rcases collect_eq_error.1 hcancelled with hfailed | ⟨heq, -⟩
      · obtain ⟨reason, heq⟩ := hclient _ hfailed
        cases heq
      · cases heq
    · rcases collect_eq_error.1 hunknown with hfailed | ⟨heq, homits⟩
      · obtain ⟨reason, heq⟩ := hclient _ hfailed
        cases heq
      · cases heq
        exact ⟨rfl, homits⟩
  · have habsent := h.absent_answer hstep hkind hreturns
    refine ⟨habsent.known, habsent.inFlight, fun later u ticket v hlater hget hnext => ?_⟩
    have hsound : t.Sound := hstep.sound h
    exact (hlater.absent hsound habsent hget).get (hlater.sound hsound) hnext

/-- The store has a lamp but no television. -/
theorem Run.answered_noTelevision :
    ∃ events s t, Run .empty events s ∧ Step s (.resume ⟨"tv", 0⟩ (.error (.unknownKind "tv"))) t ∧
      ∃ call ∈ s.completed, call.batch.id = 0 ∧ "tv" ∈ call.batch.kinds ∧
        call.answer.Omits "tv" := by
  let answer : StoreAnswer := .ok [("lamp", ⟨[], [], []⟩)]
  let s : System := ⟨⟨[("lamp", ⟨[], [], []⟩)], [], none, [], [], 1⟩, [⟨"lamp", 0⟩, ⟨"tv", 0⟩],
    [⟨⟨0, ["lamp", "tv"]⟩, answer⟩]⟩
  have hrun : Run .empty [.get "lamp" (.wait 0), .get "tv" (.wait 0),
      .flush 0 (some ⟨0, ["lamp", "tv"]⟩), .answer ⟨0, ["lamp", "tv"]⟩ answer] s :=
    .cons (.get "lamp") <| .cons (.get "tv") <| .cons (.flush List.mem_cons_self) <|
      .cons (.answer List.mem_cons_self ⟨List.pairwise_singleton _ _, by simp [Named.names]⟩)
        (.nil _)
  have hresolves : s.Resolves 0 answer :=
    @Resolves.completed s 0 ⟨⟨0, ["lamp", "tv"]⟩, answer⟩ List.mem_cons_self rfl
  have hwaiter : (⟨"tv", 0⟩ : Waiter) ∈ s.waiters := List.mem_cons_of_mem _ List.mem_cons_self
  have hstep : Step s (.resume ⟨"tv", 0⟩ (.error (.unknownKind "tv")))
      { s with waiters := s.waiters.erase ⟨"tv", 0⟩ } := .resume hwaiter hresolves
  obtain ⟨-, -, hresume, -⟩ := hrun.answered
  obtain ⟨call, hcall, hid, hkind, -, -, -, hclient⟩ := hresume ⟨"tv", 0⟩ _ _ hstep
  have hok : call.answer = .ok [("lamp", ⟨[], [], []⟩)] := by rw [List.mem_singleton.1 hcall]
  have hfailed : ∀ error, call.answer = .error error → ∃ reason, error = .client reason := by
    intro error heq
    rw [hok] at heq
    cases heq
  have homits := (hclient hfailed).2 "tv" rfl
  exact ⟨_, s, _, hrun, hstep, call, hcall, hid, hkind, homits.2⟩

end System

end BatchCache

end ChannelRules
