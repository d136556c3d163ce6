import ChannelRules.Catalog.Interleaving
import ChannelRules.Proofs.Named

/-!
# Kinds that are on their way

Every kind is on its way in one batch at most, and the cache knows in which. A request, a flush and
an answer keep it that way.
-/

namespace ChannelRules

namespace BatchCache

variable {cache : BatchCache} {kind other : String} {id id' : Nat} {batch : Batch}

lemma get?_removeAll (kinds : List String) (map : Named Nat) :
    Named.get? (kinds.foldl (fun map kind => Named.remove map kind) map) other =
      if other ∈ kinds then none else Named.get? map other := by
  induction kinds generalizing map with
  | nil => simp
  | cons first rest ih =>
    rw [List.foldl_cons, ih, Named.get?_remove]
    by_cases hrest : other ∈ rest
    · rw [if_pos hrest, if_pos (List.mem_cons_of_mem _ hrest)]
    · by_cases hfirst : other = first
      · simp [hfirst]
      · simp [hrest, hfirst]

lemma get?_learn {found : Named KindSchemas} (h : Named.Ordered found)
    (known : Named KindSchemas) :
    Named.get? (learn known found) kind = (Named.get? found kind).or (Named.get? known kind) := by
  induction found generalizing known with
  | nil => rfl
  | cons entry rest ih =>
    obtain ⟨key, schemas⟩ := entry
    obtain ⟨hfirst, hrest⟩ := List.pairwise_cons.1 h
    have hlearn : learn known ((key, schemas) :: rest) =
        learn (Named.insert known key schemas) rest := rfl
    rw [hlearn, ih hrest, Named.get?]
    by_cases hkey : key = kind
    · have hnone : Named.get? rest kind = none := by
        rw [Named.get?_eq_none_iff]
        intro hmem
        obtain ⟨later, hlater, hname⟩ := List.mem_map.1 hmem
        have hlt : key < later.1 := hfirst later hlater
        rw [hname, hkey] at hlt
        exact lt_irrefl kind hlt
      rw [if_pos hkey, hnone, hkey, Named.get?_insert_self]
      rfl
    · rw [if_neg hkey, Named.get?_insert_of_ne _ _ (Ne.symm hkey)]

/-- A kind is on its way in the batch of a number. -/
def Carries (cache : BatchCache) (kind : String) (id : Nat) : Prop :=
  ∃ batch ∈ cache.batches, batch.id = id ∧ kind ∈ batch.kinds

/-- What holds of a cache before and after every step: the only flush that has not run is that of the
pending batch, no kind is on its way twice, and a kind that is on its way is not known. -/
structure Coherent (cache : BatchCache) : Prop where
  flushes : cache.flushes = cache.pending.toList.map Batch.id
  pending : ∀ batch, cache.pending = some batch → batch.kinds ≠ []
  nodup : (cache.batches.flatMap Batch.kinds).Nodup
  inFlight : ∀ kind id, Named.get? cache.inFlight kind = some id ↔ cache.Carries kind id
  unknown : ∀ kind id, cache.Carries kind id → Named.get? cache.known kind = none

lemma coherent_empty : empty.Coherent where
  flushes := rfl
  pending := fun _ h => nomatch h
  nodup := List.nodup_nil
  inFlight := fun _ _ => ⟨fun h => (nomatch h), fun ⟨_, h, _⟩ => (nomatch h)⟩
  unknown := fun _ _ _ => rfl

section Enqueue

lemma enqueue_pending (cache : BatchCache) (kind : String) :
    ∃ kinds, (cache.enqueue kind).2.pending = some ⟨(cache.enqueue kind).1, kinds ++ [kind]⟩ ∧
      (cache.enqueue kind).2.calls = cache.calls ∧
      (cache.enqueue kind).2.known = cache.known ∧
      (cache.enqueue kind).2.inFlight =
        Named.insert cache.inFlight kind (cache.enqueue kind).1 ∧
      cache.pending.toList.flatMap Batch.kinds = kinds := by
  unfold enqueue
  cases hpending : cache.pending with
  | some batch => exact ⟨batch.kinds, rfl, rfl, rfl, rfl, by simp⟩
  | none => exact ⟨[], rfl, rfl, rfl, rfl, rfl⟩

lemma enqueue_flushes (h : cache.Coherent) :
    (cache.enqueue kind).2.flushes = [(cache.enqueue kind).1] := by
  have hflushes := h.flushes
  unfold enqueue
  cases hpending : cache.pending with
  | some batch =>
    rw [hpending] at hflushes
    exact hflushes
  | none =>
    rw [hpending] at hflushes
    simp [hflushes]

lemma carries_enqueue : (cache.enqueue kind).2.Carries other id ↔
    (other = kind ∧ id = (cache.enqueue kind).1) ∨ cache.Carries other id := by
  unfold enqueue Carries batches
  cases cache.pending with
  | some batch =>
    simp only [Option.toList_some, List.cons_append, List.nil_append, List.mem_cons,
      exists_eq_or_imp, List.mem_append, List.not_mem_nil, or_false]
    constructor
    · rintro (⟨hid, hkind | hkind⟩ | hcall)
      · exact .inr (.inl ⟨hid, hkind⟩)
      · exact .inl ⟨hkind, hid.symm⟩
      · exact .inr (.inr hcall)
    · rintro (⟨hkind, hid⟩ | ⟨hid, hkind⟩ | hcall)
      · exact .inl ⟨hid.symm, .inr hkind⟩
      · exact .inl ⟨hid, .inl hkind⟩
      · exact .inr hcall
  | none =>
    simp only [Option.toList_some, Option.toList_none, List.cons_append, List.nil_append,
      List.mem_cons, exists_eq_or_imp, List.not_mem_nil, or_false]
    constructor
    · rintro (⟨hid, hkind⟩ | hcall)
      · exact .inl ⟨hkind, hid.symm⟩
      · exact .inr hcall
    · rintro (⟨hkind, hid⟩ | hcall)
      · exact .inl ⟨hid.symm, hkind⟩
      · exact .inr hcall

lemma kinds_enqueue (cache : BatchCache) (kind : String) :
    ((cache.enqueue kind).2.batches.flatMap Batch.kinds).Perm
      (kind :: cache.batches.flatMap Batch.kinds) := by
  obtain ⟨kinds, hpending, hcalls, -, -, hkinds⟩ := enqueue_pending cache kind
  have hafter : (cache.enqueue kind).2.batches.flatMap Batch.kinds =
      kinds ++ kind :: cache.calls.flatMap Batch.kinds := by
    simp [batches, hpending, hcalls]
  have hbefore : cache.batches.flatMap Batch.kinds =
      kinds ++ cache.calls.flatMap Batch.kinds := by
    rw [batches, List.flatMap_append, hkinds]
  rw [hafter, hbefore]
  exact List.perm_middle

lemma mem_kinds : kind ∈ cache.batches.flatMap Batch.kinds ↔ ∃ id, cache.Carries kind id := by
  rw [List.mem_flatMap]
  constructor
  · rintro ⟨batch, hbatch, hkind⟩
    exact ⟨batch.id, batch, hbatch, rfl, hkind⟩
  · rintro ⟨id, batch, hbatch, -, hkind⟩
    exact ⟨batch, hbatch, hkind⟩

lemma Coherent.not_mem_kinds (h : cache.Coherent) (hflight : Named.get? cache.inFlight kind = none) :
    kind ∉ cache.batches.flatMap Batch.kinds := by
  intro hmem
  obtain ⟨id, hcarries⟩ := mem_kinds.1 hmem
  have hsome := (h.inFlight kind id).2 hcarries
  rw [hflight] at hsome
  cases hsome

lemma Coherent.enqueue (h : cache.Coherent) (hknown : Named.get? cache.known kind = none)
    (hflight : Named.get? cache.inFlight kind = none) : (cache.enqueue kind).2.Coherent := by
  obtain ⟨kinds, hpending, hcalls, hsame, hinsert, -⟩ := enqueue_pending cache kind
  have hnew := h.not_mem_kinds hflight
  refine ⟨?_, fun batch hbatch => ?_, ?_, fun other id => ?_, fun other id hcarries => ?_⟩
  · rw [enqueue_flushes h, hpending]
    rfl
  · rw [hpending] at hbatch
    cases hbatch
    simp
  · rw [(kinds_enqueue cache kind).nodup_iff]
    exact List.nodup_cons.2 ⟨hnew, h.nodup⟩
  · rw [hinsert, carries_enqueue]
    by_cases hother : other = kind
    · subst hother
      have hnone : ¬cache.Carries other id := fun hcarries => hnew (mem_kinds.2 ⟨id, hcarries⟩)
      rw [Named.get?_insert_self]
      simp [hnone, eq_comm]
    · rw [Named.get?_insert_of_ne _ _ hother, h.inFlight other id]
      simp [hother]
  · rw [hsame]
    rcases carries_enqueue.1 hcarries with ⟨rfl, -⟩ | hcarries
    · exact hknown
    · exact h.unknown other id hcarries

lemma request_cases (cache : BatchCache) (kind : String) :
    (∃ schemas, Named.get? cache.known kind = some schemas ∧
      cache.request kind = (.hit schemas, cache)) ∨
    (∃ id, Named.get? cache.inFlight kind = some id ∧ cache.request kind = (.wait id, cache)) ∨
    (Named.get? cache.known kind = none ∧ Named.get? cache.inFlight kind = none ∧
      cache.request kind = (.wait (cache.enqueue kind).1, (cache.enqueue kind).2)) := by
  unfold request
  cases hknown : Named.get? cache.known kind with
  | some schemas => exact .inl ⟨schemas, rfl, rfl⟩
  | none =>
    cases hflight : Named.get? cache.inFlight kind with
    | some id => exact .inr (.inl ⟨id, rfl, rfl⟩)
    | none => exact .inr (.inr ⟨rfl, rfl, rfl⟩)

/-- A request leaves the cache as it is, or puts the kind into the pending batch. -/
lemma request_cache (cache : BatchCache) (kind : String) :
    (cache.request kind).2 = cache ∨
    (Named.get? cache.known kind = none ∧ Named.get? cache.inFlight kind = none ∧
      (cache.request kind).2 = (cache.enqueue kind).2) := by
  rcases cache.request_cases kind with ⟨_, -, heq⟩ | ⟨_, -, heq⟩ | ⟨hknown, hflight, heq⟩
  · exact .inl (by rw [heq])
  · exact .inl (by rw [heq])
  · exact .inr ⟨hknown, hflight, by rw [heq]⟩

lemma Coherent.request (h : cache.Coherent) (kind : String) : (cache.request kind).2.Coherent := by
  rcases cache.request_cache kind with heq | ⟨hknown, hflight, heq⟩
  · rw [heq]
    exact h
  · rw [heq]
    exact h.enqueue hknown hflight

end Enqueue

section Flush

/-- A flush that has been started finds the batch that it was started for. -/
lemma Coherent.flush_eq (h : cache.Coherent) (hid : id ∈ cache.flushes) :
    ∃ batch, cache.pending = some batch ∧ batch.id = id ∧ batch.kinds ≠ [] ∧
      cache.flush id = (some batch,
        { cache with pending := none, flushes := [], calls := cache.calls ++ [batch] }) := by
  have hflushes := h.flushes
  cases hpending : cache.pending with
  | none =>
    rw [hflushes, hpending] at hid
    cases hid
  | some batch =>
    rw [hpending] at hflushes
    rw [hflushes] at hid
    have heq : id = batch.id := List.mem_singleton.1 hid
    refine ⟨batch, rfl, heq.symm, h.pending batch hpending, ?_⟩
    simp [BatchCache.flush, hpending, hflushes, heq]

lemma batches_flush (cache : BatchCache) (id : Nat) :
    (cache.flush id).2.batches.Perm cache.batches := by
  unfold flush batches
  cases cache.pending with
  | none => exact List.Perm.refl _
  | some batch =>
    have hperm : (cache.calls ++ [batch]).Perm ([batch] ++ cache.calls) := List.perm_append_comm
    exact hperm

lemma carries_flush : (cache.flush id).2.Carries kind id' ↔ cache.Carries kind id' := by
  unfold Carries
  simp only [(batches_flush cache id).mem_iff]

lemma Coherent.flush (h : cache.Coherent) (hid : id ∈ cache.flushes) :
    (cache.flush id).2.Coherent := by
  obtain ⟨batch, -, -, -, heq⟩ := h.flush_eq hid
  have hnodup := ((batches_flush cache id).flatMap_right Batch.kinds).nodup_iff.2 h.nodup
  have hcarries : ∀ kind other, (cache.flush id).2.Carries kind other ↔ cache.Carries kind other :=
    fun _ _ => carries_flush
  rw [heq] at hnodup hcarries ⊢
  refine ⟨rfl, fun _ hpending => (nomatch hpending), hnodup, fun kind other => ?_,
    fun kind other hkind => ?_⟩
  · rw [hcarries]
    exact h.inFlight kind other
  · exact h.unknown kind other ((hcarries kind other).1 hkind)

end Flush

section Receive

variable {answer : StoreAnswer}

lemma batches_receive (h : batch ∈ cache.calls) :
    cache.batches.Perm (batch :: (cache.receive batch answer).batches) := by
  have hcalls : cache.calls.Perm (batch :: cache.calls.erase batch) := List.perm_cons_erase h
  exact (hcalls.append_left _).trans List.perm_middle

lemma carries_receive (h : cache.Coherent) (hbatch : batch ∈ cache.calls) :
    (cache.receive batch answer).Carries kind id ↔
      cache.Carries kind id ∧ kind ∉ batch.kinds := by
  have hperm : cache.batches.Perm (batch :: (cache.receive batch answer).batches) :=
    batches_receive hbatch
  have hnodup := (hperm.flatMap_right Batch.kinds).nodup_iff.1 h.nodup
  rw [List.flatMap_cons, List.nodup_append'] at hnodup
  constructor
  · rintro ⟨left, hleft, hid, hkind⟩
    refine ⟨⟨left, hperm.mem_iff.2 (List.mem_cons_of_mem _ hleft), hid, hkind⟩, fun hkind' => ?_⟩
    exact hnodup.2.2 hkind' (List.mem_flatMap.2 ⟨left, hleft, hkind⟩)
  · rintro ⟨⟨left, hleft, hid, hkind⟩, hnot⟩
    rcases List.mem_cons.1 (hperm.mem_iff.1 hleft) with rfl | hleft
    · exact absurd hkind hnot
    · exact ⟨left, hleft, hid, hkind⟩

lemma get?_known_receive (hanswer : batch.Permits answer) (hkind : kind ∉ batch.kinds) :
    Named.get? (cache.receive batch answer).known kind = Named.get? cache.known kind := by
  cases answer with
  | error error => rfl
  | ok found =>
    have hnone : Named.get? found kind = none :=
      Named.get?_eq_none_iff.2 fun hmem => hkind (hanswer.2 hmem)
    have hlearn : (cache.receive batch (.ok found)).known = learn cache.known found := rfl
    rw [hlearn, get?_learn hanswer.1, hnone]
    rfl

lemma Coherent.receive (h : cache.Coherent) (hbatch : batch ∈ cache.calls)
    (hanswer : batch.Permits answer) : (cache.receive batch answer).Coherent := by
  have hperm : cache.batches.Perm (batch :: (cache.receive batch answer).batches) :=
    batches_receive hbatch
  have hnodup := (hperm.flatMap_right Batch.kinds).nodup_iff.1 h.nodup
  rw [List.flatMap_cons] at hnodup
  refine ⟨h.flushes, h.pending, hnodup.of_append_right, fun kind id => ?_, fun kind id hcarries => ?_⟩
  · rw [carries_receive h hbatch, ← h.inFlight]
    have hremoved : (cache.receive batch answer).inFlight =
        batch.kinds.foldl (fun map kind => Named.remove map kind) cache.inFlight := rfl
    rw [hremoved, get?_removeAll]
    by_cases hkind : kind ∈ batch.kinds
    · simp [hkind]
    · simp [hkind]
  · obtain ⟨hcarries, hkind⟩ := (carries_receive h hbatch).1 hcarries
    rw [get?_known_receive hanswer hkind]
    exact h.unknown kind id hcarries

end Receive

end BatchCache

end ChannelRules
