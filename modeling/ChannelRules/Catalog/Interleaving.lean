import ChannelRules.Catalog.BatchCache

/-!
# Requests and flushes side by side

A batch cache is used by many tasks at once. Whatever a task does between two points at which it
waits is one step: a request looks into the cache and joins a batch, a flush takes the pending batch
and asks the store, the answer of the store is handled, and a waiting request goes on. A run takes
such steps in any order.
-/

namespace ChannelRules

namespace StoreAnswer

/-- The store has found the schemas of a kind. -/
def Returns (answer : StoreAnswer) (kind : String) (schemas : KindSchemas) : Prop :=
  ∃ found, answer = .ok found ∧ Named.get? found kind = some schemas

/-- The store has answered, but has not found a kind. -/
def Omits (answer : StoreAnswer) (kind : String) : Prop :=
  ∃ found, answer = .ok found ∧ Named.get? found kind = none

end StoreAnswer

/-- The store answers only kinds that it was asked for, or fails. -/
def Batch.Permits (batch : Batch) : StoreAnswer → Prop
  | .ok found => Named.Ordered found ∧ Named.names found ⊆ batch.kinds
  | .error _ => True

/-- A request that waits for the answer to a batch. -/
structure Waiter where
  kind : String
  batch : Nat
  deriving DecidableEq

/-- The requests that wait once a request for a kind has its ticket. -/
def Ticket.waiters (kind : String) : Ticket → List Waiter
  | .hit _ => []
  | .wait batch => [⟨kind, batch⟩]

/-- A call that the store has answered. -/
structure CompletedCall where
  batch : Batch
  answer : StoreAnswer

namespace BatchCache

/-- The batches whose answer is still to come: the pending one, and those that the store has been
asked for. -/
def batches (cache : BatchCache) : List Batch := cache.pending.toList ++ cache.calls

/-- A cache together with the requests that wait and the calls that have been answered. -/
structure System where
  cache : BatchCache
  waiters : List Waiter
  completed : List CompletedCall

/-- What happens in a step. -/
inductive Event where
  /-- A request for a kind gets its ticket. -/
  | get (kind : String) (ticket : Ticket)
  /-- The flush that was started for a batch runs, and finds a pending batch or none. -/
  | flush (id : Nat) (found : Option Batch)
  /-- The store answers. -/
  | answer (batch : Batch) (answer : StoreAnswer)
  /-- A waiting request completes. -/
  | resume (waiter : Waiter) (outcome : Except SchemaError KindSchemas)

/-- The call to the store that a step makes. -/
def Event.call? : Event → Option Batch
  | .flush _ found => found
  | _ => none

/-- The calls to the store that are made in the course of some steps. -/
def callsOf (events : List Event) : List Batch := events.filterMap Event.call?

namespace System

def empty : System := ⟨.empty, [], []⟩

/-- The batches that exist or have existed. -/
def issued (s : System) : List Batch := s.cache.batches ++ s.completed.map CompletedCall.batch

/-- What those who wait for a batch are told. A batch whose answer nobody can send any more is
cancelled. -/
inductive Resolves (s : System) (id : Nat) : StoreAnswer → Prop where
  | completed {call : CompletedCall} (hcall : call ∈ s.completed) (hid : call.batch.id = id) :
    Resolves s id call.answer
  | dropped (h : ∀ batch ∈ s.issued, batch.id ≠ id) : Resolves s id (.error .cancelled)

/-- One step of one task. -/
inductive Step (s : System) : Event → System → Prop where
  | get (kind : String) :
    Step s (.get kind (s.cache.request kind).1)
      { s with
        cache := (s.cache.request kind).2
        waiters := s.waiters ++ (s.cache.request kind).1.waiters kind }
  | flush {id : Nat} (hid : id ∈ s.cache.flushes) :
    Step s (.flush id (s.cache.flush id).1) { s with cache := (s.cache.flush id).2 }
  | answer {batch : Batch} {answer : StoreAnswer} (hbatch : batch ∈ s.cache.calls)
      (hanswer : batch.Permits answer) :
    Step s (.answer batch answer)
      { s with
        cache := s.cache.receive batch answer
        completed := s.completed ++ [⟨batch, answer⟩] }
  | resume {waiter : Waiter} {answer : StoreAnswer} (hwaiter : waiter ∈ s.waiters)
      (hanswer : s.Resolves waiter.batch answer) :
    Step s (.resume waiter (collect waiter.kind answer))
      { s with waiters := s.waiters.erase waiter }

/-- Steps one after the other. -/
inductive Run : System → List Event → System → Prop where
  | nil (s : System) : Run s [] s
  | cons {s t u : System} {event : Event} {events : List Event} (hstep : Step s event t)
      (hrun : Run t events u) : Run s (event :: events) u

end System

end BatchCache

end ChannelRules
