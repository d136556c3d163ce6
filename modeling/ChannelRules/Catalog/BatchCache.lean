import ChannelRules.Catalog.Basic

/-!
# Batches of schema requests

Kinds that are asked for and not yet known are collected into a batch. A flush, which is started
together with the batch, takes the batch and asks the store for all its kinds in one call. A kind
that is on its way is not asked for again: whoever needs it waits for the batch that carries it.

Every operation here is one uninterrupted stretch; requests, flushes and answers can come in any
order.
-/

namespace ChannelRules

/-- Kinds that are asked for in one call. -/
structure Batch where
  id : Nat
  kinds : List String
  deriving DecidableEq

/-- An answer of the schema store: the schemas of the kinds that it has. -/
abbrev StoreAnswer := Except SchemaError (Named KindSchemas)

/-- What a request gets at once: the schemas, or the batch to wait for. -/
inductive Ticket where
  | hit (schemas : KindSchemas)
  | wait (batch : Nat)

/-- Known schemas, and what is on its way. -/
structure BatchCache where
  known : Named KindSchemas
  /-- The kinds that are on their way, each with its batch. -/
  inFlight : Named Nat
  /-- The batch that takes more kinds. -/
  pending : Option Batch
  /-- The batches whose flush has been started and has not run. -/
  flushes : List Nat
  /-- The batches that the store has been asked for and has not answered. -/
  calls : List Batch
  nextId : Nat

namespace BatchCache

def empty : BatchCache := ⟨[], [], none, [], [], 0⟩

/-- Put a kind into the pending batch; a flush is started with a new batch. -/
def enqueue (cache : BatchCache) (kind : String) : Nat × BatchCache :=
  match cache.pending with
  | some batch =>
    (batch.id, { cache with
      inFlight := Named.insert cache.inFlight kind batch.id
      pending := some { batch with kinds := batch.kinds ++ [kind] } })
  | none =>
    (cache.nextId, { cache with
      inFlight := Named.insert cache.inFlight kind cache.nextId
      pending := some ⟨cache.nextId, [kind]⟩
      flushes := cache.flushes ++ [cache.nextId]
      nextId := cache.nextId + 1 })

def request (cache : BatchCache) (kind : String) : Ticket × BatchCache :=
  match Named.get? cache.known kind with
  | some schemas => (.hit schemas, cache)
  | none =>
    match Named.get? cache.inFlight kind with
    | some batch => (.wait batch, cache)
    | none =>
      let (batch, cache) := cache.enqueue kind
      (.wait batch, cache)

/-- Run a flush: take the pending batch and ask the store for it. -/
def flush (cache : BatchCache) (id : Nat) : Option Batch × BatchCache :=
  let cache := { cache with flushes := cache.flushes.erase id }
  match cache.pending with
  | some batch => (some batch, { cache with pending := none, calls := cache.calls ++ [batch] })
  | none => (none, cache)

/-- Add the schemas of an answer to the known ones. -/
def learn (known : Named KindSchemas) (schemas : Named KindSchemas) : Named KindSchemas :=
  schemas.foldl (fun known entry => Named.insert known entry.1 entry.2) known

/-- Take the answer to a call. -/
def receive (cache : BatchCache) (batch : Batch) (answer : StoreAnswer) : BatchCache :=
  { cache with
    known := match answer with
      | .ok schemas => learn cache.known schemas
      | .error _ => cache.known
    inFlight := batch.kinds.foldl (fun map kind => Named.remove map kind) cache.inFlight
    calls := cache.calls.erase batch }

/-- What a waiting request for a kind gets from the answer to its batch. -/
def collect (kind : String) (answer : StoreAnswer) : Except SchemaError KindSchemas := do
  let schemas ← answer
  match Named.get? schemas kind with
  | some found => return found
  | none => throw (.unknownKind kind)

end BatchCache

end ChannelRules
