import ChannelRules.Catalog.BatchCache

/-!
# Retrieving schemas

A retriever has two caches, one for the types of channels and one for everything about them.
Requests that are made together are all entered before the first flush runs, and are answered when
all flushes have run. Flushes that wait for a while run in the order in which they were started;
flushes that only let others go first run in the opposite order.
-/

namespace ChannelRules

/-- A request for schemas. -/
inductive Request where
  /-- All channels of a kind. -/
  | kind (kind : String)
  /-- The parameter types of a channel. -/
  | types (kind : String) (sort : Section) (name : String)
  /-- Everything about a channel. -/
  | channel (kind : String) (sort : Section) (name : String)

/-- The answer to a request. -/
inductive Reply where
  | kind (schemas : KindSchemas)
  | types (types : List Ty)
  | channel (channel : ChannelMeta)

/-- A call to the schema store. -/
structure StoreCall where
  kinds : List String
  /-- Whether everything about the channels is asked for. -/
  full : Bool
  deriving DecidableEq

namespace Request

def needs : Request → String
  | kind name => name
  | types name _ _ => name
  | channel name _ _ => name

/-- Whether a request goes to the cache for everything about channels. -/
def isFull : Request → Bool
  | channel _ _ _ => true
  | _ => false

/-- The part of the schemas of a kind that a request asks for. -/
def pick : Request → KindSchemas → Except SchemaError Reply
  | kind _, schemas => .ok (.kind schemas)
  | types device sort name, schemas => do
    let found ← schemas.channel device sort name
    return .types found.types
  | channel device sort name, schemas => do
    let found ← schemas.channel device sort name
    return .channel found

end Request

/-- What a store with the given schemas answers; kinds that it does not have are left out. -/
def storeAnswer (store : Named KindSchemas) (kinds : List String) : Named KindSchemas :=
  Named.ofEntries (kinds.filterMap fun kind =>
    (Named.get? store kind).map fun schemas => (kind, schemas))

/-- The two caches. -/
structure Retriever where
  types : BatchCache
  full : BatchCache

namespace Retriever

def empty : Retriever := ⟨.empty, .empty⟩

def cache (retriever : Retriever) (full : Bool) : BatchCache :=
  if full then retriever.full else retriever.types

def setCache (retriever : Retriever) (full : Bool) (cache : BatchCache) : Retriever :=
  if full then { retriever with full := cache } else { retriever with types := cache }

/-- Enter requests one after the other: their tickets, and the flushes that were started. -/
def enter : List Request → Retriever → List Ticket × List (Bool × Nat) × Retriever
  | [], retriever => ([], [], retriever)
  | request :: rest, retriever =>
    let before := retriever.cache request.isFull
    let (ticket, after) := before.request request.needs
    let started := (after.flushes.drop before.flushes.length).map fun id => (request.isFull, id)
    let (tickets, flushes, retriever) := enter rest (retriever.setCache request.isFull after)
    (ticket :: tickets, started ++ flushes, retriever)

/-- The answer to a batch of one of the caches. -/
structure Answered where
  full : Bool
  batch : Nat
  answer : StoreAnswer

/-- Run flushes one after the other. Calls to the store are numbered from the given number on. -/
def runFlushes (store : Nat → StoreCall → StoreAnswer) :
    Nat → List (Bool × Nat) → Retriever → List StoreCall × List Answered × Retriever
  | _, [], retriever => ([], [], retriever)
  | number, (full, id) :: rest, retriever =>
    match (retriever.cache full).flush id with
    | (none, cache) => runFlushes store number rest (retriever.setCache full cache)
    | (some batch, cache) =>
      let call : StoreCall := ⟨batch.kinds, full⟩
      let answer := store number call
      let retriever := retriever.setCache full (cache.receive batch answer)
      let (calls, answers, retriever) := runFlushes store (number + 1) rest retriever
      (call :: calls, ⟨full, batch.id, answer⟩ :: answers, retriever)

/-- What a request gets in the end. -/
def settle (answers : List Answered) (request : Request) :
    Ticket → Except SchemaError Reply
  | .hit schemas => request.pick schemas
  | .wait batch =>
    match answers.find? fun a => a.full == request.isFull && a.batch == batch with
    | some answered => do
      let schemas ← BatchCache.collect request.needs answered.answer
      request.pick schemas
    | none => .error .cancelled

/-- The order in which flushes run, given how long they wait. -/
def flushOrder (window : Nat) (flushes : List (Bool × Nat)) : List (Bool × Nat) :=
  if window = 0 then flushes.reverse else flushes

/-- Serve requests that are made together: their answers, the calls to the store, and the retriever
afterwards. -/
def serve (store : Nat → StoreCall → StoreAnswer) (window : Nat) (requests : List Request)
    (retriever : Retriever) : List (Except SchemaError Reply) × List StoreCall × Retriever :=
  let (tickets, flushes, retriever) := enter requests retriever
  let (calls, answers, retriever) := runFlushes store 0 (flushOrder window flushes) retriever
  ((requests.zip tickets).map fun (request, ticket) => settle answers request ticket,
    calls, retriever)

end Retriever

end ChannelRules
