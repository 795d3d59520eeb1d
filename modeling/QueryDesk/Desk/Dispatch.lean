import QueryDesk.Desk.Interpretation
import QueryDesk.Store.Basic

/-!
# Carrying out commands

A command needs two things of a store: a collection can be addressed, and a request can be made
(`Storage`). `Storage.execute` takes a command to any such store: the operation is looked up, a
collection that is addressed comes into being, the arguments are decoded into one request, the store
carries it out, and its reply is shown. The first step that fails ends it. `Storage.dispatch` puts
every failure that concerns the command into the answer, so that only a fault from elsewhere is left
as a fault. The store in memory is such a store.
-/

namespace QueryDesk

/-- A store as it looks to a command. -/
class Storage (σ : Type) where
  /-- The store after a collection of this name was addressed. -/
  touch : σ → Text → σ
  /-- The store after a request, and what it replied. -/
  perform : σ → Request → σ × Except Fault Reply

instance : Storage Store where
  touch := Store.touch
  perform := Store.perform

@[simp] theorem Storage.touch_store (s : Store) (name : Text) :
    Storage.touch s name = s.touch name := rfl

@[simp] theorem Storage.perform_store (s : Store) (request : Request) :
    Storage.perform s request = s.perform request := rfl

/-- What a command is answered with: its result or the failure that is told, and a fault only if it
does not concern the command. -/
def answered : Except Failure Value → Except Fault Value
  | .ok result => .ok result
  | .error failure =>
    match failure.escaping? with
    | some fault => .error fault
    | none => .ok (.ofJson failure.answer)

namespace Storage

variable {σ : Type} [Storage σ]

/-- The store with the collection that an operation addresses. -/
def addressed (s : σ) : Operation → σ
  | .database _ => s
  | .collection name _ => touch s name

/-- A request to the store, and its reply as it is shown. -/
def fulfil (s : σ) (request : Request) : σ × Except Failure Value :=
  match perform s request with
  | (s, .error fault) => (s, .error (.store fault))
  | (s, .ok reply) => (s, reply.present.mapError .store)

/-- A command on the store, and its result as it is shown. -/
def execute (limit : Nat) (s : σ) (c : Command) : σ × Except Failure Value :=
  match c.operation? with
  | none => (s, .error (.unsupported c))
  | some operation =>
    -- the collection comes into being before its arguments are looked at
    match operation.request limit c.arguments with
    | .error failure => (addressed s operation, .error failure)
    | .ok request => fulfil (addressed s operation) request

/-- A command on the store, and its answer. -/
def dispatch (limit : Nat) (s : σ) (c : Command) : σ × Except Fault Value :=
  match execute limit s c with
  | (s, outcome) => (s, answered outcome)

end Storage

end QueryDesk
