import QueryDesk.Journal.Event
import QueryDesk.Store.Fault

/-!
# The life of the service

Before it serves, the service reaches for its store, so that a wrong address is noticed at once.
When it stops, it closes the connection, also if serving ended in a fault. Without a connection of
its own it just serves.
-/

namespace QueryDesk

/-- What the service does with its connection. -/
inductive LifeStep
  /-- Takes up the database of a name. -/
  | select (database : Text)
  | ping
  | serve
  | close
  deriving DecidableEq, Repr

/-- A run of the service from start to stop. -/
structure Life where
  steps : List LifeStep
  events : List Event
  fault : Option Fault

namespace Life

/-- The life of a service without a connection. -/
def unconnected (serving : Option Fault) : Life :=
  { steps := [.serve], events := [], fault := serving }

/-- The life of a service with a connection: the fault of the first sign of life, if there is one,
keeps it from serving. -/
def connected (database : Text) (ping serving : Option Fault) : Life :=
  match ping with
  | some fault => { steps := [.select database, .ping], events := [], fault := some fault }
  | none =>
    { steps := [.select database, .ping, .serve, .close]
      events := [.connected database, .shuttingDown]
      fault := serving }

end Life

end QueryDesk
