import QueryDesk.Store.Basic

/-!
# Preparing a store

A store can be filled beforehand and told how to answer. `Store.prepare` carries out one such step;
a collection that a step names comes into being by it.
-/

namespace QueryDesk

/-- A step that prepares a store. -/
inductive Preparation
  /-- Puts documents at the end of a collection. -/
  | seed (collection : Text) (documents : List Document)
  | aggregation (collection : Text) (documents : List Document)
  /-- Sets the fault of every later call to a collection, or takes it back. -/
  | failCollection (collection : Text) (fault : Option Fault)
  /-- Sets the fault of every later call to the database, or takes it back. -/
  | failDatabase (fault : Option Fault)
  /-- Sets the reply to later updates and deletions, or takes it back. -/
  | writes (collection : Text) (reply : Option WriteReply)
  /-- Sets the reply to later commands, or takes it back. -/
  | commands (reply : Option Value)

namespace Store

/-- The store with one collection, new if need be, changed. -/
def configure (s : Store) (name : Text) (change : Collection → Collection) : Store :=
  (s.touch name).modify name change

/-- The store after one step. -/
def prepare (s : Store) : Preparation → Store
  | .seed name documents =>
    s.configure name fun c => { c with documents := c.documents ++ documents }
  | .aggregation name documents => s.configure name fun c => { c with aggregation := documents }
  | .failCollection name fault => s.configure name fun c => { c with fault }
  | .failDatabase fault => { s with fault }
  | .writes name reply => s.configure name fun c => { c with writeReply := reply }
  | .commands reply => { s with commandReply := reply }

end Store

end QueryDesk
