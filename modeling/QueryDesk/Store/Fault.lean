import QueryDesk.Text.Encoding
import QueryDesk.Text.Quoted

/-!
# Faults of a store

What goes wrong in a call to the store, by kind. The store reports some kinds itself, and some say
that a value is of no use to it; both are part of the answer to a command. The other kinds come from
elsewhere and end the request.
-/

namespace QueryDesk

inductive FaultKind
  /-- Something in the store that no other kind describes. -/
  | store
  /-- The store refused the operation. -/
  | operation
  | duplicateKey
  | write
  /-- No server could be selected in time. -/
  | serverSelection
  /-- The connection was lost and will be opened again. -/
  | reconnect
  | networkTimeout
  | invalidOperation
  | invalidName
  | invalidDocument
  | type
  | value
  | overflow
  | encoding
  | missingKey
  | missingAttribute
  | runtime
  | connection
  | timeout
  | zeroDivision
  /-- Any other kind, by its name. -/
  | other (name : Text)
  deriving DecidableEq, Repr

/-- Whether a fault of this kind becomes part of the answer to a command. -/
def FaultKind.isReported : FaultKind → Bool
  | missingKey | missingAttribute | runtime | connection | timeout | zeroDivision => false
  | other _ => false
  | _ => true

/-- A fault with its message. -/
structure Fault where
  kind : FaultKind
  message : Text
  deriving DecidableEq, Repr

/-- The fault of a text that has no form in UTF-8. -/
def Text.LoneHalves.fault (found : LoneHalves) : Fault :=
  ⟨.encoding, found.message⟩

/-- What is said about a fault: the message, which is quoted where it names a missing key. -/
def Fault.text (f : Fault) : Text :=
  if f.kind = .missingKey then Text.quoted f.message else f.message

end QueryDesk
