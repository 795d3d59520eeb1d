import QueryDesk.Json.Basic

/-!
# Why a record is refused

Records are read from the members of a request, from named fields, and from the variables of an
environment. Whatever they are read from, each field that cannot be read is reported by its name and
the reason, in the order in which the record lists its fields.
-/

namespace QueryDesk.Schema

/-- What is wrong with a field. -/
inductive Problem
  | missing
  | notText
  | frozen
  /-- No whole number can be read from the text. -/
  | notWhole
  /-- No number can be read from the text. -/
  | notNumber
  /-- A text with something in it is wanted. -/
  | blank
  /-- At least one document has to be found. -/
  | limitBelowOne
  /-- A record is wanted. -/
  | notRecord
  deriving DecidableEq, Repr

def Problem.kind : Problem → Text
  | missing => "missing"
  | notText => "string_type"
  | frozen => "frozen_instance"
  | notWhole => "int_parsing"
  | notNumber => "float_parsing"
  | blank | limitBelowOne => "value_error"
  | notRecord => "model_attributes_type"

def Problem.message : Problem → Text
  | missing => "Field required"
  | notText => "Input should be a valid string"
  | frozen => "Instance is frozen"
  | notWhole => "Input should be a valid integer, unable to parse string as an integer"
  | notNumber => "Input should be a valid number, unable to parse string as a number"
  | blank => "Value error, value must not be blank"
  | limitBelowOne => "Value error, FIND_LIMIT must be >= 1"
  | notRecord => "Input should be a valid dictionary or object to extract fields from"

/-- A field that cannot be read. -/
structure Fault where
  field : Text
  problem : Problem
  deriving DecidableEq, Repr

/-- The fault of a failed reading. -/
def fault? {α : Type} : Except Fault α → Option Fault
  | .ok _ => none
  | .error fault => some fault

/-- A text; a missing one is a fault. -/
def text (field : Text) : Option Json → Except Fault Text
  | some (.str s) => .ok s
  | some _ => .error ⟨field, .notText⟩
  | none => .error ⟨field, .missing⟩

end QueryDesk.Schema
