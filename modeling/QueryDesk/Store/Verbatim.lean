import QueryDesk.Json.Literal
import QueryDesk.Number.Shortest
import QueryDesk.Store.Value

/-!
# Stored values as they stand

`Value.verbatim` writes a stored value as JSON without turning it into anything else: a tuple is an
array and a piece of program text is a string. A type that JSON does not have is refused, and so is
a whole number with too many digits. Keys become names one by one, so a name can occur twice.
-/

namespace QueryDesk

/-- Why a value cannot be written as JSON. -/
inductive Unwritable
  /-- JSON does not have the type. -/
  | type (name : Text)
  /-- The type cannot be the key of a member. -/
  | key (name : Text)
  /-- A number is not finite where only finite numbers may stand. -/
  | notFinite
  /-- A universal identifier, for which no byte order is agreed. -/
  | uuid
  /-- A time that is before the year 1 in universal time. -/
  | tooEarly
  /-- A whole number has too many digits. -/
  | tooManyDigits
  deriving DecidableEq, Repr

def Unwritable.message : Unwritable → Text
  | type name => "Object of type " ++ name ++ " is not JSON serializable"
  | key name => "keys must be str, int, float, bool or None, not " ++ name
  | notFinite => "Out of range float values are not JSON compliant"
  | uuid =>
    "cannot encode native uuid.UUID with UuidRepresentation.UNSPECIFIED. UUIDs can be manually " ++
      "converted to bson.Binary instances using bson.Binary.from_uuid() or a different " ++
      "UuidRepresentation can be configured. See the documentation for UuidRepresentation for " ++
      "more information."
  | tooEarly => "date value out of range"
  | tooManyDigits => tooManyDigitsMessage ""

namespace Value

/-- The name of a value's type. -/
def typeName : Value → Text
  | null => "NoneType"
  | bool _ => "bool"
  | int _ => "int"
  | double _ => "float"
  | str _ => "str"
  | code _ | scopedCode _ _ => "Code"
  | objectId _ => "ObjectId"
  | dateTime _ => "datetime"
  | date _ => "date"
  | time _ => "time"
  | instant _ => "DatetimeMS"
  | decimal128 _ => "Decimal128"
  | decimal _ => "Decimal"
  | bytes _ => "bytes"
  | byteArray _ => "bytearray"
  | binary _ _ => "Binary"
  | uuid _ => "UUID"
  | arr _ => "list"
  | tuple _ => "tuple"
  | set _ => "set"
  | frozenSet _ => "frozenset"
  | doc _ | map _ => "dict"
  | timestamp _ _ => "Timestamp"
  | regex _ _ => "Regex"
  | pattern _ _ => "Pattern"
  | minKey => "MinKey"
  | maxKey => "MaxKey"
  | ref _ _ _ _ => "DBRef"

/-- The name of a value's type together with where the type is at home. -/
def fullTypeName (v : Value) : Text :=
  match v with
  | dateTime _ | date _ | time _ => "datetime." ++ v.typeName
  | decimal _ => "decimal." ++ v.typeName
  | pattern _ _ => "re." ++ v.typeName
  | _ => v.typeName

/-- A whole number as it stands. -/
def verbatimInt (n : Int) : Except Unwritable Int :=
  if isShort n then .ok n else .error .tooManyDigits

/-- A double as it stands. -/
def verbatimDouble (numbers : Json.NonFinite) (x : Double) : Except Unwritable Double :=
  match numbers with
  | .accepted => .ok x
  | .refused => if x.isFinite then .ok x else .error .notFinite

/-- The name that a key becomes. -/
def memberName (numbers : Json.NonFinite) (key : Value) : Except Unwritable Text :=
  match key with
  | str s => .ok s
  | code text => .ok text
  | scopedCode text _ => .ok text
  | null => .ok "null"
  | bool b => .ok (if b then "true" else "false")
  | int n => return (toString (← verbatimInt n) : String)
  | double x => return .ofList (DoubleLayout.json.write (← verbatimDouble numbers x))
  | _ => .error (.key key.fullTypeName)

mutual

/-- A stored value as JSON. -/
def verbatim (numbers : Json.NonFinite) : Value → Except Unwritable Json
  | null => .ok .null
  | bool b => .ok (.bool b)
  | int n => return .int (← verbatimInt n)
  | double x => return .double (← verbatimDouble numbers x)
  | str s => .ok (.str s)
  | code text => .ok (.str text)
  | scopedCode text _ => .ok (.str text)
  | arr items => return .arr (← verbatimItems numbers items)
  | tuple items => return .arr (← verbatimItems numbers items)
  | doc members => return .obj (← verbatimMembers numbers members)
  | map entries => return .obj (← verbatimEntries numbers entries)
  | other => .error (.type other.typeName)

def verbatimItems (numbers : Json.NonFinite) : List Value → Except Unwritable (List Json)
  | [] => .ok []
  | item :: rest => return (← verbatim numbers item) :: (← verbatimItems numbers rest)

def verbatimMembers (numbers : Json.NonFinite) :
    List (Text × Value) → Except Unwritable (List (Text × Json))
  | [] => .ok []
  | (name, value) :: rest =>
    return (name, ← verbatim numbers value) :: (← verbatimMembers numbers rest)

/-- Stored entries as members: the key of an entry comes before its value. -/
def verbatimEntries (numbers : Json.NonFinite) :
    List (Value × Value) → Except Unwritable (List (Text × Json))
  | [] => .ok []
  | (key, value) :: rest =>
    return (← memberName numbers key, ← verbatim numbers value) :: (← verbatimEntries numbers rest)

end

end Value

end QueryDesk
