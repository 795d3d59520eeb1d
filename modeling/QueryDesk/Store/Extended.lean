import QueryDesk.Store.Display
import QueryDesk.Store.Verbatim
import QueryDesk.Text.Base64

/-!
# Extended JSON

Extended JSON has a form for every type of BSON: an object with a telling name, such as
`$timestamp`. `Value.extended` puts these forms in place of the values, in the relaxed way, which
leaves finite numbers alone. Types that are not of BSON stay as they are, and so do keys: they are
refused only when the value is written. So a value that has no form at all is refused before any of
them.
-/

namespace QueryDesk

namespace Value

/-- A document with one member. -/
def tagged (name : Text) (value : Value) : Value :=
  doc [(name, value)]

def base64Text (data : List UInt8) : Text :=
  .ofList ((Text.base64 data).map .char)

/-- The name of a double that is not finite. -/
def nonFiniteName? : Double → Option Text
  | .finite _ => none
  | .nan => some "NaN"
  | .infinite false => some "Infinity"
  | .infinite true => some "-Infinity"

/-- A double; one that is not finite is named by a string. -/
def extendedDouble (x : Double) : Value :=
  match nonFiniteName? x with
  | none => double x
  | some name => tagged "$numberDouble" (str name)

/-- Bytes with their subtype. -/
def extendedBytes (subtype : UInt8) (data : List UInt8) : Value :=
  tagged "$binary" (doc [("base64", str (base64Text data)),
    ("subType", str (.ofList (Text.Hex.digits 2 subtype.toNat)))])

/-- Milliseconds since 1970 as a number in a string. -/
def extendedMilliseconds (n : Int) : Value :=
  tagged "$date" (tagged "$numberLong" (str (toString n)))

/-- A calendar time; before 1970 by its milliseconds, which start in the year 1. -/
def extendedDateTime (t : DateTime) : Except Unwritable Value :=
  if !t.isBeforeEpoch then .ok (tagged "$date" (str t.extendedText))
  else if t.isBeforeCalendar then .error .tooEarly
  else .ok (extendedMilliseconds t.milliseconds)

/-- The milliseconds at the end of the year 9999. -/
def lastMillisecond : Int := 253402300799999

/-- Milliseconds since 1970; as a calendar time within the years 1970 to 9999. -/
def extendedInstant (n : Int64) : Value :=
  if 0 ≤ n.toInt && n.toInt ≤ lastMillisecond then
    tagged "$date" (str (DateTime.ofMilliseconds n.toInt).extendedText)
  else extendedMilliseconds n.toInt

def extendedRegex (source : Text) (flags : Int) : Value :=
  tagged "$regularExpression"
    (doc [("pattern", str source), ("options", str (Pattern.optionLetters flags))])

/-- The members of a reference as a document. A further member takes the place of one of the same
name. -/
def referenceMembers {α : Type} (text : Text → α) (collection : Text) (id : α)
    (database : Option Text) (more : List (Text × α)) : Members α :=
  let place : List (Text × α) := [("$ref", text collection), ("$id", id)]
  let inDatabase : Option (Text × α) := database.map fun name => ("$db", text name)
  Members.ofPairs (place ++ inDatabase.toList ++ more)

/-- Named values in their order, or the first failure among them. -/
def inOrder : List (Text × Except Unwritable Value) → Except Unwritable (List (Text × Value))
  | [] => .ok []
  | (name, result) :: rest => return (name, ← result) :: (← inOrder rest)

mutual

/-- A value with the relaxed forms of extended JSON in place of what JSON does not have. -/
def extended : Value → Except Unwritable Value
  | double x => .ok (extendedDouble x)
  | code text => .ok (tagged "$code" (str text))
  | scopedCode text scope => return doc [("$code", str text), ("$scope", ← extended scope)]
  | objectId id => .ok (tagged "$oid" (str (objectIdText id)))
  | dateTime t => extendedDateTime t
  | instant n => .ok (extendedInstant n)
  | decimal128 d => .ok (tagged "$numberDecimal" (str d.text))
  | bytes data => .ok (extendedBytes 0 data)
  | byteArray data => .ok (arr (data.map fun b => int b.toNat))
  | binary subtype data => .ok (extendedBytes subtype data)
  | uuid _ => .error .uuid
  | arr items => return arr (← extendedItems items)
  | tuple items => return arr (← extendedItems items)
  | set items => return arr (← extendedItems items)
  | frozenSet items => return arr (← extendedItems items)
  | doc members => return doc (← inOrder (extendedMembers members))
  | map entries => return map (← extendedEntries entries)
  | timestamp t i => .ok (tagged "$timestamp" (doc [("t", int t.toNat), ("i", int i.toNat)]))
  | regex source flags => .ok (extendedRegex source flags)
  | pattern source flags => .ok (extendedRegex source flags)
  | minKey => .ok (tagged "$minKey" (int 1))
  | maxKey => .ok (tagged "$maxKey" (int 1))
  | ref collection id database more =>
    return doc (← inOrder (referenceMembers (fun s => .ok (str s)) collection (extended id) database
      (extendedMembers more)))
  | other => .ok other

def extendedItems : List Value → Except Unwritable (List Value)
  | [] => .ok []
  | item :: rest => return (← extended item) :: (← extendedItems rest)

/-- What becomes of each member. -/
def extendedMembers : List (Text × Value) → List (Text × Except Unwritable Value)
  | [] => []
  | (name, value) :: rest => (name, extended value) :: extendedMembers rest

/-- Entries in extended JSON; their keys stay. -/
def extendedEntries : List (Value × Value) → Except Unwritable (List (Value × Value))
  | [] => .ok []
  | (key, value) :: rest => return (key, ← extended value) :: (← extendedEntries rest)

end

/-- A value in the relaxed form of extended JSON. Of a name that occurs twice, the first place and
the last value count. -/
def extendedJson (v : Value) : Except Unwritable Json :=
  return (← (← v.extended).verbatim .accepted).withDistinctNames

end Value

end QueryDesk
