import QueryDesk.Number.Shortest
import QueryDesk.Store.Value
import QueryDesk.Text.Hex
import QueryDesk.Text.Quoted

/-!
# Values as text

`Value.display?` is the text of a value where a name is wanted: the name of an index, or the key of
a member. A string stands for itself. Inside lists and mappings values are told apart by their form,
so there `Value.shown?` puts strings between quotes and names the type of what has no form of its
own. There is no text of a whole number with too many digits.
-/

namespace QueryDesk

/-- The hexadecimal digits of bytes. -/
def hexText (data : List UInt8) : Text :=
  .ofList (data.flatMap fun b => Text.Hex.digits 2 b.toNat)

/-- The twelve bytes of an identifier in hexadecimal digits. -/
def objectIdText (id : BitVec 96) : Text :=
  .ofList (Text.Hex.digits 24 id.toNat)

/-- The sixteen bytes of a universal identifier in its five groups. -/
def uuidText (data : List UInt8) : Text :=
  let group (start count : Nat) := hexText ((data.drop start).take count)
  Text.intercalate "-" [group 0 4, group 4 2, group 6 2, group 8 2, group 10 6]

/-- Bytes between quotes: printable ASCII as itself and everything else by its number. -/
def bytesText (data : List UInt8) : Text :=
  let chars := data.map fun b => Letter.ofNat b.toNat
  let quote := Text.quoteFor chars
  let one (c : Letter) : List Letter :=
    if c.toNat < 0x7F then Text.quotedChar quote c
    else .char '\\' :: .char 'x' :: Text.Hex.digits 2 c.toNat
  .ofList (.char 'b' :: quote :: chars.flatMap one ++ [quote])

namespace Value

def boolText (b : Bool) : Text :=
  if b then "True" else "False"

/-- Texts between two marks, with commas. -/
def listed (opening : Text) (parts : List Text) (closing : Text) : Text :=
  opening ++ Text.intercalate ", " parts ++ closing

/-- The name of a type with what its value is made of. -/
def called (name : Text) (parts : List Text) : Text :=
  name ++ listed "(" parts ")"

/-- The numbers that a time of day is made of. -/
def clockParts (c : Clock) : List Nat :=
  [c.hour, c.minute] ++
    if c.microsecond ≠ 0 then [c.second, c.microsecond]
    else if c.second ≠ 0 then [c.second] else []

/-- A distance from universal time, in days and seconds; the seconds are never negative. -/
def zoneText (offset : Int) : Text :=
  let days := Int.fdiv offset 86400
  let seconds := offset - days * 86400
  let parts :=
    (if days = 0 then [] else ["days=" ++ toString days]) ++
      if seconds = 0 then [] else ["seconds=" ++ toString seconds]
  if offset = 0 then "datetime.timezone.utc"
  else called "datetime.timezone" [called "datetime.timedelta" (parts.map .ofString)]

/-- What a date and time is made of. -/
def dateTimeParts (t : DateTime) : List Text :=
  let numbers := [toString t.date.year, toString t.date.month, toString t.date.day] ++
    (clockParts t.clock).map toString
  numbers.map Text.ofString ++
    match t.offset with
    | none => []
    | some offset => ["tzinfo=" ++ zoneText offset]

/-- The subtype of bytes that are not to be seen. -/
def sensitive : UInt8 := 8

/-- Bytes with their subtype; sensitive ones are left out. -/
def binaryText (subtype : UInt8) (data : List UInt8) : Text :=
  if subtype = sensitive then "<" ++ called "Binary" ["REDACTED", toString subtype] ++ ">"
  else called "Binary" [bytesText data, toString subtype]

mutual

/-- The text of a value that shows its form, unless a whole number in it has too many digits. -/
def shown? : Value → Option Text
  | null => some "None"
  | bool b => some (boolText b)
  | int n => wholeText? n
  | double x => some x.text
  | str s => some (Text.quoted s)
  | code text => some (called "Code" [Text.quoted text, "None"])
  | scopedCode text scope => return called "Code" [Text.quoted text, ← shown? scope]
  | objectId id => some (called "ObjectId" [Text.quoted (objectIdText id)])
  | dateTime t => some (called "datetime.datetime" (dateTimeParts t))
  | date d => some (called "datetime.date" [toString d.year, toString d.month, toString d.day])
  | time c => some (called "datetime.time" ((clockParts c).map fun n => toString n))
  | instant n => some (called "DatetimeMS" [toString n])
  | decimal128 d => some (called "Decimal128" [Text.quoted d.text])
  | decimal d => some (called "Decimal" [Text.quoted d.text])
  | bytes data => some (bytesText data)
  | byteArray data => some (called "bytearray" [bytesText data])
  | binary subtype data => some (binaryText subtype data)
  | uuid data => some (called "UUID" [Text.quoted (uuidText data)])
  | arr items => return listed "[" (← shownItems? items) "]"
  | tuple items =>
    return match ← shownItems? items with
      -- a comma tells a tuple of one item from a value in parentheses
      | [item] => "(" ++ item ++ ",)"
      | texts => listed "(" texts ")"
  | set items =>
    return match ← shownItems? items with
      | [] => "set()"
      | texts => listed "\x7b" texts "\x7d"
  | frozenSet items =>
    return match ← shownItems? items with
      | [] => "frozenset()"
      | texts => listed "frozenset(\x7b" texts "\x7d)"
  | doc members => return listed "\x7b" (← shownMembers? members) "\x7d"
  | map entries => return listed "\x7b" (← shownEntries? entries) "\x7d"
  | timestamp t i => some (called "Timestamp" [toString t, toString i])
  | regex source flags => return called "Regex" [Text.quoted source, ← wholeText? flags]
  | pattern source flags => some (Pattern.compiledText source flags)
  | minKey => some "MinKey()"
  | maxKey => some "MaxKey()"
  | ref collection id database more =>
    return called "DBRef" ([Text.quoted collection, ← shown? id] ++
      (database.map Text.quoted).toList ++ (← shownFields? more))

def shownItems? : List Value → Option (List Text)
  | [] => some []
  | item :: rest => return (← shown? item) :: (← shownItems? rest)

def shownMembers? : List (Text × Value) → Option (List Text)
  | [] => some []
  | (name, value) :: rest =>
    return (Text.quoted name ++ ": " ++ (← shown? value)) :: (← shownMembers? rest)

def shownEntries? : List (Value × Value) → Option (List Text)
  | [] => some []
  | (key, value) :: rest =>
    return ((← shown? key) ++ ": " ++ (← shown? value)) :: (← shownEntries? rest)

/-- The further members of a reference, under their bare names. -/
def shownFields? : List (Text × Value) → Option (List Text)
  | [] => some []
  | (name, value) :: rest => return (name ++ "=" ++ (← shown? value)) :: (← shownFields? rest)

end

/-- The text of a value where a name is wanted, unless a whole number in it has too many digits. -/
def display? : Value → Option Text
  | str s => some s
  | code text => some text
  | scopedCode text _ => some text
  | objectId id => some (objectIdText id)
  | dateTime t => some (t.textWith " ")
  | date d => some d.text
  | time c => some c.text
  | decimal128 d => some d.text
  | decimal d => some d.text
  | binary _ data => some (bytesText data)
  | uuid data => some (uuidText data)
  | value => value.shown?

end Value

end QueryDesk
