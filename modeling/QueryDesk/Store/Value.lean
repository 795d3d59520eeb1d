import QueryDesk.Json.Basic
import QueryDesk.Number.Decimal
import QueryDesk.Store.Calendar
import QueryDesk.Store.Pattern

/-!
# Stored values

What a document may hold: everything that JSON has, the further types of BSON, and a few types that
clients hand in and that no document can be shown with. `Value.ofJson` takes a decoded value over.
-/

namespace QueryDesk

/-- A value in the store. -/
inductive Value
  | null
  | bool (b : Bool)
  | int (n : Int)
  | double (x : Double)
  | str (s : Text)
  /-- A piece of program text. -/
  | code (text : Text)
  /-- A piece of program text with a mapping of values for its variables. -/
  | scopedCode (text : Text) (scope : Value)
  /-- Twelve bytes that identify a document. -/
  | objectId (id : BitVec 96)
  | dateTime (t : DateTime)
  | date (d : Date)
  | time (t : Clock)
  /-- Milliseconds since 1970, also beyond the years that a calendar time can have. -/
  | instant (milliseconds : Int64)
  /-- A decimal of the 128-bit format. -/
  | decimal128 (d : Decimal)
  /-- A decimal without a format. -/
  | decimal (d : Decimal)
  | bytes (data : List UInt8)
  /-- Bytes that can be changed in place. -/
  | byteArray (data : List UInt8)
  /-- Bytes with a number for what they mean. -/
  | binary (subtype : UInt8) (data : List UInt8)
  | uuid (data : List UInt8)
  | arr (items : List Value)
  | tuple (items : List Value)
  | set (items : List Value)
  | frozenSet (items : List Value)
  /-- A document: its names are strings. -/
  | doc (members : List (Text × Value))
  /-- A mapping with a key that is no string. -/
  | map (entries : List (Value × Value))
  | timestamp (time increment : UInt32)
  /-- A regular expression with its option bits. -/
  | regex (source : Text) (flags : Int)
  /-- A regular expression that is compiled for text, with all its options. -/
  | pattern (source : Text) (flags : Nat)
  | minKey
  | maxKey
  /-- A reference to a document, with further members of its own. -/
  | ref (collection : Text) (id : Value) (database : Option Text)
    (more : List (Text × Value))
  deriving Inhabited

/-- The members of a document. -/
abbrev Document := Members Value

namespace Value

mutual

/-- A decoded value in the store. -/
def ofJson : Json → Value
  | .null => null
  | .bool b => bool b
  | .int n => int n
  | .double x => double x
  | .str s => str s
  | .arr items => arr (ofItems items)
  | .obj members => doc (ofMembers members)

def ofItems : List Json → List Value
  | [] => []
  | item :: rest => ofJson item :: ofItems rest

def ofMembers : List (Text × Json) → List (Text × Value)
  | [] => []
  | (name, value) :: rest => (name, ofJson value) :: ofMembers rest

end

/-- Items are taken over one by one. -/
theorem ofItems_eq_map (items : List Json) : ofItems items = items.map ofJson := by
  induction items with
  | nil => rfl
  | cons item rest ih => simp [ofItems, ih]

theorem ofMembers_eq_map (members : List (Text × Json)) :
    ofMembers members = members.map fun pair => (pair.1, ofJson pair.2) := by
  induction members with
  | nil => rfl
  | cons pair rest ih => obtain ⟨name, value⟩ := pair; simp [ofMembers, ih]

/-! ## Equality -/

/-- Equality of two scalars; numbers are equal across their types, and so are `true` and one. -/
def scalarEquals : Value → Value → Bool
  | null, null => true
  | bool a, b => numberEquals (if a then 1 else 0) b
  | int n, b => numberEquals n b
  | double x, double y => x.equals y
  | double x, int n => x.equalsInt n
  | double x, bool b => x.equalsInt (if b then 1 else 0)
  | double x, decimal d => d.equalsDouble x
  | decimal d, decimal e => d.equals e
  | decimal d, int n => d.equalsInt n
  | decimal d, bool b => d.equalsInt (if b then 1 else 0)
  | decimal d, double x => d.equalsDouble x
  | str s, str t => s == t
  | code s, code t => s == t
  | objectId a, objectId b => a == b
  | dateTime a, dateTime b =>
    a.offset.isSome == b.offset.isSome && a.milliseconds == b.milliseconds &&
      a.clock.microsecond == b.clock.microsecond
  | date a, date b => a == b
  | time a, time b => a == b
  | instant a, instant b => a == b
  | decimal128 a, decimal128 b => a == b
  | bytes a, b => bytesEqual a b
  | byteArray a, b => bytesEqual a b
  | binary s a, binary t b => s == t && a == b
  | uuid a, uuid b => a == b
  | timestamp a b, timestamp c d => a == c && b == d
  | regex a f, regex b g => a == b && f == g
  | pattern a f, pattern b g => a == b && f == g
  | minKey, minKey => true
  | maxKey, maxKey => true
  | _, _ => false
where
  /-- Equality of a whole number with any value. -/
  numberEquals (n : Int) : Value → Bool
    | int m => n == m
    | bool b => n == if b then 1 else 0
    | double x => x.equalsInt n
    | decimal d => d.equalsInt n
    | _ => false
  /-- Equality of bytes with any value. -/
  bytesEqual (data : List UInt8) : Value → Bool
    | bytes other => data == other
    | byteArray other => data == other
    | _ => false

mutual

/-- Equality of stored values. Documents and mappings do not depend on the order of their members,
arrays do. -/
def equals : Value → Value → Bool
  | arr xs, arr ys => itemsEqual xs ys
  | tuple xs, tuple ys => itemsEqual xs ys
  | set xs, set ys => xs.length == ys.length && allContained xs ys
  | set xs, frozenSet ys => xs.length == ys.length && allContained xs ys
  | frozenSet xs, set ys => xs.length == ys.length && allContained xs ys
  | frozenSet xs, frozenSet ys => xs.length == ys.length && allContained xs ys
  | doc xs, doc ys => xs.length == ys.length && membersContained xs ys
  | map xs, map ys => xs.length == ys.length && entriesContained xs ys
  | scopedCode s x, scopedCode t y => s == t && equals x y
  | ref c x d xs, ref c' y d' ys =>
    c == c' && d == d' && equals x y && (xs.length == ys.length && membersContained xs ys)
  | x, y => scalarEquals x y

def itemsEqual : List Value → List Value → Bool
  | [], [] => true
  | x :: xs, y :: ys => equals x y && itemsEqual xs ys
  | _, _ => false

/-- Whether each value equals one of the others. -/
def allContained : List Value → List Value → Bool
  | [], _ => true
  | x :: xs, ys => ys.any (fun y => equals x y) && allContained xs ys

/-- Whether each member equals the one of its name among the others. -/
def membersContained : List (Text × Value) → List (Text × Value) → Bool
  | [], _ => true
  | (name, x) :: xs, ys =>
    (match Members.get? ys name with
      | some y => equals x y
      | none => false) && membersContained xs ys

/-- Whether each entry equals one of the others. -/
def entriesContained : List (Value × Value) → List (Value × Value) → Bool
  | [], _ => true
  | (k, x) :: xs, ys =>
    ys.any (fun entry => equals k entry.1 && equals x entry.2) && entriesContained xs ys

end

/-! ## Mappings -/

/-- Sets an entry: an equal key keeps its place and its form and takes the new value. -/
def putEntry : List (Value × Value) → Value × Value → List (Value × Value)
  | [], entry => [entry]
  | (key, old) :: rest, entry =>
    if key.equals entry.1 then (key, entry.2) :: rest else (key, old) :: putEntry rest entry

/-- The names of a mapping whose keys all are strings. -/
def stringEntries? : List (Value × Value) → Option (List (Text × Value))
  | [] => some []
  | (str name, value) :: rest => (stringEntries? rest).map ((name, value) :: ·)
  | _ => none

/-- The mapping that a sequence of entries leaves; it is a document if all keys are strings. -/
def ofEntries (entries : List (Value × Value)) : Value :=
  let kept := entries.foldl putEntry []
  match stringEntries? kept with
  | some members => doc members
  | none => map kept

/-- A regular expression that is compiled for text with the given options. -/
def compiled (source : Text) (flags : Nat) : Value :=
  pattern source (Pattern.compiledFlags source flags)

end Value

end QueryDesk
