import QueryDesk.Json.Members
import QueryDesk.Number.Double
import QueryDesk.Number.Whole

/-!
# JSON values

Whole numbers are kept apart from doubles: `1` and `1.0` are two values. An object lists its members
in order. `Json.isFinite` holds if no number in a value is infinite or not a number; only such
values have a text that every reader of JSON accepts.
-/

namespace QueryDesk

inductive Json
  | null
  | bool (b : Bool)
  | int (n : Int)
  | double (x : Double)
  | str (s : Text)
  | arr (items : List Json)
  | obj (members : List (Text × Json))
  deriving Inhabited

namespace Json

mutual

/-- Whether all numbers in the value are finite. -/
def isFinite : Json → Bool
  | double x => x.isFinite
  | arr items => allFinite items
  | obj members => membersFinite members
  | _ => true

def allFinite : List Json → Bool
  | [] => true
  | item :: rest => item.isFinite && allFinite rest

def membersFinite : List (Text × Json) → Bool
  | [] => true
  | (_, value) :: rest => value.isFinite && membersFinite rest

end

mutual

/-- Whether `number` holds of all whole numbers in the value and `text` of all strings and names. -/
def every (number : Int → Bool) (text : Text → Bool) : Json → Bool
  | int n => number n
  | str s => text s
  | arr items => everyItem number text items
  | obj members => everyMember number text members
  | _ => true

def everyItem (number : Int → Bool) (text : Text → Bool) : List Json → Bool
  | [] => true
  | item :: rest => item.every number text && everyItem number text rest

def everyMember (number : Int → Bool) (text : Text → Bool) : List (Text × Json) → Bool
  | [] => true
  | (name, value) :: rest => text name && value.every number text && everyMember number text rest

end

/-- Whether all whole numbers in the value have few enough digits to be written. -/
def hasFewDigits (value : Json) : Bool :=
  value.every isShort fun _ => true

/-- Whether all strings and names in the value have a form in UTF-8. -/
def isEncodable (value : Json) : Bool :=
  value.every (fun _ => true) Text.isEncodable

mutual

/-- The value without repeated names: of a repeated one the first place and the last value stay. -/
def withDistinctNames : Json → Json
  | arr items => arr (distinctItems items)
  | obj members => obj (Members.ofPairs (distinctMembers members))
  | value => value

def distinctItems : List Json → List Json
  | [] => []
  | item :: rest => item.withDistinctNames :: distinctItems rest

def distinctMembers : List (Text × Json) → List (Text × Json)
  | [] => []
  | (name, value) :: rest => (name, value.withDistinctNames) :: distinctMembers rest

end

/-- What kind of value it is, in the words of messages. -/
def kindName : Json → Text
  | null => "NoneType"
  | bool _ => "bool"
  | int _ => "int"
  | double _ => "float"
  | str _ => "str"
  | arr _ => "list"
  | obj _ => "dict"

/-- The member of an object; nothing in any other value. -/
def member? (value : Json) (name : Text) : Option Json :=
  match value with
  | obj members => Members.get? members name
  | _ => none

def str? : Json → Option Text
  | str s => some s
  | _ => none

/-- All numbers in a list of items are finite if they are in each item. -/
theorem allFinite_iff {items : List Json} :
    allFinite items = true ↔ ∀ item ∈ items, item.isFinite = true := by
  induction items with
  | nil => simp [allFinite]
  | cons item rest ih => simp [allFinite, ih]

theorem membersFinite_iff {members : List (Text × Json)} :
    membersFinite members = true ↔ ∀ pair ∈ members, pair.2.isFinite = true := by
  induction members with
  | nil => simp [membersFinite]
  | cons pair rest ih => obtain ⟨name, value⟩ := pair; simp [membersFinite, ih]

theorem everyItem_iff {number : Int → Bool} {text : Text → Bool} {items : List Json} :
    everyItem number text items = true ↔ ∀ item ∈ items, item.every number text = true := by
  induction items with
  | nil => simp [everyItem]
  | cons item rest ih => simp [everyItem, ih]

theorem everyMember_iff {number : Int → Bool} {text : Text → Bool}
    {members : List (Text × Json)} :
    everyMember number text members = true ↔
      ∀ pair ∈ members, text pair.1 = true ∧ pair.2.every number text = true := by
  induction members with
  | nil => simp [everyMember]
  | cons pair rest ih => obtain ⟨name, value⟩ := pair; simp [everyMember, ih]

end Json

end QueryDesk
