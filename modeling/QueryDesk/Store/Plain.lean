import QueryDesk.Store.Extended

/-!
# Plain values of stored values

`Value.plain` turns a stored value into JSON that every reader accepts. What JSON has stays as it is
(`plain_ofJson`); identifiers, dates, decimals and bytes become strings; a number that is not finite
and the remaining types take the relaxed form of extended JSON, an object with one telling name.
Values without any such form are refused.
-/

namespace QueryDesk

namespace Value

/-- A double; one that is not finite is named by a string. -/
def plainDouble (x : Double) : Json :=
  match nonFiniteName? x with
  | none => .double x
  | some name => .obj [("$numberDouble", .str name)]

/-- The name that a key is shown under. -/
def plainName (key : Value) : Except Unwritable Text :=
  match key.display? with
  | some name => .ok name
  | none => .error .tooManyDigits

mutual

/-- The plain form of a stored value. -/
def plain : Value → Except Unwritable Json
  | null => .ok .null
  | bool b => .ok (.bool b)
  | int n => .ok (.int n)
  | double x => .ok (plainDouble x)
  | str s => .ok (.str s)
  | code text => .ok (.str text)
  | scopedCode text _ => .ok (.str text)
  | objectId id => .ok (.str (objectIdText id))
  | dateTime t => .ok (.str t.text)
  | date d => .ok (.str d.text)
  | decimal128 d => .ok (.str d.text)
  | bytes data => .ok (.str (base64Text data))
  | binary _ data => .ok (.str (base64Text data))
  | doc members => do return .obj (← plainMembers members)
  | map entries => do return .obj (Members.ofPairs (← plainEntries entries))
  | arr items => do return .arr (← plainItems items)
  | tuple items => do return .arr (← plainItems items)
  | set items => do return .arr (← plainItems items)
  | value => value.extendedJson

def plainItems : List Value → Except Unwritable (List Json)
  | [] => .ok []
  | item :: rest => do return (← plain item) :: (← plainItems rest)

def plainMembers : List (Text × Value) → Except Unwritable (List (Text × Json))
  | [] => .ok []
  | (name, value) :: rest => do return (name, ← plain value) :: (← plainMembers rest)

/-- The plain form of entries, each under the text of its key. -/
def plainEntries : List (Value × Value) → Except Unwritable (List (Text × Json))
  | [] => .ok []
  | (key, value) :: rest =>
    return (← plainName key, ← plain value) :: (← plainEntries rest)

end

mutual

/-- A decoded value whose numbers are finite is plain already. -/
theorem plain_ofJson {value : Json} (h : value.isFinite = true) :
    (ofJson value).plain = .ok value := by
  cases value with
  | null => rfl
  | bool => rfl
  | int => rfl
  | double x =>
    cases x with
    | finite x => rfl
    | infinite => simp [Json.isFinite, Double.isFinite] at h
    | nan => simp [Json.isFinite, Double.isFinite] at h
  | str => rfl
  | arr items =>
    simp only [ofJson, plain, plainItems_ofItems (by simpa [Json.isFinite] using h)]
    rfl
  | obj members =>
    simp only [ofJson, plain, plainMembers_ofMembers (by simpa [Json.isFinite] using h)]
    rfl

theorem plainItems_ofItems {items : List Json} (h : Json.allFinite items = true) :
    plainItems (ofItems items) = .ok items := by
  cases items with
  | nil => rfl
  | cons item rest =>
    simp only [Json.allFinite, Bool.and_eq_true] at h
    simp only [ofItems, plainItems, plain_ofJson h.1, plainItems_ofItems h.2]
    rfl

theorem plainMembers_ofMembers {members : List (Text × Json)}
    (h : Json.membersFinite members = true) :
    plainMembers (ofMembers members) = .ok members := by
  cases members with
  | nil => rfl
  | cons pair rest =>
    obtain ⟨name, value⟩ := pair
    simp only [Json.membersFinite, Bool.and_eq_true] at h
    simp only [ofMembers, plainMembers, plain_ofJson h.1, plainMembers_ofMembers h.2]
    rfl

end

end Value

end QueryDesk
