import QueryDesk.Proofs.Json.Layout

/-!
# The strings of a value

`Json.mapStrings` changes the characters of all strings in a value, at any depth, and leaves its
names, its numbers and its shape alone. A text for a value is a text for the changed value as well,
if a spelling is read so (`Laid.mapStrings`).
-/

namespace QueryDesk.Json

mutual

/-- The strings in a value, at any depth. Names are none. -/
def strings : Json → List Text
  | str s => [s]
  | arr items => itemStrings items
  | obj members => memberStrings members
  | _ => []

def itemStrings : List Json → List Text
  | [] => []
  | item :: rest => item.strings ++ itemStrings rest

def memberStrings : List (Text × Json) → List Text
  | [] => []
  | (_, value) :: rest => value.strings ++ memberStrings rest

end

mutual

/-- The value with all characters of its strings changed. -/
def mapStrings (f : Letter → Letter) : Json → Json
  | str s => str (.ofList (s.toList.map f))
  | arr items => arr (mapItems f items)
  | obj members => obj (mapMembers f members)
  | value => value

def mapItems (f : Letter → Letter) : List Json → List Json
  | [] => []
  | item :: rest => item.mapStrings f :: mapItems f rest

def mapMembers (f : Letter → Letter) : List (Text × Json) → List (Text × Json)
  | [] => []
  | (name, value) :: rest => (name, value.mapStrings f) :: mapMembers f rest

end

variable {f : Letter → Letter}

mutual

/-- A value in whose strings no character changes stays the same. -/
theorem mapStrings_eq_self (v : Json) (fixed : ∀ s ∈ v.strings, ∀ c ∈ s.toList, f c = c) :
    v.mapStrings f = v := by
  cases v with
  | str s =>
    have same : s.toList.map f = s.toList.map id :=
      List.map_congr_left (fixed s (List.mem_singleton_self s))
    rw [mapStrings, same, List.map_id, Text.ofList_toList]
  | arr items => rw [mapStrings, mapItems_eq_self items fixed]
  | obj members => rw [mapStrings, mapMembers_eq_self members fixed]
  | _ => rfl

theorem mapItems_eq_self (items : List Json)
    (fixed : ∀ s ∈ itemStrings items, ∀ c ∈ s.toList, f c = c) : mapItems f items = items := by
  cases items with
  | nil => rfl
  | cons item rest =>
    rw [itemStrings, List.forall_mem_append] at fixed
    rw [mapItems, mapStrings_eq_self item fixed.1, mapItems_eq_self rest fixed.2]

theorem mapMembers_eq_self (members : List (Text × Json))
    (fixed : ∀ s ∈ memberStrings members, ∀ c ∈ s.toList, f c = c) :
    mapMembers f members = members := by
  cases members with
  | nil => rfl
  | cons pair rest =>
    rw [memberStrings, List.forall_mem_append] at fixed
    rw [mapMembers, mapStrings_eq_self pair.2 fixed.1, mapMembers_eq_self rest fixed.2]

end

/-- Joining repeated names and changing the strings can be done in either order. -/
theorem mapMembers_ofPairs (pairs : List (Text × Json)) :
    mapMembers f (Members.ofPairs pairs) = Members.ofPairs (mapMembers f pairs) := by
  have put : ∀ (members : Members Json) (name : Text) (v : Json),
      mapMembers f (Members.put members name v) =
        Members.put (mapMembers f members) name (v.mapStrings f) := by
    intro members name v
    induction members with
    | nil => rfl
    | cons head rest ih =>
      by_cases same : head.1 = name
      · simp [Members.put, mapMembers, same]
      · simp [Members.put, mapMembers, same, ih]
  have fold : ∀ members : Members Json,
      mapMembers f (pairs.foldl (fun members pair => Members.put members pair.1 pair.2) members) =
        (mapMembers f pairs).foldl (fun members pair => Members.put members pair.1 pair.2)
          (mapMembers f members) := by
    induction pairs with
    | nil => exact fun _ => rfl
    | cons pair rest ih =>
      intro members
      rw [List.foldl_cons, ih, put, mapMembers, List.foldl_cons]
  exact fold []

/-! ## Texts -/

/-- What a stretch of text stands for, with all characters of its strings changed. -/
def Form.mapStrings (f : Letter → Letter) : Form → Form
  | value v => value (v.mapStrings f)
  | elements items => elements (mapItems f items)
  | member name v => member name (v.mapStrings f)
  | members pairs => members (mapMembers f pairs)

/-- The spelling in which a text stands for what it stood for, with all characters of its strings
changed. -/
def Spelling.mapStrings (f : Letter → Letter) (σ : Spelling) : Spelling where
  leaf w text := ∃ v, σ.leaf v text ∧ w = v.mapStrings f
  name := σ.name

theorem Laid.mapStrings {σ : Spelling} {form : Form} {text : List Letter}
    (laid : Laid σ form text) :
    Laid (σ.mapStrings f) (form.mapStrings f) text := by
  induction laid with
  | leaf written => exact .leaf ⟨_, written, rfl⟩
  | emptyArr blank => exact .emptyArr blank
  | arr blank _ ih => exact .arr blank ih
  | emptyObj blank => exact .emptyObj blank
  | @obj spaces text pairs blank _ ih =>
    have changed := Laid.obj blank ih
    rw [← mapMembers_ofPairs] at changed
    exact changed
  | lastElement _ blank ih => exact .lastElement ih blank
  | nextElement _ blank blank' _ ihFirst ihRest => exact .nextElement ihFirst blank blank' ihRest
  | member named blank _ ih => exact .member named blank ih
  | lastMember _ blank ih => exact .lastMember ih blank
  | nextMember _ blank blank' _ ihFirst ihRest => exact .nextMember ihFirst blank blank' ihRest

end QueryDesk.Json
