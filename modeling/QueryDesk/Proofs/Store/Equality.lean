import QueryDesk.Proofs.Json.Numerals
import QueryDesk.Proofs.Store.Documents

/-!
# Decoded values equal themselves

Equality of stored values looks members up by name, so that a document equals itself only if no name
hides another, and no double in it is `nan`. Decoded values are like that: of a repeated name the
reader keeps one member (`hasDistinctNames_of_readUnmarked`). So a decoded value whose numbers are
finite equals itself at every depth (`Value.equals_self_ofJson`), and what is inserted satisfies the
filter of the same members (`IsInsertedAs.satisfies`).
-/

namespace QueryDesk

theorem Members.get?_of_mem {α : Type} {members : Members α} (distinct : members.Distinct)
    {pair : Text × α} (member : pair ∈ members) : members.get? pair.1 = some pair.2 := by
  induction members with
  | nil => cases member
  | cons head rest ih =>
    obtain ⟨name, value⟩ := head
    obtain ⟨fresh, distinct⟩ := List.nodup_cons.mp distinct
    rw [get?]
    rcases List.mem_cons.mp member with rfl | later
    · exact if_pos rfl
    · have other : name ≠ pair.1 := by
        rintro rfl
        exact fresh (List.mem_map.mpr ⟨pair, later, rfl⟩)
      rw [if_neg other]
      exact ih distinct later

theorem Members.mem_of_get? {α : Type} {members : Members α} {name : Text} {value : α}
    (found : members.get? name = some value) : (name, value) ∈ members := by
  induction members with
  | nil => cases found
  | cons head rest ih =>
    obtain ⟨other, old⟩ := head
    rw [get?] at found
    split at found
    case isTrue same =>
      cases found
      rw [same]
      exact List.mem_cons_self
    case isFalse => exact List.mem_cons_of_mem _ (ih found)

/-! ## Distinct names -/

namespace Json

/-- No object in the value has two members of one name. -/
inductive HasDistinctNames : Json → Prop
  | null : HasDistinctNames null
  | bool (b : Bool) : HasDistinctNames (bool b)
  | int (n : Int) : HasDistinctNames (int n)
  | double (x : Double) : HasDistinctNames (double x)
  | str (s : Text) : HasDistinctNames (str s)
  | arr {items : List Json} (each : ∀ item ∈ items, HasDistinctNames item) :
      HasDistinctNames (arr items)
  | obj {members : Members Json} (distinct : members.Distinct)
      (each : ∀ pair ∈ members, HasDistinctNames pair.2) : HasDistinctNames (obj members)

/-- The values in what a stretch of text stands for. -/
def Form.values : Form → List Json
  | value v => [v]
  | elements items => items
  | member _ v => [v]
  | members pairs => pairs.map Prod.snd

theorem hasDistinctNames_of_scalar {text : List Letter} {v : Json}
    (whole : scalar .refused text = .ok (v, [])) : v.HasDistinctNames := by
  rcases scalar_cases whole with named | ⟨n, -, valued⟩
  · simp only [names, List.map_cons, List.map_nil, List.mem_cons, List.not_mem_nil,
      or_false] at named
    rcases named with rfl | rfl | rfl
    · exact .null
    · exact .bool true
    · exact .bool false
  · rcases n.value_cases valued with ⟨k, rfl⟩ | rfl
    · exact .int k
    · exact .double _

theorem hasDistinctNames_of_spells {form : Form} {text : List Letter}
    (spelled : Spells .refused form text) : ∀ v ∈ form.values, v.HasDistinctNames := by
  induction spelled with
  | scalar whole => exact List.forall_mem_singleton.mpr (hasDistinctNames_of_scalar whole)
  | str inside => exact List.forall_mem_singleton.mpr (.str _)
  | emptyArr blank => exact List.forall_mem_singleton.mpr (.arr (List.forall_mem_nil _))
  | emptyObj blank =>
    exact List.forall_mem_singleton.mpr (.obj List.nodup_nil (List.forall_mem_nil _))
  | arr blank inside ih => exact List.forall_mem_singleton.mpr (.arr ih)
  | @obj spaces text pairs blank inside ih =>
    refine List.forall_mem_singleton.mpr (.obj (Members.distinct_ofPairs pairs) ?_)
    intro pair kept
    obtain ⟨written, member, same⟩ := exists_of_mem_ofPairs kept
    exact ih _ (List.mem_map.mpr ⟨written, member, same⟩)
  | lastElement first blank ih | lastMember first blank ih => exact ih
  | member name blank blank' under ih => exact ih
  | nextElement first blank blank' rest ihFirst ihRest
  | nextMember first blank blank' rest ihFirst ihRest =>
    exact List.forall_mem_cons.mpr ⟨ihFirst _ List.mem_cons_self, ihRest⟩

/-- No object in a value that was read has two members of one name. -/
theorem hasDistinctNames_of_readUnmarked {s : List Letter} {v : Json}
    (found : readUnmarked .refused s = .ok v) : v.HasDistinctNames := by
  obtain ⟨before, text, after, -, spelled, -, -⟩ := spells_of_readUnmarked found
  exact hasDistinctNames_of_spells spelled v List.mem_cons_self

end Json

/-! ## Equality -/

namespace Value

theorem itemsEqual_self {items : List Value} (each : ∀ item ∈ items, item.equals item = true) :
    itemsEqual items items = true := by
  induction items with
  | nil => rw [itemsEqual]
  | cons item rest ih =>
    obtain ⟨first, later⟩ := List.forall_mem_cons.mp each
    rw [itemsEqual, first, ih later]
    rfl

/-- A document with distinct names contains all its members, if their values equal themselves. -/
theorem membersContained_self {members : Members Value} (distinct : members.Distinct)
    (each : ∀ pair ∈ members, pair.2.equals pair.2 = true) :
    membersContained members members = true := by
  -- for some of the members
  have some : ∀ part : Members Value, (∀ pair ∈ part, pair ∈ members) →
      membersContained part members = true := by
    intro part
    induction part with
    | nil =>
      intro _
      rw [membersContained]
    | cons head rest ih =>
      intro inside
      obtain ⟨member, later⟩ := List.forall_mem_cons.mp inside
      obtain ⟨name, value⟩ := head
      have found : members.get? name = .some value := Members.get?_of_mem distinct member
      rw [membersContained, found, ih later, Bool.and_true]
      exact each _ member
  exact some members fun _ member => member

/-- A decoded value with distinct names and finite numbers equals itself. -/
theorem equals_self_ofJson {j : Json} (distinct : j.HasDistinctNames) (finite : j.isFinite = true) :
    (ofJson j).equals (ofJson j) = true := by
  induction distinct with
  | null => simp [ofJson, equals, scalarEquals]
  | bool b => simp [ofJson, equals, scalarEquals, scalarEquals.numberEquals]
  | int n => simp [ofJson, equals, scalarEquals, scalarEquals.numberEquals]
  | double x =>
    have number : x ≠ .nan := by
      rintro rfl
      cases finite
    simp [ofJson, equals, scalarEquals, Double.equals_self number]
  | str s => simp [ofJson, equals, scalarEquals]
  | @arr items each ih =>
    rw [Json.isFinite, Json.allFinite_iff] at finite
    rw [ofJson, equals]
    refine itemsEqual_self fun item member => ?_
    rw [ofItems_eq_map] at member
    obtain ⟨j, inside, rfl⟩ := List.mem_map.mp member
    exact ih j inside (finite j inside)
  | @obj members distinct each ih =>
    rw [Json.isFinite, Json.membersFinite_iff] at finite
    rw [ofJson, equals, beq_self_eq_true, Bool.true_and]
    refine membersContained_self ?_ fun pair member => ?_
    · rw [Members.Distinct, Members.names, ofMembers_eq_map, List.map_map]
      exact distinct
    · rw [ofMembers_eq_map] at member
      obtain ⟨pair, inside, rfl⟩ := List.mem_map.mp member
      exact ih pair inside (finite pair inside)

end Value

/-- What is inserted satisfies the filter of the same members. -/
theorem IsInsertedAs.satisfies {document : Members Json} {added : Document}
    (same : IsInsertedAs document added) (distinct : (Json.obj document).HasDistinctNames)
    (finite : Json.membersFinite document = true) : added.satisfies document = true := by
  rw [Json.membersFinite_iff] at finite
  cases distinct with
  | obj distinct each =>
    rw [Document.satisfies, List.all_eq_true]
    intro pair member
    have found : Members.get? (Value.ofMembers document) pair.1 = some (.ofJson pair.2) := by
      rw [Value.get?_ofMembers, Members.get?_of_mem distinct member]
      rfl
    have kept : added.get? pair.1 = some (Value.ofJson pair.2) := by
      cases same with
      | own present => exact found
      | given missing id => rw [Members.get?_append, found, Option.some_or]
    show ((Members.get? added pair.1).getD .null).equals (.ofJson pair.2) = true
    rw [kept]
    exact Value.equals_self_ofJson (each pair member) (finite pair member)

end QueryDesk
