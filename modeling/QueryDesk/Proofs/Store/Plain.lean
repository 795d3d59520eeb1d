import QueryDesk.Proofs.Store.Reply

/-!
# Plain values stay

A value is plain if JSON has it as it is: null, truth values, whole numbers, finite doubles and
strings, and arrays and documents of these, built up to any depth (`Value.IsPlain`). A value is
shown as itself exactly if it is plain, and whatever is shown is plain, so showing it again changes
nothing (`Value.plain_values_stay`).

* Plain values are the decoded values with finite numbers (`Value.isPlain_iff`). Their members and
  items are shown in their order, and no two of them become one (`Value.plain_ofJson`).
* What any other value is shown as has been decoded, too, and its numbers are finite at every depth
  (`Value.isFinite_of_plain`).
-/

namespace QueryDesk.Value

/-- A value that JSON has as it is, at every depth. -/
inductive IsPlain : Value → Prop
  | null : IsPlain null
  | bool (b : Bool) : IsPlain (bool b)
  | int (n : Int) : IsPlain (int n)
  | double {x : Double} (finite : x.isFinite = true) : IsPlain (double x)
  | str (s : Text) : IsPlain (str s)
  | arr {items : List Value} (each : ∀ item ∈ items, IsPlain item) : IsPlain (arr items)
  | doc {members : List (Text × Value)} (each : ∀ pair ∈ members, IsPlain pair.2) :
      IsPlain (doc members)

/-! ## Plain values are decoded ones -/

mutual

theorem isPlain_ofJson {j : Json} (finite : j.isFinite = true) : (ofJson j).IsPlain := by
  cases j with
  | null => exact .null
  | bool b => exact .bool b
  | int n => exact .int n
  | double x => exact .double finite
  | str s => exact .str s
  | arr items =>
    rw [Json.isFinite] at finite
    exact .arr (isPlain_ofItems finite)
  | obj members =>
    rw [Json.isFinite] at finite
    exact .doc (isPlain_ofMembers finite)

theorem isPlain_ofItems {items : List Json} (finite : Json.allFinite items = true) :
    ∀ item ∈ ofItems items, item.IsPlain := by
  cases items with
  | nil => exact List.forall_mem_nil _
  | cons item rest =>
    rw [Json.allFinite, Bool.and_eq_true] at finite
    rw [ofItems, List.forall_mem_cons]
    exact ⟨isPlain_ofJson finite.1, isPlain_ofItems finite.2⟩

theorem isPlain_ofMembers {members : List (Text × Json)}
    (finite : Json.membersFinite members = true) :
    ∀ pair ∈ ofMembers members, pair.2.IsPlain := by
  cases members with
  | nil => exact List.forall_mem_nil _
  | cons pair rest =>
    obtain ⟨name, value⟩ := pair
    rw [Json.membersFinite, Bool.and_eq_true] at finite
    rw [ofMembers, List.forall_mem_cons]
    exact ⟨isPlain_ofJson finite.1, isPlain_ofMembers finite.2⟩

end

/-- A value that was decoded, with finite numbers. -/
def IsDecoded (v : Value) : Prop :=
  ∃ j : Json, j.isFinite = true ∧ ofJson j = v

theorem isDecoded_arr {items : List Value} (each : ∀ item ∈ items, item.IsDecoded) :
    (arr items).IsDecoded := by
  have listed : ∃ js, Json.allFinite js = true ∧ ofItems js = items := by
    induction items with
    | nil => exact ⟨[], rfl, rfl⟩
    | cons item rest ih =>
      rw [List.forall_mem_cons] at each
      obtain ⟨j, finite, rfl⟩ := each.1
      obtain ⟨js, finite', rfl⟩ := ih each.2
      refine ⟨j :: js, ?_, rfl⟩
      rw [Json.allFinite, finite, finite']
      rfl
  obtain ⟨js, finite, rfl⟩ := listed
  exact ⟨.arr js, finite, rfl⟩

theorem isDecoded_doc {members : List (Text × Value)}
    (each : ∀ pair ∈ members, pair.2.IsDecoded) : (doc members).IsDecoded := by
  have listed : ∃ js, Json.membersFinite js = true ∧ ofMembers js = members := by
    induction members with
    | nil => exact ⟨[], rfl, rfl⟩
    | cons pair rest ih =>
      obtain ⟨name, value⟩ := pair
      rw [List.forall_mem_cons] at each
      obtain ⟨j, finite, rfl⟩ := each.1
      obtain ⟨js, finite', rfl⟩ := ih each.2
      refine ⟨(name, j) :: js, ?_, rfl⟩
      rw [Json.membersFinite, finite, finite']
      rfl
  obtain ⟨js, finite, rfl⟩ := listed
  exact ⟨.obj js, finite, rfl⟩

variable {v : Value}

/-- The plain values are the decoded ones whose numbers are finite. -/
theorem isPlain_iff : v.IsPlain ↔ v.IsDecoded := by
  constructor
  · intro plain
    induction plain with
    | null => exact ⟨.null, rfl, rfl⟩
    | bool b => exact ⟨.bool b, rfl, rfl⟩
    | int n => exact ⟨.int n, rfl, rfl⟩
    | double finite => exact ⟨.double _, finite, rfl⟩
    | str s => exact ⟨.str s, rfl, rfl⟩
    | arr each ih => exact isDecoded_arr ih
    | doc each ih => exact isDecoded_doc ih
  · rintro ⟨j, finite, rfl⟩
    exact isPlain_ofJson finite

/-! ## What is shown -/

theorem IsPlain.present (plain : v.IsPlain) : v.present = .ok v := by
  obtain ⟨j, finite, rfl⟩ := isPlain_iff.mp plain
  exact present_eq_ok_iff.mpr ⟨j, plain_ofJson finite, rfl⟩

theorem isPlain_of_present {shown : Value} (found : v.present = .ok shown) : shown.IsPlain := by
  obtain ⟨j, plain, rfl⟩ := present_eq_ok_iff.mp found
  exact isPlain_ofJson (isFinite_of_plain plain)

/-- **Plain values stay.** A value is shown as it is, with all its items and members in their order,
exactly if it is plain. Whatever value is shown, showing the result again changes nothing. -/
theorem plain_values_stay (v : Value) :
    (v.present = .ok v ↔ v.IsPlain) ∧
      ∀ shown, v.present = .ok shown → shown.present = .ok shown :=
  ⟨⟨isPlain_of_present, IsPlain.present⟩, fun _ found => (isPlain_of_present found).present⟩

/-- Two keys of one text become one member, which holds a reference to what JSON does not have. -/
theorem shown_reference_stays :
    let v : Value := .map [(.int 1, .double .nan),
      (.str "1", .ref "c" (.tuple [.double (.infinite true), .maxKey]) none [])]
    let shown : Value := .doc [("1", .doc [("$ref", .str "c"),
      ("$id", .arr [tagged "$numberDouble" (.str "-Infinity"), tagged "$maxKey" (.int 1)])])]
    v.present = .ok shown ∧ shown.present = .ok shown := by
  intro v shown
  have found : v.present = .ok shown := by rfl
  exact ⟨found, (plain_values_stay v).2 shown found⟩

end QueryDesk.Value
