import QueryDesk.Json.Printer

/-!
# Values that can be written and sent

A value can be written for every reader if its numbers are finite and none of its whole numbers has
too many digits (`Json.IsWritable`). Like every property that an array or an object has exactly if
all values in it have it, this one is kept when repeated names are joined
(`Json.IsHereditary.withDistinctNames`).

Whether the text can be sent depends on the strings and names alone: nothing else in it could be
anything but characters (`Json.all_isCharacter_write`).
-/

namespace QueryDesk.Json

/-! ## Repeated names -/

/-- A table that pairs leave holds nothing but values of the pairs. -/
theorem mem_put {α : Type} {members : Members α} {key : Text} {value : α} {pair : Text × α}
    (member : pair ∈ members.put key value) : pair ∈ members ∨ pair.2 = value := by
  induction members with
  | nil =>
    rw [List.mem_singleton.mp member]
    exact .inr rfl
  | cons head rest ih =>
    obtain ⟨name, old⟩ := head
    rw [Members.put] at member
    split at member
    · rcases List.mem_cons.mp member with rfl | inRest
      · exact .inr rfl
      · exact .inl (List.mem_cons_of_mem _ inRest)
    · rcases List.mem_cons.mp member with rfl | inRest
      · exact .inl (List.mem_cons_self ..)
      · rcases ih inRest with inRest | set
        · exact .inl (List.mem_cons_of_mem _ inRest)
        · exact .inr set

/-- Joining repeated names adds no values. -/
theorem exists_of_mem_ofPairs {α : Type} {pairs : List (Text × α)} {pair : Text × α}
    (member : pair ∈ Members.ofPairs pairs) : ∃ written ∈ pairs, written.2 = pair.2 := by
  -- for any members that were set before
  have fold : ∀ (pairs : List (Text × α)) (members : Members α),
      pair ∈ pairs.foldl (fun members pair => Members.put members pair.1 pair.2) members →
      pair ∈ members ∨ ∃ written ∈ pairs, written.2 = pair.2 := by
    intro pairs
    induction pairs with
    | nil => exact fun _ old => .inl old
    | cons first rest ih =>
      intro members member
      rcases ih _ member with before | ⟨written, later, same⟩
      · rcases mem_put before with old | set
        · exact .inl old
        · exact .inr ⟨first, List.mem_cons_self, set.symm⟩
      · exact .inr ⟨written, List.mem_cons_of_mem _ later, same⟩
  rcases fold pairs [] member with impossible | written
  · cases impossible
  · exact written

theorem forall_mem_ofPairs {α : Type} {pairs : List (Text × α)} {P : α → Prop}
    (each : ∀ pair ∈ pairs, P pair.2) : ∀ pair ∈ Members.ofPairs pairs, P pair.2 := by
  intro pair member
  obtain ⟨written, before, same⟩ := exists_of_mem_ofPairs member
  rw [← same]
  exact each written before

/-- A property that an array or an object has exactly if all values in it have it. -/
structure IsHereditary (P : Json → Prop) : Prop where
  arr {items : List Json} : P (arr items) ↔ ∀ item ∈ items, P item
  obj {members : List (Text × Json)} : P (obj members) ↔ ∀ pair ∈ members, P pair.2

theorem isHereditary_isFinite : IsHereditary fun value => value.isFinite = true where
  arr := allFinite_iff
  obj := membersFinite_iff

/-- A value with a text that every reader takes: its numbers are finite, and none of its whole
numbers has too many digits. -/
structure IsWritable (value : Json) : Prop where
  finite : value.isFinite = true
  short : value.hasFewDigits = true

theorem isWritable_iff {value : Json} :
    value.IsWritable ↔ value.isFinite = true ∧ value.hasFewDigits = true :=
  ⟨fun writable => ⟨writable.finite, writable.short⟩, fun ⟨finite, short⟩ => ⟨finite, short⟩⟩

theorem isHereditary_isWritable : IsHereditary IsWritable where
  arr := by
    intro items
    have short : (arr items).hasFewDigits = true ↔ ∀ item ∈ items, item.hasFewDigits = true :=
      everyItem_iff
    rw [isWritable_iff, short, isHereditary_isFinite.arr]
    simp only [isWritable_iff, ← forall_and]
  obj := by
    intro members
    have short : (obj members).hasFewDigits = true ↔
        ∀ pair ∈ members, pair.2.hasFewDigits = true := by
      simp [hasFewDigits, every, everyMember_iff]
    rw [isWritable_iff, short, isHereditary_isFinite.obj]
    simp only [isWritable_iff, ← forall_and]

mutual

/-- Joining repeated names keeps a hereditary property. -/
theorem IsHereditary.withDistinctNames {P : Json → Prop} (hereditary : IsHereditary P)
    {value : Json} (held : P value) : P value.withDistinctNames := by
  cases value with
  | arr items => exact hereditary.arr.mpr (hereditary.distinctItems (hereditary.arr.mp held))
  | obj members =>
    exact hereditary.obj.mpr
      (forall_mem_ofPairs (hereditary.distinctMembers (hereditary.obj.mp held)))
  | _ => exact held
termination_by structural value

theorem IsHereditary.distinctItems {P : Json → Prop} (hereditary : IsHereditary P)
    {items : List Json} (held : ∀ item ∈ items, P item) :
    ∀ item ∈ Json.distinctItems items, P item := by
  cases items with
  | nil => exact List.forall_mem_nil _
  | cons item rest =>
    rw [List.forall_mem_cons] at held
    rw [Json.distinctItems, List.forall_mem_cons]
    exact ⟨hereditary.withDistinctNames held.1, hereditary.distinctItems held.2⟩
termination_by structural items

theorem IsHereditary.distinctMembers {P : Json → Prop} (hereditary : IsHereditary P)
    {members : List (Text × Json)} (held : ∀ pair ∈ members, P pair.2) :
    ∀ pair ∈ Json.distinctMembers members, P pair.2 := by
  cases members with
  | nil => exact List.forall_mem_nil _
  | cons pair rest =>
    obtain ⟨name, value⟩ := pair
    rw [List.forall_mem_cons] at held
    rw [Json.distinctMembers, List.forall_mem_cons]
    exact ⟨hereditary.withDistinctNames held.1, hereditary.distinctMembers held.2⟩
termination_by structural members

end

/-! ## Characters -/

section Characters

variable {s : List Letter}

theorem all_isCharacter_map_char (s : List Char) :
    (s.map Letter.char).all Letter.isCharacter = true := by
  rw [List.all_map]
  exact List.all_eq_true.mpr fun _ _ => rfl

theorem all_isCharacter_decimalDigits (n : Nat) :
    (decimalDigits n).all Letter.isCharacter = true :=
  all_isCharacter_map_char _

theorem all_isCharacter_of_subset {t : List Letter} (part : s ⊆ t)
    (all : t.all Letter.isCharacter = true) : s.all Letter.isCharacter = true :=
  List.all_eq_true.mpr fun c member => List.all_eq_true.mp all c (part member)

theorem all_isCharacter_writeInt (n : Int) : (writeInt n).all Letter.isCharacter = true := by
  rw [writeInt]
  split
  · exact Bool.and_eq_true_iff.mpr ⟨rfl, all_isCharacter_decimalDigits _⟩
  · exact all_isCharacter_decimalDigits _

theorem all_isCharacter_significantDigits (n : Nat) :
    (DoubleLayout.significantDigits n).all Letter.isCharacter = true := by
  refine all_isCharacter_of_subset ?_ (all_isCharacter_decimalDigits n)
  intro c member
  have kept := (List.dropWhile_sublist _).subset (List.mem_reverse.mp member)
  exact List.mem_reverse.mp kept

theorem all_isCharacter_exponentPart (layout : DoubleLayout) (exponent : Int) :
    (layout.exponentPart exponent).all Letter.isCharacter = true := by
  rw [DoubleLayout.exponentPart, DoubleLayout.padded]
  split
  all_goals simp [all_isCharacter_decimalDigits]

theorem all_isCharacter_magnitude (layout : DoubleLayout)
    (digits : s.all Letter.isCharacter = true) (exponent : Int) :
    (layout.magnitude s exponent).all Letter.isCharacter = true := by
  have taken : ∀ n, (s.take n).all Letter.isCharacter = true := fun n =>
    all_isCharacter_of_subset (List.take_subset n s) digits
  have dropped : ∀ n, (s.drop n).all Letter.isCharacter = true := fun n =>
    all_isCharacter_of_subset (List.drop_subset n s) digits
  have power := all_isCharacter_exponentPart layout exponent
  unfold DoubleLayout.magnitude
  simp only []
  split
  · split
    all_goals simp only [List.all_append, List.all_cons, List.all_nil, taken, dropped, power,
      Letter.isCharacter_char, Bool.and_self]
  · split
    · simp [digits]
    · split
      all_goals simp [taken, dropped]

theorem all_isCharacter_write_double (x : Double) :
    (DoubleLayout.json.write x).all Letter.isCharacter = true := by
  have sign : ∀ b : Bool, (if b then [Letter.char '-'] else []).all Letter.isCharacter = true := by
    decide
  cases x with
  | nan => decide
  | infinite negative => cases negative <;> decide
  | finite x =>
    rw [DoubleLayout.write, List.all_append, sign, Bool.true_and]
    split
    · rfl
    · -- which decimal it is does not matter
      generalize x.shortest = decimal
      obtain ⟨n, exponent⟩ := decimal
      exact all_isCharacter_magnitude .json (all_isCharacter_significantDigits n) _

/-- What is written for a letter is made of characters exactly if the letter is one. -/
theorem all_isCharacter_plainCharacter (c : Letter) :
    (plainCharacter c).all Letter.isCharacter = c.isCharacter := by
  rw [plainCharacter]
  cases escape : letterEscape? c with
  | some text =>
    unfold letterEscape? at escape
    split at escape
    all_goals cases escape
    all_goals rfl
  | none =>
    simp only []
    split
    case isTrue control =>
      have characters : ∀ n < 0x20, (numericEscape n).all Letter.isCharacter = true := by decide
      rw [characters _ control]
      cases c with
      | char c => rfl
      | half n =>
        rw [Letter.toNat] at control
        omega
    case isFalse => rw [List.all_cons, List.all_nil, Bool.and_true]

theorem all_isCharacter_writeString (s : Text) :
    (writeString .wire s).all Letter.isCharacter = s.isEncodable := by
  have each : ∀ t : List Letter,
      (t.flatMap plainCharacter).all Letter.isCharacter = t.all Letter.isCharacter := by
    intro t
    induction t with
    | nil => rfl
    | cons c t ih =>
      rw [List.flatMap_cons, List.all_append, all_isCharacter_plainCharacter, ih, List.all_cons]
  simp [writeString, each, Text.isEncodable]

end Characters

mutual

/-- The text of a value is made of characters exactly if its strings and names are. -/
theorem all_isCharacter_write (value : Json) :
    (write .wire value).all Letter.isCharacter = value.isEncodable := by
  cases value with
  | null => rfl
  | bool b => cases b <;> rfl
  | int n => exact all_isCharacter_writeInt n
  | double x => exact all_isCharacter_write_double x
  | str s => exact all_isCharacter_writeString s
  | arr items =>
    cases items with
    | nil => rfl
    | cons item rest =>
      have first := all_isCharacter_write item
      have others := all_isCharacter_writeItems rest
      rw [isEncodable] at first ⊢
      simp [write, every, everyItem, first, others]
  | obj members =>
    cases members with
    | nil => rfl
    | cons pair rest =>
      obtain ⟨name, value⟩ := pair
      have first := all_isCharacter_write value
      have others := all_isCharacter_writeMembers rest
      rw [isEncodable] at first ⊢
      simp [write, every, everyMember, all_isCharacter_writeString, first, others, Bool.and_assoc]
termination_by structural value

theorem all_isCharacter_writeItems (items : List Json) :
    (writeItems .wire items).all Letter.isCharacter =
      everyItem (fun _ => true) Text.isEncodable items := by
  cases items with
  | nil => rfl
  | cons item rest =>
    have first := all_isCharacter_write item
    have others := all_isCharacter_writeItems rest
    rw [isEncodable] at first
    simp [writeItems, everyItem, first, others]
termination_by structural items

theorem all_isCharacter_writeMembers (members : List (Text × Json)) :
    (writeMembers .wire members).all Letter.isCharacter =
      everyMember (fun _ => true) Text.isEncodable members := by
  cases members with
  | nil => rfl
  | cons pair rest =>
    obtain ⟨name, value⟩ := pair
    have first := all_isCharacter_write value
    have others := all_isCharacter_writeMembers rest
    rw [isEncodable] at first
    simp [writeMembers, everyMember, all_isCharacter_writeString, first, others, Bool.and_assoc]
termination_by structural members

end

end QueryDesk.Json
