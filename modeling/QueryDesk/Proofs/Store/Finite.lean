import QueryDesk.Proofs.Json.Writable
import QueryDesk.Store.Plain

/-!
# Plain values are finite

Whatever has a plain form has one in which every number is finite (`isFinite_of_plain`). Doubles of
the store that are not finite become objects with a name, at any depth, also in the types that only
extended JSON has a form for (`writesFinite_of_extended`). A decoded value is written for every
reader exactly if its numbers are finite and none of its whole numbers is too long
(`verbatim_ofJson_eq_ok_iff`).
-/

namespace QueryDesk

/-- A sequence of steps succeeds if each of them does. -/
theorem exists_of_bind_eq_ok {ε α β : Type} {x : Except ε α} {f : α → Except ε β} {b : β}
    (found : x >>= f = .ok b) : ∃ a, x = .ok a ∧ f a = .ok b := by
  cases x with
  | error e => cases found
  | ok a => exact ⟨a, rfl, found⟩

theorem bind_eq_ok_iff {ε α β : Type} {x : Except ε α} {f : α → Except ε β} {b : β} :
    x >>= f = .ok b ↔ ∃ a, x = .ok a ∧ f a = .ok b := by
  refine ⟨exists_of_bind_eq_ok, ?_⟩
  rintro ⟨a, rfl, found⟩
  exact found

/-- Another way to tell a failure does not make a success. -/
theorem mapError_eq_ok_iff {ε ε' α : Type} {x : Except ε α} {f : ε → ε'} {a : α} :
    x.mapError f = .ok a ↔ x = .ok a := by
  cases x with
  | error e => constructor <;> nofun
  | ok a' =>
    constructor
    · rintro ⟨⟩
      rfl
    · rintro ⟨⟩
      rfl

/-- A sequence of steps fails at its first step or later. -/
theorem error_or_of_bind_eq_error {ε α β : Type} {x : Except ε α} {f : α → Except ε β} {e : ε}
    (found : x >>= f = .error e) : x = .error e ∨ ∃ a, x = .ok a ∧ f a = .error e := by
  cases x with
  | error e' =>
    cases found
    exact .inl rfl
  | ok a => exact .inr ⟨a, rfl, found⟩

namespace Value

/-! ## Values with a text -/

/-- The value is written, with finite numbers. `numbers` says whether others would be refused. -/
def HasText (numbers : Json.NonFinite) (v : Value) : Prop :=
  ∃ j, v.verbatim numbers = .ok j ∧ j.IsWritable

section

variable {numbers : Json.NonFinite}

theorem hasText_str (s : Text) : (str s).HasText numbers :=
  ⟨.str s, rfl, rfl, rfl⟩

theorem hasText_doc {members : List (Text × Value)}
    (each : ∀ pair ∈ members, pair.2.HasText numbers) : (doc members).HasText numbers := by
  have listed : ∃ js, verbatimMembers numbers members = .ok js ∧
      ∀ pair ∈ js, pair.2.IsWritable := by
    induction members with
    | nil => exact ⟨[], rfl, List.forall_mem_nil _⟩
    | cons pair rest ih =>
      obtain ⟨name, value⟩ := pair
      rw [List.forall_mem_cons] at each
      obtain ⟨j, written, writable⟩ := each.1
      obtain ⟨js, others, writable'⟩ := ih each.2
      refine ⟨(name, j) :: js, ?_, List.forall_mem_cons.mpr ⟨writable, writable'⟩⟩
      rw [verbatimMembers, written, others]
      rfl
  obtain ⟨js, written, writable⟩ := listed
  refine ⟨.obj js, ?_, Json.isHereditary_isWritable.obj.mpr writable⟩
  rw [verbatim, written]
  rfl

end

/-! ## Extended JSON -/

/-- Whatever is written of a value, its numbers are finite. -/
def WritesFinite (v : Value) : Prop :=
  ∀ j, v.verbatim .accepted = .ok j → j.isFinite = true

theorem HasText.writesFinite {v : Value} (text : v.HasText .accepted) : v.WritesFinite := by
  intro j written
  obtain ⟨j', written', writable⟩ := text
  rw [written] at written'
  cases written'
  exact writable.finite

theorem writesFinite_int (n : Int) : (int n).WritesFinite := by
  intro j written
  rw [verbatim] at written
  obtain ⟨m, -, written⟩ := exists_of_bind_eq_ok written
  cases written
  rfl

theorem writesFinite_arr {items : List Value} (each : ∀ item ∈ items, item.WritesFinite) :
    (arr items).WritesFinite := by
  have listed : ∀ js, verbatimItems .accepted items = .ok js → Json.allFinite js = true := by
    induction items with
    | nil =>
      rintro _ ⟨rfl⟩
      rfl
    | cons item rest ih =>
      intro js written
      rw [List.forall_mem_cons] at each
      rw [verbatimItems] at written
      obtain ⟨j, first, written⟩ := exists_of_bind_eq_ok written
      obtain ⟨more, others, written⟩ := exists_of_bind_eq_ok written
      cases written
      rw [Json.allFinite, Bool.and_eq_true]
      exact ⟨each.1 j first, ih each.2 more others⟩
  intro j written
  rw [verbatim] at written
  obtain ⟨js, others, written⟩ := exists_of_bind_eq_ok written
  cases written
  exact listed js others

theorem writesFinite_doc {members : List (Text × Value)}
    (each : ∀ pair ∈ members, pair.2.WritesFinite) : (doc members).WritesFinite := by
  have listed : ∀ js, verbatimMembers .accepted members = .ok js →
      Json.membersFinite js = true := by
    induction members with
    | nil =>
      rintro _ ⟨rfl⟩
      rfl
    | cons pair rest ih =>
      obtain ⟨name, value⟩ := pair
      intro js written
      rw [List.forall_mem_cons] at each
      rw [verbatimMembers] at written
      obtain ⟨j, first, written⟩ := exists_of_bind_eq_ok written
      obtain ⟨more, others, written⟩ := exists_of_bind_eq_ok written
      cases written
      rw [Json.membersFinite, Bool.and_eq_true]
      exact ⟨each.1 j first, ih each.2 more others⟩
  intro j written
  rw [verbatim] at written
  obtain ⟨js, others, written⟩ := exists_of_bind_eq_ok written
  cases written
  exact listed js others

theorem writesFinite_map {entries : List (Value × Value)}
    (each : ∀ entry ∈ entries, entry.2.WritesFinite) : (map entries).WritesFinite := by
  have listed : ∀ js, verbatimEntries .accepted entries = .ok js →
      Json.membersFinite js = true := by
    induction entries with
    | nil =>
      rintro _ ⟨rfl⟩
      rfl
    | cons entry rest ih =>
      obtain ⟨key, value⟩ := entry
      intro js written
      rw [List.forall_mem_cons] at each
      rw [verbatimEntries] at written
      -- a key becomes a name, which holds no number
      obtain ⟨name, -, written⟩ := exists_of_bind_eq_ok written
      obtain ⟨j, first, written⟩ := exists_of_bind_eq_ok written
      obtain ⟨more, others, written⟩ := exists_of_bind_eq_ok written
      cases written
      rw [Json.membersFinite, Bool.and_eq_true]
      exact ⟨each.1 j first, ih each.2 more others⟩
  intro j written
  rw [verbatim] at written
  obtain ⟨js, others, written⟩ := exists_of_bind_eq_ok written
  cases written
  exact listed js others

theorem hasText_tagged (name : Text) {value : Value} (text : value.HasText .accepted) :
    (tagged name value).HasText .accepted :=
  hasText_doc (List.forall_mem_singleton.mpr text)

theorem hasText_extendedDouble (x : Double) :
    (extendedDouble x).HasText .accepted := by
  cases x with
  | finite x => exact ⟨.double (.finite x), rfl, rfl, rfl⟩
  | nan => exact hasText_tagged _ (hasText_str _)
  | infinite negative => cases negative <;> exact hasText_tagged _ (hasText_str _)

theorem hasText_extendedMilliseconds (n : Int) :
    (extendedMilliseconds n).HasText .accepted :=
  hasText_tagged _ (hasText_tagged _ (hasText_str _))

theorem hasText_of_extendedDateTime {t : DateTime} {w : Value}
    (found : extendedDateTime t = .ok w) : w.HasText .accepted := by
  rw [extendedDateTime] at found
  split at found
  · cases found
    exact hasText_tagged _ (hasText_str _)
  · split at found
    · cases found
    · cases found
      exact hasText_extendedMilliseconds _

theorem hasText_extendedInstant (n : Int64) :
    (extendedInstant n).HasText .accepted := by
  rw [extendedInstant]
  split
  · exact hasText_tagged _ (hasText_str _)
  · exact hasText_extendedMilliseconds n.toInt

/-- Named results in their order are the values of these results. -/
theorem exists_of_mem_inOrder {results : List (Text × Except Unwritable Value)}
    {members : List (Text × Value)} (found : inOrder results = .ok members) :
    ∀ pair ∈ members, ∃ result ∈ results, result.2 = .ok pair.2 := by
  induction results generalizing members with
  | nil =>
    cases found
    exact List.forall_mem_nil _
  | cons first rest ih =>
    obtain ⟨name, result⟩ := first
    rw [inOrder] at found
    obtain ⟨w, first, found⟩ := exists_of_bind_eq_ok found
    obtain ⟨more, others, found⟩ := exists_of_bind_eq_ok found
    cases found
    rw [List.forall_mem_cons]
    refine ⟨⟨(name, result), List.mem_cons_self, first⟩, fun pair member => ?_⟩
    obtain ⟨written, later, same⟩ := ih others pair member
    exact ⟨written, List.mem_cons_of_mem _ later, same⟩

/-- What a step gives, if it succeeds, is written with finite numbers. -/
def GivesFinite (result : Except Unwritable Value) : Prop :=
  ∀ w, result = .ok w → w.WritesFinite

theorem writesFinite_of_inOrder {results : List (Text × Except Unwritable Value)}
    {members : List (Text × Value)} (found : inOrder results = .ok members)
    (each : ∀ result ∈ results, GivesFinite result.2) :
    (doc members).WritesFinite := by
  refine writesFinite_doc fun pair member => ?_
  obtain ⟨result, among, same⟩ := exists_of_mem_inOrder found pair member
  exact each result among pair.2 same

/-- What the members of a reference are made of. -/
theorem forall_mem_referenceMembers {α : Type} {text : Text → α} {id : α}
    {more : List (Text × α)} {P : α → Prop} (collection : Text) (database : Option Text)
    (texts : ∀ s, P (text s))
    (identified : P id) (further : ∀ pair ∈ more, P pair.2) :
    ∀ pair ∈ referenceMembers text collection id database more, P pair.2 := by
  refine Json.forall_mem_ofPairs ?_
  simp only [List.forall_mem_append, List.forall_mem_cons]
  refine ⟨⟨⟨texts _, identified, List.forall_mem_nil _⟩, ?_⟩, further⟩
  cases database with
  | none => exact List.forall_mem_nil _
  | some name => exact List.forall_mem_singleton.mpr (texts name)

theorem writesFinite_of_sequence {items : List Value} {w : Value}
    (each : ∀ {items'}, extendedItems items = .ok items' → ∀ item ∈ items', item.WritesFinite)
    (found : (do return arr (← extendedItems items)) = Except.ok w) : w.WritesFinite := by
  obtain ⟨items', found', found⟩ := exists_of_bind_eq_ok found
  cases found
  exact writesFinite_arr (each found')

mutual

/-- What extended JSON puts in place of a value is written with finite numbers. -/
theorem writesFinite_of_extended {v w : Value} (found : v.extended = .ok w) : w.WritesFinite := by
  cases v with
  | double x =>
    cases found
    exact (hasText_extendedDouble x).writesFinite
  | scopedCode text scope =>
    rw [extended] at found
    obtain ⟨inner, found', found⟩ := exists_of_bind_eq_ok found
    cases found
    refine writesFinite_doc ?_
    simp only [List.forall_mem_cons]
    exact ⟨(hasText_str _).writesFinite, writesFinite_of_extended found',
      List.forall_mem_nil _⟩
  | ref collection id database more =>
    rw [extended] at found
    obtain ⟨inner, found', found⟩ := exists_of_bind_eq_ok found
    cases found
    refine writesFinite_of_inOrder found'
      (forall_mem_referenceMembers (P := GivesFinite) _ _ ?_ ?_ ?_)
    · rintro s _ ⟨rfl⟩
      exact (hasText_str s).writesFinite
    · exact fun _ found' => writesFinite_of_extended found'
    · exact writesFinite_of_extendedMembers more
  | byteArray data =>
    cases found
    refine writesFinite_arr ?_
    intro item member
    obtain ⟨b, -, rfl⟩ := List.mem_map.mp member
    exact writesFinite_int _
  | dateTime t => exact (hasText_of_extendedDateTime found).writesFinite
  | instant n =>
    cases found
    exact (hasText_extendedInstant n).writesFinite
  | arr items =>
    exact writesFinite_of_sequence (fun found' => writesFinite_of_extendedItems found') found
  | tuple items =>
    exact writesFinite_of_sequence (fun found' => writesFinite_of_extendedItems found') found
  | set items =>
    exact writesFinite_of_sequence (fun found' => writesFinite_of_extendedItems found') found
  | frozenSet items =>
    exact writesFinite_of_sequence (fun found' => writesFinite_of_extendedItems found') found
  | doc members =>
    rw [extended] at found
    obtain ⟨inner, found', found⟩ := exists_of_bind_eq_ok found
    cases found
    exact writesFinite_of_inOrder found' (writesFinite_of_extendedMembers members)
  | map entries =>
    rw [extended] at found
    obtain ⟨inner, found', found⟩ := exists_of_bind_eq_ok found
    cases found
    exact writesFinite_map (writesFinite_of_extendedEntries found')
  | int n =>
    cases found
    exact writesFinite_int n
  | timestamp t i =>
    cases found
    refine writesFinite_doc (List.forall_mem_singleton.mpr (writesFinite_doc ?_))
    simp only [List.forall_mem_cons]
    exact ⟨writesFinite_int _, writesFinite_int _, List.forall_mem_nil _⟩
  | minKey | maxKey =>
    cases found
    exact writesFinite_doc (List.forall_mem_singleton.mpr (writesFinite_int 1))
  | uuid data => cases found
  | _ =>
    -- the other forms are made of strings, or refused when they are written
    cases found
    intro j written
    cases written
    try rfl
termination_by structural v

theorem writesFinite_of_extendedItems {items items' : List Value}
    (found : extendedItems items = .ok items') : ∀ item ∈ items', item.WritesFinite := by
  cases items with
  | nil =>
    cases found
    exact List.forall_mem_nil _
  | cons item rest =>
    rw [extendedItems] at found
    obtain ⟨w, first, found⟩ := exists_of_bind_eq_ok found
    obtain ⟨more, others, found⟩ := exists_of_bind_eq_ok found
    cases found
    rw [List.forall_mem_cons]
    exact ⟨writesFinite_of_extended first, writesFinite_of_extendedItems others⟩
termination_by structural items

theorem writesFinite_of_extendedMembers (members : List (Text × Value)) :
    ∀ result ∈ extendedMembers members, GivesFinite result.2 := by
  cases members with
  | nil => exact List.forall_mem_nil _
  | cons pair rest =>
    obtain ⟨name, value⟩ := pair
    rw [extendedMembers, List.forall_mem_cons]
    exact ⟨fun _ found => writesFinite_of_extended found, writesFinite_of_extendedMembers rest⟩
termination_by structural members

theorem writesFinite_of_extendedEntries {entries entries' : List (Value × Value)}
    (found : extendedEntries entries = .ok entries') :
    ∀ entry ∈ entries', entry.2.WritesFinite := by
  cases entries with
  | nil =>
    cases found
    exact List.forall_mem_nil _
  | cons entry rest =>
    obtain ⟨key, value⟩ := entry
    rw [extendedEntries] at found
    obtain ⟨w, first, found⟩ := exists_of_bind_eq_ok found
    obtain ⟨more, others, found⟩ := exists_of_bind_eq_ok found
    cases found
    rw [List.forall_mem_cons]
    exact ⟨writesFinite_of_extended first, writesFinite_of_extendedEntries others⟩
termination_by structural entries

end

theorem isFinite_of_extendedJson {v : Value} {j : Json} (found : v.extendedJson = .ok j) :
    j.isFinite = true := by
  rw [extendedJson] at found
  obtain ⟨w, replaced, found⟩ := exists_of_bind_eq_ok found
  obtain ⟨written, verbatim, found⟩ := exists_of_bind_eq_ok found
  cases found
  exact Json.isHereditary_isFinite.withDistinctNames
    (writesFinite_of_extended replaced _ verbatim)

/-! ## Plain values -/

/-- A plain double is finite or a name. -/
theorem isFinite_plainDouble (x : Double) : (plainDouble x).isFinite = true := by
  cases x with
  | finite x => rfl
  | nan => rfl
  | infinite negative => cases negative <;> rfl

/-- A sequence in plain form has finite numbers if its items have. -/
theorem isFinite_of_plainSequence {items : List Value} {j : Json}
    (each : ∀ {js}, plainItems items = .ok js → Json.allFinite js = true)
    (found : (do return .arr (← plainItems items)) = Except.ok j) : j.isFinite = true := by
  obtain ⟨js, found', found⟩ := exists_of_bind_eq_ok found
  cases found
  exact each found'

mutual

/-- The plain form of a stored value has finite numbers. -/
theorem isFinite_of_plain {v : Value} {j : Json} (found : v.plain = .ok j) :
    j.isFinite = true := by
  cases v with
  | double x =>
    cases found
    exact isFinite_plainDouble x
  | doc members =>
    rw [plain] at found
    obtain ⟨js, found', found⟩ := exists_of_bind_eq_ok found
    cases found
    exact membersFinite_of_plainMembers found'
  | map entries =>
    rw [plain] at found
    obtain ⟨js, found', found⟩ := exists_of_bind_eq_ok found
    cases found
    have each := Json.membersFinite_iff.mp (membersFinite_of_plainEntries found')
    exact Json.membersFinite_iff.mpr
      (Json.forall_mem_ofPairs (P := fun value : Json => value.isFinite = true) each)
  | arr items =>
    rw [plain] at found
    exact isFinite_of_plainSequence (fun found' => allFinite_of_plainItems found') found
  | tuple items =>
    rw [plain] at found
    exact isFinite_of_plainSequence (fun found' => allFinite_of_plainItems found') found
  | set items =>
    rw [plain] at found
    exact isFinite_of_plainSequence (fun found' => allFinite_of_plainItems found') found
  | time | instant | decimal | byteArray | uuid | frozenSet | timestamp | regex | pattern | minKey
  | maxKey | ref => exact isFinite_of_extendedJson found
  | _ =>
    cases found
    rfl
termination_by structural v

theorem allFinite_of_plainItems {items : List Value} {js : List Json}
    (found : plainItems items = .ok js) : Json.allFinite js = true := by
  cases items with
  | nil =>
    cases found
    rfl
  | cons item rest =>
    rw [plainItems] at found
    obtain ⟨j, first, found⟩ := exists_of_bind_eq_ok found
    obtain ⟨more, others, found⟩ := exists_of_bind_eq_ok found
    cases found
    rw [Json.allFinite, Bool.and_eq_true]
    exact ⟨isFinite_of_plain first, allFinite_of_plainItems others⟩
termination_by structural items

theorem membersFinite_of_plainMembers {members : List (Text × Value)}
    {js : List (Text × Json)} (found : plainMembers members = .ok js) :
    Json.membersFinite js = true := by
  cases members with
  | nil =>
    cases found
    rfl
  | cons pair rest =>
    obtain ⟨name, value⟩ := pair
    rw [plainMembers] at found
    obtain ⟨j, first, found⟩ := exists_of_bind_eq_ok found
    obtain ⟨more, others, found⟩ := exists_of_bind_eq_ok found
    cases found
    rw [Json.membersFinite, Bool.and_eq_true]
    exact ⟨isFinite_of_plain first, membersFinite_of_plainMembers others⟩
termination_by structural members

theorem membersFinite_of_plainEntries {entries : List (Value × Value)}
    {js : List (Text × Json)} (found : plainEntries entries = .ok js) :
    Json.membersFinite js = true := by
  cases entries with
  | nil =>
    cases found
    rfl
  | cons entry rest =>
    obtain ⟨key, value⟩ := entry
    rw [plainEntries] at found
    -- a key becomes a name, which holds no number
    obtain ⟨name, -, found⟩ := exists_of_bind_eq_ok found
    obtain ⟨j, first, found⟩ := exists_of_bind_eq_ok found
    obtain ⟨more, others, found⟩ := exists_of_bind_eq_ok found
    cases found
    rw [Json.membersFinite, Bool.and_eq_true]
    exact ⟨isFinite_of_plain first, membersFinite_of_plainEntries others⟩
termination_by structural entries

end

/-! ## Writing -/

mutual

/-- A decoded value is written for every reader exactly if it can be, and then as it is. -/
theorem verbatim_ofJson_eq_ok_iff {j w : Json} :
    (ofJson j).verbatim .refused = .ok w ↔ j.IsWritable ∧ j = w := by
  cases j with
  | int n =>
    rw [ofJson, verbatim, verbatimInt, Json.isWritable_iff, Json.hasFewDigits, Json.every]
    by_cases short : isShort n = true
    · simp [short, Json.isFinite, bind, Except.bind, pure, Except.pure]
    · simp [short, bind, Except.bind]
  | double x =>
    rw [ofJson, verbatim, verbatimDouble, Json.isWritable_iff, Json.isFinite]
    by_cases finite : x.isFinite = true
    · simp [finite, Json.hasFewDigits, Json.every, bind, Except.bind, pure, Except.pure]
    · simp [finite, bind, Except.bind]
  | arr items =>
    rw [ofJson, verbatim, bind_eq_ok_iff, Json.isHereditary_isWritable.arr]
    simp only [verbatimItems_ofItems_eq_ok_iff]
    constructor
    · rintro ⟨_, ⟨writable, rfl⟩, ⟨rfl⟩⟩
      exact ⟨writable, rfl⟩
    · rintro ⟨writable, rfl⟩
      exact ⟨items, ⟨writable, rfl⟩, rfl⟩
  | obj members =>
    rw [ofJson, verbatim, bind_eq_ok_iff, Json.isHereditary_isWritable.obj]
    simp only [verbatimMembers_ofMembers_eq_ok_iff]
    constructor
    · rintro ⟨_, ⟨writable, rfl⟩, ⟨rfl⟩⟩
      exact ⟨writable, rfl⟩
    · rintro ⟨writable, rfl⟩
      exact ⟨members, ⟨writable, rfl⟩, rfl⟩
  | _ =>
    simp [ofJson, verbatim, Json.isWritable_iff, Json.isFinite, Json.hasFewDigits, Json.every]

theorem verbatimItems_ofItems_eq_ok_iff {items ws : List Json} :
    verbatimItems .refused (ofItems items) = .ok ws ↔
      (∀ item ∈ items, item.IsWritable) ∧ items = ws := by
  cases items with
  | nil => simp [ofItems, verbatimItems]
  | cons item rest =>
    rw [ofItems, verbatimItems]
    simp only [bind_eq_ok_iff, verbatim_ofJson_eq_ok_iff, verbatimItems_ofItems_eq_ok_iff,
      List.forall_mem_cons]
    constructor
    · rintro ⟨_, ⟨first, rfl⟩, _, ⟨others, rfl⟩, ⟨rfl⟩⟩
      exact ⟨⟨first, others⟩, rfl⟩
    · rintro ⟨⟨first, others⟩, rfl⟩
      exact ⟨item, ⟨first, rfl⟩, rest, ⟨others, rfl⟩, rfl⟩

theorem verbatimMembers_ofMembers_eq_ok_iff {members ws : List (Text × Json)} :
    verbatimMembers .refused (ofMembers members) = .ok ws ↔
      (∀ pair ∈ members, pair.2.IsWritable) ∧ members = ws := by
  cases members with
  | nil => simp [ofMembers, verbatimMembers]
  | cons pair rest =>
    obtain ⟨name, value⟩ := pair
    rw [ofMembers, verbatimMembers]
    simp only [bind_eq_ok_iff, verbatim_ofJson_eq_ok_iff, verbatimMembers_ofMembers_eq_ok_iff,
      List.forall_mem_cons]
    constructor
    · rintro ⟨_, ⟨first, rfl⟩, _, ⟨others, rfl⟩, ⟨rfl⟩⟩
      exact ⟨⟨first, others⟩, rfl⟩
    · rintro ⟨⟨first, others⟩, rfl⟩
      exact ⟨value, ⟨first, rfl⟩, rest, ⟨others, rfl⟩, rfl⟩

end

end Value

end QueryDesk
