import QueryDesk.Desk.Failure
import QueryDesk.Proofs.Store.Finite
import QueryDesk.Store.Basic

/-!
# Replies that can be told

What a reply is shown as is JSON with finite numbers (`Reply.isFinite_of_present`), provided that
the counts in it are whole numbers, as a server sends them: all other values in it are plain. Where
a reply cannot be shown, or a request is not carried out, the fault concerns the command
(`Reply.isReported_of_present`, `Store.isReported_of_perform`), unless the store was told to raise
another one. What was decoded can always be shown (`Value.exists_present_ofJson`).
-/

namespace QueryDesk

/-- A value that cannot be written is a fault that concerns the command. -/
theorem Unwritable.isReported_fault (reason : Unwritable) : reason.fault.isReported = true := by
  cases reason <;> rfl

/-! ## Finite values -/

/-- A value that is JSON, and in which every number is finite. -/
def Value.IsFinite (v : Value) : Prop :=
  ∃ j : Json, ofJson j = v ∧ j.isFinite = true

namespace Value

theorem isFinite_ofJson {j : Json} (finite : j.isFinite = true) : (ofJson j).IsFinite :=
  ⟨j, rfl, finite⟩

theorem isFinite_str (s : Text) : (str s).IsFinite :=
  ⟨.str s, rfl, rfl⟩

theorem isFinite_bool (b : Bool) : (bool b).IsFinite :=
  ⟨.bool b, rfl, rfl⟩

theorem isFinite_int (n : Int) : (int n).IsFinite :=
  ⟨.int n, rfl, rfl⟩

theorem isFinite_null : null.IsFinite :=
  ⟨.null, rfl, rfl⟩

theorem isFinite_doc {members : List (Text × Value)}
    (each : ∀ pair ∈ members, pair.2.IsFinite) : (doc members).IsFinite := by
  have listed : ∃ js, ofMembers js = members ∧ Json.membersFinite js = true := by
    induction members with
    | nil => exact ⟨[], rfl, rfl⟩
    | cons pair rest ih =>
      obtain ⟨name, value⟩ := pair
      rw [List.forall_mem_cons] at each
      obtain ⟨⟨j, rfl, finite⟩, others⟩ := each
      obtain ⟨js, rfl, finite'⟩ := ih others
      refine ⟨(name, j) :: js, rfl, ?_⟩
      rw [Json.membersFinite, finite, finite']
      rfl
  obtain ⟨js, rfl, finite⟩ := listed
  exact ⟨.obj js, rfl, finite⟩

theorem isFinite_arr {items : List Value} (each : ∀ item ∈ items, item.IsFinite) :
    (arr items).IsFinite := by
  have listed : ∃ js, ofItems js = items ∧ Json.allFinite js = true := by
    induction items with
    | nil => exact ⟨[], rfl, rfl⟩
    | cons item rest ih =>
      rw [List.forall_mem_cons] at each
      obtain ⟨⟨j, rfl, finite⟩, others⟩ := each
      obtain ⟨js, rfl, finite'⟩ := ih others
      refine ⟨j :: js, rfl, ?_⟩
      rw [Json.allFinite, finite, finite']
      rfl
  obtain ⟨js, rfl, finite⟩ := listed
  exact ⟨.arr js, rfl, finite⟩

theorem present_eq_ok_iff {v shown : Value} :
    v.present = .ok shown ↔ ∃ j, v.plain = .ok j ∧ ofJson j = shown := by
  rw [present]
  constructor
  · intro found
    cases plain : v.plain with
    | error reason =>
      rw [plain] at found
      cases found
    | ok j =>
      rw [plain] at found
      cases found
      exact ⟨j, rfl, rfl⟩
  · rintro ⟨j, plain, rfl⟩
    rw [plain]
    rfl

theorem present_eq_error_iff {v : Value} {fault : Fault} :
    v.present = .error fault ↔ ∃ reason, v.plain = .error reason ∧ reason.fault = fault := by
  rw [present]
  constructor
  · intro found
    cases plain : v.plain with
    | error reason =>
      rw [plain] at found
      cases found
      exact ⟨reason, rfl, rfl⟩
    | ok j =>
      rw [plain] at found
      cases found
  · rintro ⟨reason, plain, rfl⟩
    rw [plain]
    rfl

/-- What a value is shown as is finite. -/
theorem isFinite_of_present {v shown : Value} (found : v.present = .ok shown) :
    shown.IsFinite := by
  obtain ⟨j, plain, rfl⟩ := present_eq_ok_iff.mp found
  exact isFinite_ofJson (isFinite_of_plain plain)

/-- A value that cannot be shown is a fault that concerns the command. -/
theorem isReported_of_present {v : Value} {fault : Fault} (found : v.present = .error fault) :
    fault.isReported = true := by
  obtain ⟨reason, -, rfl⟩ := present_eq_error_iff.mp found
  exact reason.isReported_fault

mutual

/-- Every decoded value has a plain form. -/
theorem exists_plain_ofJson (j : Json) : ∃ shown, (ofJson j).plain = .ok shown := by
  cases j with
  | arr items =>
    obtain ⟨shown, plain⟩ := exists_plainItems_ofItems items
    refine ⟨.arr shown, ?_⟩
    rw [ofJson, Value.plain, plain]
    rfl
  | obj members =>
    obtain ⟨shown, plain⟩ := exists_plainMembers_ofMembers members
    refine ⟨.obj shown, ?_⟩
    rw [ofJson, Value.plain, plain]
    rfl
  | _ => exact ⟨_, rfl⟩

theorem exists_plainItems_ofItems (items : List Json) :
    ∃ shown, plainItems (ofItems items) = .ok shown := by
  cases items with
  | nil => exact ⟨[], rfl⟩
  | cons item rest =>
    obtain ⟨first, plain⟩ := exists_plain_ofJson item
    obtain ⟨others, plain'⟩ := exists_plainItems_ofItems rest
    refine ⟨first :: others, ?_⟩
    rw [ofItems, plainItems, plain, plain']
    rfl

theorem exists_plainMembers_ofMembers (members : List (Text × Json)) :
    ∃ shown, plainMembers (ofMembers members) = .ok shown := by
  cases members with
  | nil => exact ⟨[], rfl⟩
  | cons pair rest =>
    obtain ⟨name, value⟩ := pair
    obtain ⟨first, plain⟩ := exists_plain_ofJson value
    obtain ⟨others, plain'⟩ := exists_plainMembers_ofMembers rest
    refine ⟨(name, first) :: others, ?_⟩
    rw [ofMembers, plainMembers, plain, plain']
    rfl

end

/-- Every decoded value can be shown. -/
theorem exists_present_ofJson (j : Json) : ∃ shown, (ofJson j).present = .ok shown := by
  obtain ⟨shown, plain⟩ := exists_plain_ofJson j
  refine ⟨ofJson shown, ?_⟩
  rw [present, plain]
  rfl

end Value

/-! ## Shown replies -/

/-- The counts of a write are whole numbers, or null where there is none. -/
structure WriteReply.HasWholeCounts (w : WriteReply) : Prop where
  selected : w.selected = .null ∨ ∃ n, w.selected = .int n
  modified : w.modified = .null ∨ ∃ n, w.modified = .int n

/-- What a server sends: whole counts, and collections under their names. -/
def Reply.IsOrderly : Reply → Prop
  | .updated write => write.HasWholeCounts
  | .deleted write => write.HasWholeCounts
  | .catalogue entries => ∀ entry ∈ entries, ∃ c : Collection, entry = c.entry
  | _ => True

theorem isFinite_of_count {count : Value} (whole : count = .null ∨ ∃ n, count = .int n) :
    count.IsFinite := by
  rcases whole with rfl | ⟨n, rfl⟩
  · exact Value.isFinite_null
  · exact Value.isFinite_int n

namespace Reply

/-- The entries of a list of collections are shown as finite values. -/
theorem isFinite_of_presentCollections {entries : List Document} {shown : List Value}
    (named : ∀ entry ∈ entries, ∃ c : Collection, entry = c.entry)
    (found : presentCollections entries = .ok shown) : ∀ v ∈ shown, v.IsFinite := by
  induction entries generalizing shown with
  | nil =>
    cases found
    intro v member
    cases member
  | cons entry rest ih =>
    rw [List.forall_mem_cons] at named
    obtain ⟨c, rfl⟩ := named.1
    rw [presentCollections] at found
    obtain ⟨first, shown', found⟩ := exists_of_bind_eq_ok found
    obtain ⟨more, others, found⟩ := exists_of_bind_eq_ok found
    cases found
    rw [presentCollection] at shown'
    obtain ⟨options, plain, shown'⟩ := exists_of_bind_eq_ok shown'
    cases shown'
    rw [List.forall_mem_cons]
    refine ⟨Value.isFinite_doc ?_, ih named.2 others⟩
    simp only [List.forall_mem_cons]
    exact ⟨Value.isFinite_str c.name, Value.isFinite_str "collection",
      Value.isFinite_of_present plain, List.forall_mem_nil _⟩

/-- What an orderly reply is shown as is finite. -/
theorem isFinite_of_present {reply : Reply} {shown : Value} (orderly : reply.IsOrderly)
    (found : reply.present = .ok shown) : shown.IsFinite := by
  cases reply with
  | created name =>
    cases found
    refine Value.isFinite_doc ?_
    simp only [List.forall_mem_cons]
    exact ⟨Value.isFinite_bool true, Value.isFinite_str _, Value.isFinite_str _,
      List.forall_mem_nil _⟩
  | status value => exact Value.isFinite_of_present found
  | catalogue entries =>
    rw [present] at found
    obtain ⟨items, listed, found⟩ := exists_of_bind_eq_ok found
    cases found
    exact Value.isFinite_arr (isFinite_of_presentCollections orderly listed)
  | documents documents => exact Value.isFinite_of_present found
  | inserted acknowledged id =>
    rw [present, presentInserted] at found
    obtain ⟨shownId, plain, found⟩ := exists_of_bind_eq_ok found
    cases found
    refine Value.isFinite_doc ?_
    simp only [List.forall_mem_cons]
    exact ⟨Value.isFinite_bool acknowledged, Value.isFinite_of_present plain,
      List.forall_mem_nil _⟩
  | updated write =>
    rw [present, WriteReply.presentUpdated] at found
    split at found
    case isFalse => cases found
    case isTrue =>
      obtain ⟨shownId, plain, found⟩ := exists_of_bind_eq_ok found
      cases found
      -- the counts are shown as they came, the identifier in its plain form
      refine Value.isFinite_doc ?_
      simp only [List.forall_mem_cons]
      refine ⟨Value.isFinite_bool true, ?_, isFinite_of_count orderly.modified,
        Value.isFinite_int _, Value.isFinite_of_present plain, List.forall_mem_nil _⟩
      split
      · exact Value.isFinite_int 0
      · exact isFinite_of_count orderly.selected
  | deleted write =>
    rw [present, WriteReply.presentDeleted] at found
    split at found
    case isFalse => cases found
    case isTrue =>
      cases found
      refine Value.isFinite_doc ?_
      simp only [List.forall_mem_cons]
      exact ⟨Value.isFinite_bool true, isFinite_of_count orderly.selected,
        List.forall_mem_nil _⟩
  | indexed name =>
    cases found
    exact Value.isFinite_str name
  | counted n =>
    cases found
    exact Value.isFinite_int n

theorem isReported_of_presentCollections {entries : List Document} {fault : Fault}
    (found : presentCollections entries = .error fault) : fault.isReported = true := by
  induction entries with
  | nil => cases found
  | cons entry rest ih =>
    rw [presentCollections] at found
    rcases error_or_of_bind_eq_error found with failed | ⟨first, -, found⟩
    · rw [presentCollection] at failed
      rcases error_or_of_bind_eq_error failed with failed | ⟨options, -, failed⟩
      · exact Value.isReported_of_present failed
      · cases failed
    · rcases error_or_of_bind_eq_error found with failed | ⟨more, -, found⟩
      · exact ih failed
      · cases found

/-- A reply that cannot be shown is a fault that concerns the command. -/
theorem isReported_of_present {reply : Reply} {fault : Fault}
    (found : reply.present = .error fault) : fault.isReported = true := by
  cases reply with
  | created name => cases found
  | status value => exact Value.isReported_of_present found
  | catalogue entries =>
    rw [present] at found
    rcases error_or_of_bind_eq_error found with failed | ⟨items, -, found⟩
    · exact isReported_of_presentCollections failed
    · cases found
  | documents documents => exact Value.isReported_of_present found
  | inserted acknowledged id =>
    rw [present, presentInserted] at found
    rcases error_or_of_bind_eq_error found with failed | ⟨shown, -, found⟩
    · exact Value.isReported_of_present failed
    · cases found
  | updated write =>
    rw [present, WriteReply.presentUpdated] at found
    split at found
    case isFalse =>
      cases found
      rfl
    case isTrue =>
      rcases error_or_of_bind_eq_error found with failed | ⟨shown, -, found⟩
      · exact Value.isReported_of_present failed
      · cases found
  | deleted write =>
    rw [present, WriteReply.presentDeleted] at found
    split at found
    case isFalse =>
      cases found
      rfl
    case isTrue => cases found
  | indexed name => cases found
  | counted n => cases found

end Reply

end QueryDesk
