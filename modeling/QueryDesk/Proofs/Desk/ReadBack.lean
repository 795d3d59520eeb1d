import QueryDesk.Proofs.Desk.Finding
import QueryDesk.Proofs.Store.Equality

/-!
# What is inserted is read back

A document that is inserted is found by its own text (`inserted_is_read_back`): a find with the text
of an insertion is answered with what it would have been answered with before, and with one more
document at the end. That is the decoded document itself; one without an identifier has the one that
the insertion reported as its last member.

* Both operations decode the same text, the find its first segment and the insertion all of it
  (`Store.dispatch_of_denotes`).
* The new document satisfies the filter of its own members (`IsInsertedAs.satisfies`), and stands
  behind all others, so the limit does not cut it off.
* Its plain form is what was decoded, with the identifier it was given (`plain_identified`).
-/

namespace QueryDesk

/-! ## Plain forms -/

namespace Value

theorem plainItems_append {items more : List Value} {js js' : List Json}
    (first : plainItems items = .ok js) (rest : plainItems more = .ok js') :
    plainItems (items ++ more) = .ok (js ++ js') := by
  induction items generalizing js with
  | nil =>
    cases first
    exact rest
  | cons item items ih =>
    obtain ⟨j, plain, first⟩ := exists_of_bind_eq_ok first
    obtain ⟨others, plain', first⟩ := exists_of_bind_eq_ok first
    cases first
    rw [List.cons_append, plainItems, plain, ih plain']
    rfl

theorem plainMembers_append {members more : List (Text × Value)} {js js' : List (Text × Json)}
    (first : plainMembers members = .ok js) (rest : plainMembers more = .ok js') :
    plainMembers (members ++ more) = .ok (js ++ js') := by
  induction members generalizing js with
  | nil =>
    cases first
    exact rest
  | cons pair members ih =>
    obtain ⟨name, value⟩ := pair
    obtain ⟨j, plain, first⟩ := exists_of_bind_eq_ok first
    obtain ⟨others, plain', first⟩ := exists_of_bind_eq_ok first
    cases first
    rw [List.cons_append, plainMembers, plain, ih plain']
    rfl

end Value

theorem presentDocuments_of_plainItems {documents : List Document} {found : List Json}
    (plain : Value.plainItems (documents.map .doc) = .ok found) :
    presentDocuments documents = .ok (.ofJson (.arr found)) := by
  rw [presentDocuments, Value.present, Value.plain, plain]
  rfl

/-- A document with an identifier: its own, or the given one as its last member. -/
def withIdentifier (document : Members Json) (id : Json) : Members Json :=
  if (document.get? "_id").isSome then document else document ++ [(("_id" : Text), id)]

/-- A stored document is shown as it was decoded, with the identifier that it was given. -/
theorem plain_identified (id : BitVec 96) {document : Members Json}
    (finite : Json.membersFinite document = true) :
    ∃ own, (((identified id document).get? "_id").getD .null).plain = .ok own ∧
      (Value.doc (identified id document)).plain = .ok (.obj (withIdentifier document own)) := by
  have plain := Value.plainMembers_ofMembers finite
  simp only [identified, withIdentifier, Value.get?_ofMembers, Option.isSome_map]
  cases found : document.get? "_id" with
  | some own =>
    have member := Members.mem_of_get? found
    refine ⟨own, ?_, ?_⟩
    · rw [Option.isSome_some, if_pos rfl, Value.get?_ofMembers, found]
      exact Value.plain_ofJson (Json.membersFinite_iff.mp finite _ member)
    · rw [Option.isSome_some, if_pos rfl, if_pos rfl, Value.plain, plain]
      rfl
  | none =>
    refine ⟨.str (objectIdText id), ?_, ?_⟩
    · rw [Option.isSome_none, if_neg Bool.false_ne_true, Members.get?_append, Value.get?_ofMembers,
        found]
      rfl
    · rw [Option.isSome_none, if_neg Bool.false_ne_true, if_neg Bool.false_ne_true, Value.plain,
        Value.plainMembers_append plain rfl]
      rfl

/-! ## The two operations -/

namespace Store

variable {s : Store} {name : Text} {limit : Nat}

/-- A find is answered with the plain forms of the documents that it finds. -/
theorem dispatch_find {text : Text} {filter : Members Json}
    (read : Command.Argument.readStrict text.toList = .ok (.obj filter))
    (working : (s.collection name).fault = none) {found : List Json}
    (plain : Value.plainItems
      ((((s.documents name).filter (Document.satisfies · filter)).take limit).map .doc) =
        .ok found) :
    (Storage.dispatch limit s ⟨.collection name, "find", text⟩).2 = .ok (.ofJson (.arr found)) := by
  have documents : ((s.touch name).record (.collection name (.find filter limit))).documents =
    s.documents := s.documents_touch name
  rw [← documents] at plain
  have answered := dispatch_of_denotes (.find read) rfl working rfl
    (presentDocuments_of_plainItems plain)
  exact congrArg Prod.snd answered

/-- An insertion adds the document at the end, and leaves the collection working. -/
theorem dispatch_insertOne (limit : Nat) {text : Text} {document : Members Json}
    (read : Command.Argument.readStrict text.toList = .ok (.obj document))
    (accepted : (Request.collection name (.insertOne document)).refusal? s = none)
    (working : (s.collection name).fault = none) (finite : Json.membersFinite document = true) :
    ∃ s' own added, Storage.dispatch limit s ⟨.collection name, "insertOne", text⟩ =
        (s', .ok (.doc [("acknowledged", .bool true), ("insertedId", .ofJson own)])) ∧
      s'.documents name = s.documents name ++ [added] ∧ (s'.collection name).fault = none ∧
      IsInsertedAs document added ∧
      (Value.doc added).plain = .ok (.obj (withIdentifier document own)) := by
  let id := BitVec.ofNat 96 ((s.touch name).insertions + 1)
  let recorded := (s.touch name).record (.collection name (.insertOne document))
  let numbered : Store := { recorded with insertions := (s.touch name).insertions + 1 }
  obtain ⟨own, identifier, plain⟩ := plain_identified id finite
  have shown : presentInserted true (((identified id document).get? "_id").getD .null) =
      .ok (.doc [("acknowledged", .bool true), ("insertedId", .ofJson own)]) := by
    rw [presentInserted, Value.present, identifier]
    rfl
  refine ⟨(recorded.onCollection name (.insertOne document)).1, own, identified id document,
    dispatch_of_denotes (.insertOne read) accepted working rfl shown, ?_, ?_,
    isInsertedAs_identified id document, plain⟩
  · have addresses : recorded.Addresses (.collection name (.insertOne document)) :=
      s.isSome_find?_touch name
    have effect := recorded.documents_fulfilled addresses
    have documents : recorded.documents = s.documents := s.documents_touch name
    refine (congrFun effect name).trans ?_
    rw [Request.effect, Function.update_self, documents]
    rfl
  · refine (numbered.fault_modify name (· ++ [identified id document]) name).trans ?_
    show ((s.touch name).collection name).fault = none
    rw [collection_touch, working]

end Store

/-- **What is inserted is read back.** Let a text be strict JSON for a document with finite numbers,
let the collection work and accept the document, and let a find with this text give fewer documents
than the limit, all of which can be shown. Then after an insertion with the same text, the find is
answered with what it was answered with before, and with one more element at the end: the document
itself if it has an identifier, or else the document with the reported identifier as its last
member. -/
theorem inserted_is_read_back (limit : Nat) (s : Store) (name : Text) {text : Text}
    {document : Members Json}
    (working : (s.collection name).fault = none)
    (accepted : (Request.collection name (.insertOne document)).refusal? s = none)
    (read : Command.Argument.readStrict text.toList = .ok (.obj document))
    (finite : Json.membersFinite document = true)
    (few : (s.documents name).countP (Document.satisfies · document) < limit)
    (shown : ∀ d ∈ s.documents name, d.satisfies document = true →
      ∃ j, (Value.doc d).plain = .ok j) :
    let find : Command := ⟨.collection name, "find", text⟩
    let inserted := Storage.dispatch limit s ⟨.collection name, "insertOne", text⟩
    ∃ found own, (Storage.dispatch limit s find).2 = .ok (.ofJson (.arr found)) ∧
      inserted.2 = .ok (.doc [("acknowledged", .bool true), ("insertedId", .ofJson own)]) ∧
      (Storage.dispatch limit inserted.1 find).2 =
        .ok (.ofJson (.arr (found ++ [.obj (withIdentifier document own)]))) := by
  intro find inserted
  obtain ⟨s', own, added, answer, documents, working', same, plain⟩ :=
    Store.dispatch_insertOne limit read accepted working finite
  let before := (s.documents name).filter (Document.satisfies · document)
  have satisfied : added.satisfies document = true :=
    same.satisfies (Json.hasDistinctNames_of_readUnmarked read) finite
  -- the new document comes last, and the limit leaves room for it
  have after : (s'.documents name).filter (Document.satisfies · document) = before ++ [added] := by
    rw [documents, List.filter_append]
    exact congrArg (before ++ ·) (List.filter_eq_self.mpr (List.forall_mem_singleton.mpr satisfied))
  have room : before.length < limit := by
    rw [← List.countP_eq_length_filter]
    exact few
  obtain ⟨found, plain'⟩ : ∃ found, Value.plainItems (before.map .doc) = .ok found := by
    rcases Value.plainItems_cases (before.map .doc) with
      ⟨found, plain, -⟩ | ⟨v, member, reason, failed, -⟩
    · exact ⟨found, plain⟩
    · obtain ⟨d, kept, rfl⟩ := List.mem_map.mp member
      obtain ⟨stored, satisfied⟩ := List.mem_filter.mp kept
      obtain ⟨j, plain⟩ := shown d stored satisfied
      rw [failed] at plain
      cases plain
  have both : Value.plainItems ((before ++ [added]).map .doc) =
      .ok (found ++ [.obj (withIdentifier document own)]) := by
    rw [List.map_append]
    refine Value.plainItems_append plain' ?_
    rw [List.map_singleton, Value.plainItems, plain]
    rfl
  refine ⟨found, own, ?_, congrArg Prod.snd answer, ?_⟩
  · refine Store.dispatch_find read working ?_
    rw [List.take_of_length_le room.le]
    exact plain'
  · have left : inserted.1 = s' := congrArg Prod.fst answer
    rw [left]
    refine Store.dispatch_find read working' ?_
    rw [after, List.take_of_length_le (List.length_append.trans_le room)]
    exact both

/-- The one that is inserted without an identifier is read back behind another that equals it as far
as it goes, and that has a number which JSON cannot write. -/
theorem inserted_is_read_back_behind_another :
    let s : Store :=
      { collections := [{ name := "c", documents := [[("a", .int 1), ("b", .double .nan)]] }] }
    let text : Text := "\x7b\"a\": true\x7d"
    let find : Command := ⟨.collection "c", "find", text⟩
    let inserted := Storage.dispatch 5 s ⟨.collection "c", "insertOne", text⟩
    ∃ found own, (Storage.dispatch 5 s find).2 = .ok (.ofJson (.arr found)) ∧
      inserted.2 = .ok (.doc [("acknowledged", .bool true), ("insertedId", .ofJson own)]) ∧
      (Storage.dispatch 5 inserted.1 find).2 =
        .ok (.ofJson (.arr (found ++ [.obj [("a", .bool true), ("_id", own)]]))) := by
  intro s text
  have read : Command.Argument.readStrict text.toList = .ok (.obj [("a", .bool true)]) := by cbv
  refine inserted_is_read_back 5 s "c" rfl rfl read rfl (by decide +kernel) ?_
  intro d stored _
  cases List.mem_singleton.mp stored
  exact ⟨_, rfl⟩

end QueryDesk
