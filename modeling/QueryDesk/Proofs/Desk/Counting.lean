import QueryDesk.Proofs.Desk.Finding
import QueryDesk.Proofs.Desk.Updates

/-!
# One number for a filter

Counting, finding, updating and deleting are about the same documents if they are given the same
filter (`one_number_for_a_filter`): the number that a count gives is the number of documents that a
find gives, up to its limit, that an update of many selects and that a deletion of many takes away.
A deletion of one takes away one of them, if there is any. A count after a deletion gives what is
left.

* The filter is the whole argument text, or its first segment, or the first of two segments
  (`Denotes`); a text of strict JSON is the same filter in all three places.
* `Store.matchCount` is that number. It is told by a count (`Store.dispatch_countDocuments`), by an
  update (`Store.dispatch_updateMany`) and by a deletion (`Store.dispatch_deletion`).
* `countP_remaining`: what a deletion leaves, as far as the filter goes.
-/

namespace QueryDesk

open Command

/-! ## Deletions of one document and of many -/

/-- The operation that deletes one document or many. -/
def CollectionOperation.deletion (many : Bool) : CollectionOperation :=
  if many then .deleteMany else .deleteOne

/-- The request that deletes one document or many. -/
def CollectionRequest.deletion (many : Bool) (filter : Members Json) : CollectionRequest :=
  if many then .deleteMany filter else .deleteOne filter

/-- The documents that a deletion leaves, in their order. -/
def remaining (many : Bool) (filter : Members Json) (documents : List Document) : List Document :=
  if many then documents.filter fun d => !d.satisfies filter
  else documents.eraseP (Document.satisfies · filter)

/-- How many of `n` documents a deletion takes away. -/
def removed (many : Bool) (n : Nat) : Nat :=
  if many then n else min 1 n

theorem countP_eraseP {α : Type} (p : α → Bool) (l : List α) :
    (l.eraseP p).countP p = l.countP p - 1 := by
  induction l with
  | nil => rfl
  | cons a rest ih =>
    rw [List.eraseP_cons, List.countP_cons]
    cases found : p a with
    | true => simp
    | false => simp [found, ih]

/-- After a deletion, the filter has as many documents less as it took away. -/
theorem countP_remaining (many : Bool) (filter : Members Json) (documents : List Document) :
    (remaining many filter documents).countP (Document.satisfies · filter) =
      documents.countP (Document.satisfies · filter) -
        removed many (documents.countP (Document.satisfies · filter)) := by
  cases many with
  | true =>
    have none : (remaining true filter documents).countP (Document.satisfies · filter) = 0 := by
      rw [List.countP_eq_zero]
      intro d left
      obtain ⟨-, unsatisfied⟩ := List.mem_filter.mp left
      rwa [Bool.not_eq_true', ← Bool.not_eq_true] at unsatisfied
    rw [none]
    exact (Nat.sub_self _).symm
  | false =>
    refine (countP_eraseP _ documents).trans ?_
    rw [removed, if_neg Bool.false_ne_true]
    omega

namespace Store

/-- How many documents of a collection satisfy a filter. -/
def matchCount (s : Store) (name : Text) (filter : Members Json) : Nat :=
  (s.documents name).countP (Document.satisfies · filter)

/-! ## Requests -/

section Request

variable (s : Store) (name : Text)

/-- A collection without a scripted reply answers a write with what it did. -/
theorem writeReply_of_unscripted (reports : (s.collection name).writeReply = none) (n : Nat)
    (modified : Value) :
    s.writeReply name n modified = { acknowledged := true, selected := .int n, modified } := by
  rw [writeReply, reports]
  rfl

/-- An update of many documents selects those of its filter. -/
theorem onCollection_updateMany (reports : (s.collection name).writeReply = none)
    (filter : Members Json) (update : Json) :
    s.onCollection name (.updateMany filter update) =
      (s, .ok (.updated
        { acknowledged := true
          selected := .int (s.matchCount name filter)
          modified := .int (s.matchCount name filter) })) := by
  rw [onCollection, writeReply_of_unscripted s name reports]
  rfl

/-- A deletion tells how many documents it takes away. -/
theorem reply_deletion (reports : (s.collection name).writeReply = none) (many : Bool)
    (filter : Members Json) :
    (s.onCollection name (.deletion many filter)).2 =
      .ok (.deleted
        { acknowledged := true
          selected := .int (removed many (s.matchCount name filter)) }) := by
  rw [← writeReply_of_unscripted s name reports]
  cases many with
  | true => rfl
  | false => rfl

/-- A deletion leaves the other documents of a collection that is there. -/
theorem documents_deletion (present : (s.find? name).isSome = true) (many : Bool)
    (filter : Members Json) :
    (s.onCollection name (.deletion many filter)).1.documents name =
      remaining many filter (s.documents name) := by
  cases many with
  | true =>
    have left := s.documents_modify present (remaining true filter)
    exact (congrFun left name).trans (Function.update_self ..)
  | false =>
    have left := s.documents_modify present (eraseFirst filter)
    rw [eraseFirst_eq_eraseP] at left
    exact (congrFun left name).trans (Function.update_self ..)

/-- A deletion leaves a collection working. -/
theorem fault_deletion (many : Bool) (filter : Members Json) :
    ((s.onCollection name (.deletion many filter)).1.collection name).fault =
      (s.collection name).fault := by
  cases many with
  | true => exact s.fault_modify name (remaining true filter) name
  | false => exact s.fault_modify name (eraseFirst filter) name

/-- A collection is the same after it was addressed and a request was logged. -/
theorem collection_record (request : Request) :
    ((s.touch name).record request).collection name = s.collection name :=
  s.collection_touch name name

theorem matchCount_record (request : Request) (filter : Members Json) :
    ((s.touch name).record request).matchCount name filter = s.matchCount name filter := by
  have documents : ((s.touch name).record request).documents = s.documents := s.documents_touch name
  rw [matchCount, documents, matchCount]

end Request

/-! ## Commands -/

section Command

variable (limit : Nat) {s : Store} {name text : Text} {filter : Members Json}
  (working : (s.collection name).fault = none)
  (read : Argument.readStrict text.toList = .ok (.obj filter))

include working read

theorem dispatch_countDocuments :
    (Storage.dispatch limit s ⟨.collection name, "countDocuments", text⟩).2 =
      .ok (.int (s.matchCount name filter)) := by
  have denotes : Denotes limit .countDocuments text (.countDocuments filter) :=
    .countDocuments read
  have answer := dispatch_of_denotes denotes rfl working rfl rfl
  rw [← matchCount_record s name (.collection name (.countDocuments filter))]
  exact congrArg Prod.snd answer

/-- A find gives as many documents as a count, up to the limit, if all of them can be shown. -/
theorem exists_found (shown : ∀ d ∈ s.documents name, d.satisfies filter = true → ¬ d.IsHidden) :
    ∃ found, (Storage.dispatch limit s ⟨.collection name, "find", text⟩).2 = .ok (.arr found) ∧
      found.length = min (s.matchCount name filter) limit := by
  have answer := congrArg Prod.snd (dispatch_find_eq limit (decode_firstSegment read) working)
  rcases answered_presentDocuments_cases (s.firstMatches name filter limit) with
    ⟨found, told, each⟩ | ⟨-, d, member, hidden⟩
  · refine ⟨found, answer.trans told, ?_⟩
    rw [← each.length_eq, firstMatches, List.length_take, ← List.countP_eq_length_filter,
      Nat.min_comm]
    rfl
  · obtain ⟨stored, satisfied⟩ := mem_firstMatches limit member
    exact absurd hidden (shown d stored satisfied)

variable (reports : (s.collection name).writeReply = none)

include reports

/-- An update of many documents is answered with the number of those that it selects. -/
theorem dispatch_updateMany {updateText : Text} {update : Members Json}
    (read' : Argument.readStrict updateText.toList = .ok (.obj update)) :
    (Storage.dispatch limit s ⟨.collection name, "updateMany", text ++ "," ++ updateText⟩).2 =
      .ok (.doc [("acknowledged", .bool true),
        ("matchedCount", .int (s.matchCount name filter)),
        ("modifiedCount", .int (s.matchCount name filter)),
        ("upsertedCount", .int 0), ("upsertedId", .null)]) := by
  let request : Request := .collection name (.updateMany filter (.obj update))
  have replied := ((s.touch name).record request).onCollection_updateMany name
    ((congrArg Collection.writeReply (s.collection_record name request)).trans reports)
    filter (.obj update)
  rw [matchCount_record] at replied
  have denotes : Denotes limit .updateMany (text ++ "," ++ updateText)
      (.updateMany filter (.obj update)) :=
    .updateMany read read' (.inl ⟨update, rfl⟩)
  exact congrArg Prod.snd (dispatch_of_denotes denotes rfl working replied rfl)

/-- A deletion is answered with the number of documents that it takes away. It leaves the others,
and the collection working. -/
theorem dispatch_deletion (many : Bool) :
    let outcome :=
      Storage.dispatch limit s ⟨.collection name, (CollectionOperation.deletion many).name, text⟩
    outcome.2 = .ok (.doc [("acknowledged", .bool true),
        ("deletedCount", .int (removed many (s.matchCount name filter)))]) ∧
      outcome.1.documents name = remaining many filter (s.documents name) ∧
      (outcome.1.collection name).fault = none := by
  intro outcome
  let request : Request := .collection name (.deletion many filter)
  let recorded := (s.touch name).record request
  have same : recorded.collection name = s.collection name := s.collection_record name request
  have denotes : Denotes limit (.deletion many) text (.deletion many filter) := by
    cases many with
    | true => exact .deleteMany read
    | false => exact .deleteOne read
  have accepted : request.refusal? s = none := by
    cases many <;> rfl
  have reply := recorded.reply_deletion name
    ((congrArg Collection.writeReply same).trans reports) many filter
  rw [matchCount_record] at reply
  have dispatched : outcome = _ :=
    dispatch_of_denotes denotes accepted working (Prod.ext rfl reply) rfl
  rw [dispatched]
  refine ⟨rfl, ?_, ?_⟩
  · have kept : recorded.documents = s.documents := s.documents_touch name
    have left := recorded.documents_deletion name (s.isSome_find?_touch name) many filter
    rw [kept] at left
    exact left
  · rw [fault_deletion, same, working]

end Command

end Store

/-! ## Agreement -/

/-- A count after a deletion gives the documents of the filter that it left. -/
theorem count_after_deletion (limit : Nat) {s : Store} {name text : Text} {filter : Members Json}
    (working : (s.collection name).fault = none)
    (read : Argument.readStrict text.toList = .ok (.obj filter))
    (reports : (s.collection name).writeReply = none) (many : Bool) :
    let outcome :=
      Storage.dispatch limit s ⟨.collection name, (CollectionOperation.deletion many).name, text⟩
    (Storage.dispatch limit outcome.1 ⟨.collection name, "countDocuments", text⟩).2 =
      .ok (.int (s.matchCount name filter - removed many (s.matchCount name filter) : Nat)) := by
  intro outcome
  obtain ⟨-, left, working'⟩ := Store.dispatch_deletion limit working read reports many
  rw [Store.dispatch_countDocuments limit working' read, Store.matchCount, left, countP_remaining]
  rfl

/-- **One number for a filter.** Let a text be strict JSON for a filter, let the collection work,
and let each of its documents that satisfies the filter be one that can be shown. Then the number
that a count with this text gives is, up to the limit, the number of documents that a find gives, it
is the number of documents that an update of many selects, whatever the update is, and the number
that a deletion of many takes away; a deletion of one takes away one of them, if there is any. After
a deletion of many, the other documents are left in their order, and a count gives none; after a
deletion of one, a count gives one less, if there was any. -/
theorem one_number_for_a_filter (limit : Nat) (s : Store) (name : Text) {text : Text}
    {filter : Members Json} (working : (s.collection name).fault = none)
    (reports : (s.collection name).writeReply = none)
    (read : Argument.readStrict text.toList = .ok (.obj filter))
    (shown : ∀ d ∈ s.documents name, d.satisfies filter = true → ¬ d.IsHidden) :
    let on (operation arguments : Text) : Command := ⟨.collection name, operation, arguments⟩
    let deletion := Storage.dispatch limit s (on "deleteMany" text)
    let deletionOfOne := Storage.dispatch limit s (on "deleteOne" text)
    ∃ k : Nat, (Storage.dispatch limit s (on "countDocuments" text)).2 = .ok (.int k) ∧
      (∃ found, (Storage.dispatch limit s (on "find" text)).2 = .ok (.arr found) ∧
        found.length = min k limit) ∧
      (∀ (updateText : Text) (update : Members Json),
        Argument.readStrict updateText.toList = .ok (.obj update) →
        (Storage.dispatch limit s (on "updateMany" (text ++ "," ++ updateText))).2 =
          .ok (.doc [("acknowledged", .bool true), ("matchedCount", .int k),
            ("modifiedCount", .int k), ("upsertedCount", .int 0), ("upsertedId", .null)])) ∧
      deletion.2 = .ok (.doc [("acknowledged", .bool true), ("deletedCount", .int k)]) ∧
      deletion.1.documents name = (s.documents name).filter (fun d => !d.satisfies filter) ∧
      (Storage.dispatch limit deletion.1 (on "countDocuments" text)).2 = .ok (.int 0) ∧
      deletionOfOne.2 =
        .ok (.doc [("acknowledged", .bool true), ("deletedCount", .int (min k 1 : Nat))]) ∧
      (Storage.dispatch limit deletionOfOne.1 (on "countDocuments" text)).2 =
        .ok (.int (k - min k 1 : Nat)) := by
  intro on deletion deletionOfOne
  obtain ⟨answer, left, -⟩ := Store.dispatch_deletion limit working read reports true
  obtain ⟨answerOfOne, -⟩ := Store.dispatch_deletion limit working read reports false
  have after := count_after_deletion limit working read reports true
  have afterOne := count_after_deletion limit working read reports false
  have all : removed true (s.matchCount name filter) = s.matchCount name filter := rfl
  have one : removed false (s.matchCount name filter) = min (s.matchCount name filter) 1 :=
    Nat.min_comm 1 _
  rw [all] at answer
  rw [all, Nat.sub_self] at after
  rw [one] at answerOfOne afterOne
  exact ⟨s.matchCount name filter, Store.dispatch_countDocuments limit working read,
    Store.exists_found limit working read shown,
    fun updateText update read' => Store.dispatch_updateMany limit working read reports read',
    answer, left, after, answerOfOne, afterOne⟩

/-- A filter on null is also about documents without the field, and a document counts as often as it
is there. One that does not satisfy the filter need not be one that can be shown. -/
theorem one_number_for_null_and_absent :
    let documents : List Document := [[("a", .null), ("x", .int 1)],
      [("a", .int 0), ("x", .uuid [])], [("a", .null), ("x", .int 1)], [("x", .int 2)]]
    let s : Store := { collections := [{ name := "c", documents }] }
    let on (operation arguments : Text) : Command := ⟨.collection "c", operation, arguments⟩
    let text : Text := "\x7b\"a\": null\x7d"
    (Storage.dispatch 2 s (on "countDocuments" text)).2 = .ok (.int 3) ∧
      (∃ found, (Storage.dispatch 2 s (on "find" text)).2 = .ok (.arr found) ∧ found.length = 2) ∧
      (Storage.dispatch 2 s (on "deleteMany" text)).1.documents "c" =
        ([[("a", .int 0), ("x", .uuid [])]] : List Document) ∧
      (Storage.dispatch 2 (Storage.dispatch 2 s (on "deleteOne" text)).1
          (on "countDocuments" text)).2 =
        .ok (.int 2) := by
  intro documents s on text
  have read : Argument.readStrict text.toList = .ok (.obj [("a", .null)]) := by cbv
  have shown : ∀ d ∈ documents, d.satisfies [("a", .null)] = true → ¬ d.IsHidden := by
    intro d member satisfied
    simp only [documents, List.mem_cons, List.not_mem_nil, or_false] at member
    rcases member with rfl | rfl | rfl | rfl
    · rintro ⟨fault, ⟨⟩⟩
    · exact absurd satisfied (by decide +kernel)
    · rintro ⟨fault, ⟨⟩⟩
    · rintro ⟨fault, ⟨⟩⟩
  obtain ⟨k, counted, found, -, -, left, -, -, afterOne⟩ :=
    one_number_for_a_filter 2 s "c" rfl rfl read shown
  have three : k = 3 := by
    rw [Store.dispatch_countDocuments 2 rfl read] at counted
    have count : s.matchCount "c" [("a", .null)] = 3 := by decide +kernel
    rw [count] at counted
    cases counted
    rfl
  subst three
  have others : documents.filter (fun d => !d.satisfies [("a", .null)]) =
      ([[("a", .int 0), ("x", .uuid [])]] : List Document) := by cbv
  exact ⟨counted, found, left.trans others, afterOne⟩

end QueryDesk
