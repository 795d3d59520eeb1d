import QueryDesk.Proofs.Desk.Answer
import QueryDesk.Proofs.Desk.OneRequest
import QueryDesk.Proofs.Store.Documents

/-!
# What a query leaves of the documents

A query changes the stored documents only through the command in its draft, and only as that command
says (`documents_frame`). `Command.Effect` is the whole list: an insertion adds its decoded
argument, a deletion takes what its decoded filter selects, dropping the database takes all, and any
other command takes and adds nothing. A query that ends in a fault has changed nothing, and neither
has one whose answer tells an error, as long as the store does not deny what it has done
(`Store.RepliesAgree`).

* `Command.effect_of_request`: the request that a command is read as has the command's effect.
* `Store.documents_execute`: a command is stopped before it has changed anything, or it has its
  effect and all that is left is to show the reply.
* `Store.RepliesAgree.present`: a reply to a change can be shown, and tells no error.
-/

namespace QueryDesk

/-! ## The effect of a command -/

/-- The names of the operations that change documents. -/
def Target.changes : Target → List Text
  | .database => ["dropDatabase"]
  | .collection _ => ["insertOne", "deleteOne", "deleteMany"]

namespace Command

open Interpretation

/-- What a command makes of the documents by collection if it is carried out. -/
inductive Effect (c : Command) (before : Text → List Document) :
    (Text → List Document) → Prop
  /-- One document is added to the end of the collection. -/
  | inserted {name : Text} {document : Members Json} {added : Document}
      (target : c.target = .collection name) (operation : c.operation = "insertOne")
      (argument : decoded c.arguments.toList = .ok (.obj document))
      (same : IsInsertedAs document added) :
      Effect c before (Function.update before name (before name ++ [added]))
  /-- The first document of the filter is removed, if there is one. -/
  | deletedOne {name : Text} {filter : Members Json}
      (target : c.target = .collection name) (operation : c.operation = "deleteOne")
      (argument : decoded c.arguments.toList = .ok (.obj filter)) :
      Effect c before
        (Function.update before name ((before name).eraseP (Document.satisfies · filter)))
  /-- The documents of the filter are removed. -/
  | deletedMany {name : Text} {filter : Members Json}
      (target : c.target = .collection name) (operation : c.operation = "deleteMany")
      (argument : decoded c.arguments.toList = .ok (.obj filter)) :
      Effect c before
        (Function.update before name ((before name).filter fun d => !Document.satisfies d filter))
  | dropped (target : c.target = .database) (operation : c.operation = "dropDatabase")
      (blank : Text.isBlankText c.arguments = true) :
      Effect c before fun _ => []
  | unchanged (other : c.operation ∉ c.target.changes) : Effect c before before

/-- The command removes documents from a collection, if it is carried out. -/
def Removes (c : Command) (name : Text) : Prop :=
  c.target = .collection name ∧ (c.operation = "deleteOne" ∨ c.operation = "deleteMany") ∨
    c.target = .database ∧ c.operation = "dropDatabase" ∧ Text.isBlankText c.arguments = true

/-- Where a document is gone from its collection or has moved in it, the command removes from it. -/
theorem Effect.removes {c : Command} {before after : Text → List Document}
    (effect : c.Effect before after) {name : Text}
    (gone : ¬ (before name).Sublist (after name)) : c.Removes name := by
  -- the other collections of a change are as they were
  have here : ∀ {changed : Text} {documents : List Document},
      ¬ (before name).Sublist (Function.update before changed documents name) →
        changed = name ∧ ¬ (before name).Sublist documents := by
    intro changed documents gone
    by_cases same : name = changed
    · subst same
      rw [Function.update_self] at gone
      exact ⟨rfl, gone⟩
    · rw [Function.update_of_ne same] at gone
      exact absurd (List.Sublist.refl _) gone
  cases effect with
  | inserted target operation argument same =>
    obtain ⟨rfl, gone⟩ := here gone
    exact absurd (List.sublist_append_left _ _) gone
  | deletedOne target operation argument =>
    obtain ⟨rfl, -⟩ := here gone
    exact .inl ⟨target, .inl operation⟩
  | deletedMany target operation argument =>
    obtain ⟨rfl, -⟩ := here gone
    exact .inl ⟨target, .inr operation⟩
  | dropped target operation blank => exact .inr ⟨target, operation, blank⟩
  | unchanged other => exact absurd (List.Sublist.refl _) gone

end Command

theorem DatabaseOperation.blank_of_request {arguments : Text} {request : DatabaseRequest}
    (asked : dropDatabase.request arguments = .ok request) :
    Text.isBlankText arguments = true := by
  rw [DatabaseOperation.request] at asked
  split at asked
  case isTrue blank => exact blank
  case isFalse => cases asked

/-- A command that is read as a request has the effect of the request. -/
theorem Command.effect_of_request {c : Command} {operation : Operation} {limit : Nat}
    {request : Request} (known : c.operation? = some operation)
    (asked : operation.request limit c.arguments = .ok request) (id : BitVec 96)
    (before : Text → List Document) : c.Effect before (request.effect id before) := by
  obtain ⟨target, named⟩ := Command.operation?_eq_some_iff.mp known
  have same := Operation.operation_of_request asked
  subst same
  have other : ∀ {names : List Text}, c.target.changes = names →
      request.operation.name ∉ names → c.operation ∉ c.target.changes := by
    rintro _ rfl unlisted
    rwa [← named]
  cases request with
  | database request =>
    have changes : c.target.changes = [("dropDatabase" : Text)] := by
      rw [← target]
      rfl
    cases request with
    | dropDatabase =>
      obtain ⟨inner, asked, -⟩ := exists_of_bind_eq_ok asked
      exact .dropped target.symm named.symm (DatabaseOperation.blank_of_request asked)
    | _ => exact .unchanged (other changes (of_decide_eq_true rfl))
  | collection name request =>
    have changes : c.target.changes =
        [("insertOne" : Text), ("deleteOne" : Text), ("deleteMany" : Text)] := by
      rw [← target]
      rfl
    obtain ⟨inner, asked, wrapped⟩ := exists_of_bind_eq_ok asked
    cases wrapped
    cases request with
    | insertOne document =>
      obtain ⟨_, read, whole⟩ := exists_of_bind_eq_ok asked
      cases whole
      exact .inserted target.symm named.symm (Interpretation.decoded_of_document read)
        (isInsertedAs_identified id document)
    | deleteOne filter =>
      obtain ⟨_, read, whole⟩ := exists_of_bind_eq_ok asked
      cases whole
      exact .deletedOne target.symm named.symm (Interpretation.decoded_of_document read)
    | deleteMany filter =>
      obtain ⟨_, read, whole⟩ := exists_of_bind_eq_ok asked
      cases whole
      exact .deletedMany target.symm named.symm (Interpretation.decoded_of_document read)
    | _ => exact .unchanged (other changes (of_decide_eq_true rfl))

/-! ## Replies to changes -/

/-- A value that tells an error: a document with a member of this name. -/
def Value.TellsError (v : Value) : Prop :=
  ∃ members : Members Value, v = .doc members ∧ ("error" : Text) ∈ members.names

/-- What a store was told to reply does not deny what it did: writes are acknowledged, and the reply
to a command can be shown and tells no error. -/
structure Store.RepliesAgree (s : Store) : Prop where
  writes : ∀ c ∈ s.collections, ∀ reply ∈ c.writeReply, reply.acknowledged = true
  command : ∀ v ∈ s.commandReply, ∃ shown, v.present = .ok shown ∧ ¬ shown.TellsError

/-- A store that was told no replies gives its own, and these agree. -/
theorem Store.repliesAgree_of_unscripted {s : Store}
    (writes : ∀ c ∈ s.collections, c.writeReply = none) (command : s.commandReply = none) :
    s.RepliesAgree where
  writes := by
    intro c member reply given
    rw [writes c member] at given
    cases given
  command := by
    intro v given
    rw [command] at given
    cases given

theorem Value.not_tellsError {members : Members Value} (absent : ("error" : Text) ∉ members.names) :
    ¬ (doc members).TellsError := by
  rintro ⟨_, ⟨rfl⟩, member⟩
  exact absent member

namespace Store

variable {s : Store}

theorem RepliesAgree.addressed (agree : s.RepliesAgree) (operation : Operation) :
    (Storage.addressed s operation).RepliesAgree := by
  cases operation with
  | database operation => exact agree
  | collection name operation =>
    refine ⟨?_, ?_⟩
    · intro c member reply given
      rcases mem_collections_touch member with old | rfl
      · exact agree.writes c old reply given
      · cases given
    · intro v given
      rw [Storage.addressed, Storage.touch_store, touch_eq] at given
      exact agree.command v given

theorem RepliesAgree.acknowledged (agree : s.RepliesAgree) (name : Text) (n : Nat)
    (modified : Value) : (s.writeReply name n modified).acknowledged = true := by
  rcases s.writeReply_cases name n modified with ⟨c, member, given⟩ | own
  · exact agree.writes c member _ given
  · rw [own]

/-- The reply to a deletion can be shown. -/
theorem RepliesAgree.present_deleted (agree : s.RepliesAgree) (name : Text) (n : Nat) :
    ∃ shown, (Reply.deleted (s.writeReply name n .null)).present = .ok shown ∧
      ¬ shown.TellsError := by
  have present : (Reply.deleted (s.writeReply name n .null)).present =
      .ok (.doc [("acknowledged", .bool true),
        ("deletedCount", (s.writeReply name n .null).selected)]) := by
    rw [Reply.present, WriteReply.presentDeleted, if_pos (agree.acknowledged name n .null)]
  refine ⟨_, present, Value.not_tellsError ?_⟩
  simp [Members.names]

theorem present_inserted (id : BitVec 96) (document : Members Json) :
    ∃ shown, (Reply.inserted true (((identified id document).get? "_id").getD .null)).present =
      .ok shown ∧ ¬ shown.TellsError := by
  obtain ⟨own, present⟩ := exists_present_identifier id document
  refine ⟨.doc [("acknowledged", .bool true), ("insertedId", own)], ?_, Value.not_tellsError ?_⟩
  · rw [Reply.present, presentInserted, present]
    rfl
  · simp [Members.names]

theorem RepliesAgree.present_dropped (agree : s.RepliesAgree) :
    ∃ shown, (Reply.status (s.commandReply.getD
      (.doc [("ok", .double .one), ("dropped", .str s.name)]))).present = .ok shown ∧
        ¬ shown.TellsError := by
  cases given : s.commandReply with
  | none =>
    refine ⟨.doc [("ok", .double .one), ("dropped", .str s.name)], rfl, Value.not_tellsError ?_⟩
    simp [Members.names]
  | some v => exact agree.command v given

/-- A reply to a change can be shown, and tells no error. -/
theorem RepliesAgree.present (agree : s.RepliesAgree) {request : Request} {reply : Reply}
    (performed : (s.perform request).2 = .ok reply) :
    (∀ id before, request.effect id before = before) ∨
      ∃ shown, reply.present = .ok shown ∧ ¬ shown.TellsError := by
  -- logging leaves the scripted replies as they are
  have recorded : (s.record request).RepliesAgree := ⟨agree.writes, agree.command⟩
  rw [perform_of_ok performed] at performed
  cases request with
  | database request =>
    cases request with
    | dropDatabase =>
      cases performed
      exact .inr recorded.present_dropped
    | _ => exact .inl fun _ _ => rfl
  | collection name request =>
    cases request with
    | insertOne document =>
      cases performed
      exact .inr (present_inserted _ document)
    | deleteOne filter | deleteMany filter =>
      cases performed
      exact .inr (recorded.present_deleted name _)
    | _ => exact .inl fun _ _ => rfl

/-! ## Commands and answers -/

theorem documents_addressed (s : Store) (operation : Operation) :
    (Storage.addressed s operation).documents = s.documents := by
  cases operation with
  | database operation => rfl
  | collection name operation => exact s.documents_touch name

/-- A request finds the collection that its operation addresses. -/
theorem addresses_addressed (s : Store) (request : Request) :
    (Storage.addressed s request.operation).Addresses request := by
  cases request with
  | database request => trivial
  | collection name request => exact s.isSome_find?_touch name

/-- A command is stopped before it has changed anything, or it has its effect and all that is left
is to show the reply. That goes well if anything has changed and the replies of the store agree. -/
theorem documents_execute (limit : Nat) (s : Store) (c : Command) :
    ((Storage.execute limit s c).1.documents = s.documents ∧
      ∃ failure, (Storage.execute limit s c).2 = .error failure) ∨
    c.Effect s.documents (Storage.execute limit s c).1.documents ∧
      ∃ reply : Reply, (Storage.execute limit s c).2 = reply.present.mapError .store ∧
        (s.RepliesAgree → (Storage.execute limit s c).1.documents = s.documents ∨
          ∃ shown, reply.present = .ok shown ∧ ¬ shown.TellsError) := by
  rcases Storage.execute_cases limit s c with
    ⟨-, executed⟩ | ⟨operation, known, ⟨failure, -, executed⟩ | ⟨request, asked, executed⟩⟩
  · rw [executed]
    exact .inl ⟨rfl, _, rfl⟩
  · rw [executed]
    exact .inl ⟨s.documents_addressed operation, failure, rfl⟩
  · rw [executed, Storage.fulfil_fst, Storage.perform_store]
    rcases Storage.fulfil_cases (Storage.addressed s operation) request with
      ⟨fault, stopped, failed⟩ | ⟨reply, performed, -⟩
    · refine .inl ⟨?_, _, failed⟩
      rw [documents_of_perform_error _ stopped, documents_addressed]
    · have addresses : (Storage.addressed s operation).Addresses request := by
        rw [← Operation.operation_of_request asked]
        exact s.addresses_addressed request
      have documents := documents_of_perform_ok _ addresses performed
      rw [documents_addressed] at documents
      refine .inr ⟨?_, reply, Storage.fulfil_of_perform_ok performed, fun agree => ?_⟩
      · rw [documents]
        exact Command.effect_of_request known asked _ _
      · rcases (agree.addressed operation).present performed with idle | shown
        · rw [documents, idle]
          exact .inl rfl
        · exact .inr shown

/-- Whatever a command is answered with, it has had its effect or none. -/
theorem frame_dispatch (limit : Nat) (s : Store) (c : Command) :
    (Storage.dispatch limit s c).1.documents = s.documents ∨
      c.Effect s.documents (Storage.dispatch limit s c).1.documents := by
  rw [Storage.dispatch_eq]
  rcases documents_execute limit s c with ⟨same, -⟩ | ⟨effect, -⟩
  · exact .inl same
  · exact .inr effect

/-- What a failure is answered with tells an error. -/
theorem tellsError_of_answered {failure : Failure} {v : Value}
    (answer : answered (.error failure) = .ok v) : v.TellsError := by
  rw [answered] at answer
  split at answer
  · cases answer
  · cases answer
    exact ⟨[("error", .str failure.message)], rfl, List.mem_cons_self⟩

section

variable {limit : Nat} {c : Command}

/-- A command after which a fault escapes has changed nothing: whatever goes wrong in showing the
reply is told. -/
theorem documents_of_dispatch_error {fault : Fault}
    (escaped : (Storage.dispatch limit s c).2 = .error fault) :
    (Storage.dispatch limit s c).1.documents = s.documents := by
  rw [Storage.dispatch_eq] at escaped ⊢
  rcases documents_execute limit s c with ⟨same, -⟩ | ⟨-, reply, outcome, -⟩
  · exact same
  · rw [outcome] at escaped
    cases shown : reply.present with
    | ok v =>
      rw [shown] at escaped
      cases escaped
    | error hidden =>
      have told : (Failure.store hidden).escaping? = none := by
        rw [Failure.escaping?, if_pos (Reply.isReported_of_present shown)]
      rw [shown] at escaped
      change answered (.error (.store hidden)) = _ at escaped
      rw [answered, told] at escaped
      cases escaped

/-- A command that is answered without an error has its effect. -/
theorem effect_of_dispatch_ok {v : Value} (answer : (Storage.dispatch limit s c).2 = .ok v)
    (quiet : ¬ v.TellsError) : c.Effect s.documents (Storage.dispatch limit s c).1.documents := by
  rw [Storage.dispatch_eq] at answer ⊢
  rcases documents_execute limit s c with ⟨-, failure, failed⟩ | ⟨effect, -⟩
  · rw [failed] at answer
    exact absurd (tellsError_of_answered answer) quiet
  · exact effect

/-- A command that is answered with an error has changed nothing. -/
theorem RepliesAgree.documents_of_dispatch_tells (agree : s.RepliesAgree) {v : Value}
    (answer : (Storage.dispatch limit s c).2 = .ok v) (tells : v.TellsError) :
    (Storage.dispatch limit s c).1.documents = s.documents := by
  rw [Storage.dispatch_eq] at answer ⊢
  rcases documents_execute limit s c with ⟨same, -⟩ | ⟨-, reply, outcome, settled⟩
  · exact same
  · rcases settled agree with same | ⟨shown, present, quiet⟩
    · exact same
    · rw [outcome, present] at answer
      cases answer
      exact absurd tells quiet

end

end Store

/-! ## Main statement -/

/-- The command in what a generator answers. -/
def Generation.command? (generation : Generation) : Option Command :=
  match generation with
  | .error _ => none
  | .ok draft => Command.ofText? (Draft.command draft).toList

namespace Desk

/-- A query ends in a fault or with an error before its text is known to be a command, and then the
store is as it was, or it is answered as its command is. -/
theorem answer_cases (desk : Desk) (s : Store) (query : Query) (generation : Generation) :
    let q := desk.answer s query generation
    (q.store = s ∧ ((∃ fault, q.result = .error fault) ∨
      ∃ e : Envelope, q.result = .ok e ∧ e.result.TellsError)) ∨
    ∃ c, generation.command? = some c ∧ q.store = (Storage.dispatch desk.limit s c).1 ∧
      ((∃ fault fault', q.result = .error fault ∧
          (Storage.dispatch desk.limit s c).2 = .error fault') ∨
        ∃ e : Envelope, q.result = .ok e ∧ (Storage.dispatch desk.limit s c).2 = .ok e.result) := by
  intro q
  by_cases missing : query.IsMissing
  · have refused : q = _ := answer_of_isMissing missing generation
    rw [refused]
    exact .inl ⟨rfl, .inl ⟨_, rfl⟩⟩
  obtain ⟨text, rfl, visible⟩ := query.exists_text missing
  cases generation with
  | error fault =>
    obtain ⟨store, result⟩ := desk.answer_of_error (s := s) visible fault
    exact .inl ⟨store, .inl ⟨_, result⟩⟩
  | ok draft =>
    have drafted : q = desk.answerDraft s text draft := answer_of_draft visible draft
    rw [drafted]
    obtain ⟨events, ⟨-, carried⟩ | ⟨c, recognised, carried⟩⟩ :=
      carryOut_cases desk s (Draft.command draft)
    · obtain ⟨store, result⟩ := answerDraft_of_carryOut text carried
      refine .inl ⟨store, .inr ⟨_, result, _, rfl, ?_⟩⟩
      exact List.mem_cons_self
    · refine .inr ⟨c, recognised, ?_⟩
      cases answer : (Storage.dispatch desk.limit s c).2 with
      | error fault =>
        rw [answer] at carried
        obtain ⟨store, result⟩ := answerDraft_of_carryOut_error text carried
        exact ⟨store, .inl ⟨_, fault, result, rfl⟩⟩
      | ok v =>
        rw [answer] at carried
        obtain ⟨store, result⟩ := answerDraft_of_carryOut text carried
        exact ⟨store, .inr ⟨_, result, rfl⟩⟩

/-- **The frame of a query.** Whatever is asked, whatever the generator answers and whatever the
store holds, the documents of every collection are as they were or as the command in the draft makes
them. A query that ends in a fault has changed nothing; one that is answered without an error has
had the effect of its command; and one that is answered with an error has changed nothing, as long
as the replies of the store agree with what it does. Where a document is gone from its collection,
the draft was a deletion there, or it dropped the database, without arguments. -/
theorem documents_frame (desk : Desk) (s : Store) (query : Query) (generation : Generation) :
    let q := desk.answer s query generation
    (q.store.documents = s.documents ∨
      ∃ c, generation.command? = some c ∧ c.Effect s.documents q.store.documents) ∧
    (∀ fault, q.result = .error fault → q.store.documents = s.documents) ∧
    (∀ e : Envelope, q.result = .ok e → ¬ e.result.TellsError →
      ∃ c, generation.command? = some c ∧ c.Effect s.documents q.store.documents) ∧
    (s.RepliesAgree → ∀ e : Envelope, q.result = .ok e → e.result.TellsError →
      q.store.documents = s.documents) ∧
    (∀ name, ¬ (s.documents name).Sublist (q.store.documents name) →
      ∃ c, generation.command? = some c ∧ c.Removes name) := by
  intro q
  rcases desk.answer_cases s query generation with
    ⟨store, ended⟩ | ⟨c, drafted, store, outcome⟩
  · have same : q.store.documents = s.documents := congrArg Store.documents store
    refine ⟨.inl same, fun _ _ => same, ?_, fun _ _ _ _ => same, ?_⟩
    · intro e result quiet
      rcases ended with ⟨fault, failed⟩ | ⟨e', told, tells⟩
      · rw [failed] at result
        cases result
      · rw [told] at result
        cases result
        exact absurd tells quiet
    · intro name gone
      rw [same] at gone
      exact absurd (List.Sublist.refl _) gone
  · have dispatched : q.store.documents = (Storage.dispatch desk.limit s c).1.documents :=
      congrArg Store.documents store
    rw [dispatched]
    have frame := Store.frame_dispatch desk.limit s c
    refine ⟨frame.imp_right fun effect => ⟨c, drafted, effect⟩, ?_, ?_, ?_, ?_⟩
    · intro fault failed
      rcases outcome with ⟨_, fault', -, answer⟩ | ⟨e, result, -⟩
      · exact Store.documents_of_dispatch_error answer
      · rw [result] at failed
        cases failed
    · intro e told quiet
      rcases outcome with ⟨fault, _, failed, -⟩ | ⟨e', result, answer⟩
      · rw [failed] at told
        cases told
      · rw [result] at told
        cases told
        exact ⟨c, drafted, Store.effect_of_dispatch_ok answer quiet⟩
    · intro agree e told tells
      rcases outcome with ⟨fault, _, failed, -⟩ | ⟨e', result, answer⟩
      · rw [failed] at told
        cases told
      · rw [result] at told
        cases told
        exact agree.documents_of_dispatch_tells answer tells
    · intro name gone
      rcases frame with same | effect
      · rw [same] at gone
        exact absurd (List.Sublist.refl _) gone
      · exact ⟨c, drafted, effect.removes gone⟩

end Desk

end QueryDesk
