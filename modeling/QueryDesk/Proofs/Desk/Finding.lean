import QueryDesk.Proofs.Desk.Fidelity
import QueryDesk.Proofs.Store.Documents
import QueryDesk.Proofs.Store.Total

/-!
# What is found

A find gives the first documents that satisfy its filter, as many as the limit allows, in the order
of the collection (`find_shows_the_first_matches`). Each is shown in its plain form; if one of them
has none, the answer is an error. Nothing else has a say in the answer: not the documents behind the
limit, not those that do not satisfy the filter, and not what follows the first segment of the
argument text.

* `Store.dispatch_of_asked`: a command for a collection that works is answered with what the reply
  of the store is shown as. A collection works if the store was told no fault for it.
* `presentDocuments_cases`: documents are shown one by one, up to the first that cannot be shown.
-/

namespace QueryDesk

/-! ## Collections that work -/

namespace Store

variable {s : Store} {name : Text} {limit : Nat}

/-- A request to a collection that works is carried out if it is accepted. -/
theorem perform_touch {request : CollectionRequest}
    (accepted : (Request.collection name request).refusal? s = none)
    (working : (s.collection name).fault = none) :
    (s.touch name).perform (.collection name request) =
      ((s.touch name).record (.collection name request)).onCollection name request := by
  have accepted' : (Request.collection name request).refusal? (s.touch name) = none := by
    rw [touch_eq]
    cases request <;> exact accepted
  have working' : (Request.collection name request).scriptedFault? (s.touch name) = none := by
    rw [Request.scriptedFault?, collection_touch, working]
  exact perform_of_accepted accepted' working'

/-- A command for a collection that works is answered with what the reply is shown as. -/
theorem dispatch_of_asked {operation : CollectionOperation} {arguments : Text}
    {request : CollectionRequest} (asked : operation.request limit arguments = .ok request)
    (accepted : (Request.collection name request).refusal? s = none)
    (working : (s.collection name).fault = none) {s' : Store} {reply : Reply}
    (replied : ((s.touch name).record (.collection name request)).onCollection name request =
      (s', .ok reply)) :
    Storage.dispatch limit s ⟨.collection name, operation.name, arguments⟩ =
      (s', answered (reply.present.mapError .store)) := by
  have known := operation?_collection name arguments operation
  have asked' : (Operation.collection name operation).request limit arguments =
      .ok (.collection name request) := by
    rw [Operation.request, asked]
    rfl
  have performed : Storage.perform (Storage.addressed s (.collection name operation))
      (.collection name request) = (s', .ok reply) := (perform_touch accepted working).trans replied
  rw [Storage.dispatch_eq, Storage.execute_of_request s known asked', Storage.fulfil, performed]

/-- A command with strict arguments for a collection that works is answered with the reply. -/
theorem dispatch_of_denotes {operation : CollectionOperation} {arguments : Text}
    {request : CollectionRequest} (denotes : Denotes limit operation arguments request)
    (accepted : (Request.collection name request).refusal? s = none)
    (working : (s.collection name).fault = none) {s' : Store} {reply : Reply} {v : Value}
    (replied : ((s.touch name).record (.collection name request)).onCollection name request =
      (s', .ok reply)) (shown : reply.present = .ok v) :
    Storage.dispatch limit s ⟨.collection name, operation.name, arguments⟩ = (s', .ok v) := by
  rw [dispatch_of_asked denotes.request_eq accepted working replied, shown]
  rfl

end Store

/-! ## Showing documents -/

/-- Items are shown one by one, up to the first that has no plain form. -/
theorem Value.plainItems_cases (items : List Value) :
    (∃ js, plainItems items = .ok js ∧ List.Forall₂ (fun item j => item.plain = .ok j) items js) ∨
      ∃ item ∈ items, ∃ reason, item.plain = .error reason ∧
        plainItems items = .error reason := by
  induction items with
  | nil => exact .inl ⟨[], rfl, .nil⟩
  | cons item rest ih =>
    rw [plainItems]
    cases first : item.plain with
    | error reason => exact .inr ⟨item, List.mem_cons_self, reason, first, rfl⟩
    | ok j =>
      rcases ih with ⟨js, others, each⟩ | ⟨other, member, reason, failed, others⟩
      · rw [others]
        exact .inl ⟨j :: js, rfl, .cons first each⟩
      · rw [others]
        exact .inr ⟨other, List.mem_cons_of_mem _ member, reason, failed, rfl⟩

/-- What each of the documents is shown as. -/
def ShownAs (documents : List Document) (shown : List Value) : Prop :=
  List.Forall₂ (fun d v => (Value.doc d).present = .ok v) documents shown

/-- A document that cannot be shown. -/
def Document.IsHidden (d : Document) : Prop :=
  ∃ fault, (Value.doc d).present = .error fault

namespace ShownAs

variable {documents : List Document} {shown : List Value}

theorem unique (each : ShownAs documents shown) {other : List Value}
    (each' : ShownAs documents other) : shown = other := by
  induction each generalizing other with
  | nil =>
    cases each'
    rfl
  | cons first _ ih =>
    cases each' with
    | cons first' rest' =>
      rw [first] at first'
      cases first'
      rw [ih rest']

theorem not_isHidden (each : ShownAs documents shown) : ∀ d ∈ documents, ¬ d.IsHidden := by
  induction each with
  | nil => exact List.forall_mem_nil _
  | cons first _ ih =>
    rw [List.forall_mem_cons]
    refine ⟨?_, ih⟩
    rintro ⟨fault, failed⟩
    rw [first] at failed
    cases failed

end ShownAs

/-- Documents are shown one by one, up to the first that cannot be shown. -/
theorem presentDocuments_cases (documents : List Document) :
    (∃ shown, presentDocuments documents = .ok (.arr shown) ∧ ShownAs documents shown) ∨
      ∃ d ∈ documents, ∃ fault, (Value.doc d).present = .error fault ∧
        presentDocuments documents = .error fault := by
  rw [presentDocuments]
  rcases Value.plainItems_cases (documents.map .doc) with
    ⟨js, plain, each⟩ | ⟨item, member, reason, failed, plain⟩
  · refine .inl ⟨js.map .ofJson, Value.present_eq_ok_iff.mpr ⟨.arr js, ?_, ?_⟩, ?_⟩
    · rw [Value.plain, plain]
      rfl
    · rw [Value.ofJson, Value.ofItems_eq_map]
    · rw [ShownAs, List.forall₂_map_right_iff]
      refine (List.forall₂_map_left_iff.mp each).imp fun d j plain => ?_
      exact Value.present_eq_ok_iff.mpr ⟨j, plain, rfl⟩
  · obtain ⟨d, found, rfl⟩ := List.mem_map.mp member
    have hidden := Value.present_eq_error_iff.mpr ⟨reason, failed, rfl⟩
    refine .inr ⟨d, found, reason.fault, hidden, ?_⟩
    refine Value.present_eq_error_iff.mpr ⟨reason, ?_, rfl⟩
    rw [Value.plain, plain]
    rfl

/-! ## Finding -/

open Command

namespace Store

/-- The first documents of a collection that satisfy a filter. -/
def firstMatches (s : Store) (name : Text) (filter : Members Json) (limit : Nat) :
    List Document :=
  ((s.documents name).filter (Document.satisfies · filter)).take limit

variable (limit : Nat) {s : Store} {name text : Text} {filter : Members Json} {repaired : Bool}

theorem mem_firstMatches {d : Document} (found : d ∈ s.firstMatches name filter limit) :
    d ∈ s.documents name ∧ d.satisfies filter = true :=
  List.mem_filter.mp (List.mem_of_mem_take found)

/-- The first segment of strict JSON is all of it, so it is decoded to what the text says. -/
theorem decode_firstSegment {s : List Letter} {v : Json} (read : Argument.readStrict s = .ok v) :
    Argument.decode (firstSegment s) = .ok ⟨v, false⟩ := by
  have first : firstSegment s = Text.trim s := by
    rw [firstSegment, segments_of_readStrict read]
    rfl
  rw [first]
  exact Argument.decode_of_readStrict ((readStrict_trim s).trans read)

/-- A find is answered with what it finds, and leaves the collections as they are. -/
theorem dispatch_find_eq
    (decodes : Argument.decode (firstSegment text.toList) = .ok ⟨.obj filter, repaired⟩)
    (working : (s.collection name).fault = none) :
    Storage.dispatch limit s ⟨.collection name, "find", text⟩ =
      ((s.touch name).record (.collection name (.find filter limit)),
        answered ((presentDocuments (s.firstMatches name filter limit)).mapError .store)) := by
  have asked : CollectionOperation.find.request limit text = .ok (.find filter limit) := by
    rw [CollectionOperation.request, Interpretation.document, Interpretation.decoded, decodes]
    rfl
  have documents : ((s.touch name).record (.collection name (.find filter limit))).documents =
    s.documents := s.documents_touch name
  have found : ((s.touch name).record (.collection name (.find filter limit))).firstMatches name
      filter limit = s.firstMatches name filter limit := by
    rw [firstMatches, documents, firstMatches]
  rw [← found]
  exact dispatch_of_asked asked rfl working rfl

end Store

theorem answered_of_present_error {v : Value} {fault : Fault} (failed : v.present = .error fault) :
    answered (.error (.store fault)) =
      .ok (.doc [("error", .str (Failure.introduction ++ fault.text))]) := by
  rw [answered, Failure.escaping?, if_pos (Value.isReported_of_present failed)]
  rfl

/-- The answer that shows some documents: an array of them, if all can be shown, or an error. -/
theorem answered_presentDocuments_cases (documents : List Document) :
    let answer := answered ((presentDocuments documents).mapError .store)
    (∃ shown, answer = .ok (.arr shown) ∧ ShownAs documents shown) ∨
      (∃ message, answer = .ok (.doc [("error", .str message)])) ∧ ∃ d ∈ documents, d.IsHidden := by
  intro answer
  have told : answer = answered ((presentDocuments documents).mapError .store) := rfl
  rcases presentDocuments_cases documents with
    ⟨shown, presented, each⟩ | ⟨d, member, fault, hidden, presented⟩
  · rw [presented] at told
    exact .inl ⟨shown, told, each⟩
  · rw [presented] at told
    exact .inr ⟨⟨_, told.trans (answered_of_present_error hidden)⟩, d, member, fault, hidden⟩

theorem answered_presentDocuments_eq_arr_iff {documents : List Document} {shown : List Value} :
    answered ((presentDocuments documents).mapError .store) = .ok (.arr shown) ↔
      ShownAs documents shown := by
  rcases answered_presentDocuments_cases documents with
    ⟨shown', answer, each⟩ | ⟨⟨message, answer⟩, d, member, hidden⟩
  · rw [answer]
    constructor
    · rintro ⟨⟩
      exact each
    · intro each'
      rw [each.unique each']
  · rw [answer]
    constructor
    · rintro ⟨⟩
    · intro each
      exact absurd hidden (each.not_isHidden d member)

theorem answered_presentDocuments_eq_error_iff {documents : List Document} :
    (∃ message, answered ((presentDocuments documents).mapError .store) =
        .ok (.doc [("error", .str message)])) ↔ ∃ d ∈ documents, d.IsHidden := by
  rcases answered_presentDocuments_cases documents with ⟨shown, answer, each⟩ | ⟨error, hidden⟩
  · rw [answer]
    constructor
    · rintro ⟨message, ⟨⟩⟩
    · rintro ⟨d, member, hidden⟩
      exact absurd hidden (each.not_isHidden d member)
  · exact ⟨fun _ => hidden, fun _ => error⟩

/-- **A find shows the first documents that it is about.** Let the first segment of the argument
text be decoded to a filter, and let the collection work. Then a find is answered with the plain
forms of the first documents that satisfy the filter, as many as the limit allows, in their order,
or with an error if one of these cannot be shown. Any other find with this filter, with any text
behind its first segment and on any store, is answered in the same way if its first matches are the
same. The collections are left as they were. -/
theorem find_shows_the_first_matches (limit : Nat) (s : Store) (name : Text) {text : Text}
    {filter : Members Json} {repaired : Bool}
    (decodes : Argument.decode (firstSegment text.toList) = .ok ⟨.obj filter, repaired⟩)
    (working : (s.collection name).fault = none) :
    let found := s.firstMatches name filter limit
    let outcome := Storage.dispatch limit s ⟨.collection name, "find", text⟩
    (∀ shown, outcome.2 = .ok (.arr shown) ↔ ShownAs found shown) ∧
      ((∃ message, outcome.2 = .ok (.doc [("error", .str message)])) ↔
        ∃ d ∈ found, d.IsHidden) ∧
      (∀ (s' : Store) (text' : Text) (repaired' : Bool),
        Argument.decode (firstSegment text'.toList) = .ok ⟨.obj filter, repaired'⟩ →
        (s'.collection name).fault = none → s'.firstMatches name filter limit = found →
        (Storage.dispatch limit s' ⟨.collection name, "find", text'⟩).2 = outcome.2) ∧
      ∀ other, outcome.1.collection other = s.collection other := by
  intro found outcome
  have asked : outcome = _ := Store.dispatch_find_eq limit decodes working
  have answer : outcome.2 = answered ((presentDocuments found).mapError .store) :=
    congrArg Prod.snd asked
  refine ⟨fun shown => ?_, ?_, ?_, fun other => ?_⟩
  · rw [answer]
    exact answered_presentDocuments_eq_arr_iff
  · rw [answer]
    exact answered_presentDocuments_eq_error_iff
  · intro s' text' repaired' decodes' working' found'
    rw [Store.dispatch_find_eq limit decodes' working', found', answer]
  · rw [asked]
    exact s.collection_touch name other

/-- The second match is the last that the limit allows. It stands behind a document that is not
asked for, and before another match; neither of these could be shown. The filter is not strict JSON,
and what follows it is none at all. -/
theorem find_stops_at_the_limit :
    let s : Store := { collections := [{ name := "c", documents := [
      [("a", .int 1), ("x", .double .nan)], [("a", .int 2), ("x", .uuid [])],
      [("a", .bool true)], [("a", .int 1), ("x", .uuid [])]] }] }
    (Storage.dispatch 2 s ⟨.collection "c", "find", "\x7ba: true\x7d, \x7b"⟩).2 = .ok (.arr [
      .doc [("a", .int 1), ("x", .doc [("$numberDouble", .str "NaN")])],
      .doc [("a", .bool true)]]) := by
  intro s
  have first : firstSegment ("\x7ba: true\x7d, \x7b" : Text).toList =
      ("\x7ba: true\x7d" : Text).toList := by decide
  have decodes : Argument.decode ("\x7ba: true\x7d" : Text).toList =
      .ok ⟨.obj [("a", .bool true)], true⟩ := by cbv
  rw [← first] at decodes
  have found : s.firstMatches "c" [("a", .bool true)] 2 =
      ([[("a", .int 1), ("x", .double .nan)], [("a", .bool true)]] : List Document) := by cbv
  refine ((find_shows_the_first_matches 2 s "c" decodes rfl).1 _).mpr ?_
  rw [found]
  exact .cons rfl (.cons rfl .nil)

end QueryDesk
