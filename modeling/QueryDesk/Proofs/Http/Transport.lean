import Mathlib
import QueryDesk.Http.Service
import QueryDesk.Proofs.Desk.Answer

/-!
# The transport law

What the status of a query's response says. A query that is missing or blank is answered with 400
before anyone is asked, a generator that fails with 500 before the store is; everything else is 200
with an envelope, whatever the generator wrote and whatever the store did (`transport_law`). The
envelope holds finite numbers only. What can still go wrong after the status is settled is the
writing of the body: a whole number in it may have too many digits, or a string no form in UTF-8
(`Exchange.Sends`, `names_without_a_form_are_not_sent`).
-/

namespace QueryDesk

namespace Http

/-! ## The body -/

/-- A body is sent as the text of its JSON on the wire. -/
theorem bodyOf_ofJson_eq_ok_iff {j : Json} (finite : j.isFinite = true) {body : String} :
    bodyOf (.ofJson j) = .ok body ↔ j.wire? = some (.ofString body) := by
  simp only [bodyOf, bind_eq_ok_iff, mapError_eq_ok_iff, Value.verbatim_ofJson_eq_ok_iff]
  constructor
  · rintro ⟨_, ⟨-, rfl⟩, sent⟩
    cases text : j.wire? with
    | none =>
      rw [text] at sent
      cases sent
    | some written =>
      rw [text] at sent
      rw [Text.encode_eq_ok_iff.mp (mapError_eq_ok_iff.mp sent)]
  · intro text
    refine ⟨j, ⟨⟨finite, (Json.wire?_eq_some_iff.mp text).1⟩, rfl⟩, ?_⟩
    rw [text]
    exact mapError_eq_ok_iff.mpr (Text.encode_eq_ok_iff.mpr rfl)

/-- A body has a text to be sent exactly if its whole numbers are short and its strings have a form
in UTF-8. -/
theorem exists_bodyOf_iff {j : Json} (finite : j.isFinite = true) :
    (∃ body, bodyOf (.ofJson j) = .ok body) ↔ j.hasFewDigits = true ∧ j.isEncodable = true := by
  have characters : (Text.ofList (j.write .wire)).isEncodable = j.isEncodable :=
    j.all_isCharacter_write
  simp only [bodyOf_ofJson_eq_ok_iff finite, Json.wire?_eq_some_iff]
  rw [exists_and_left, ← characters, Text.isEncodable_iff]
  simp only [eq_comm]

/-! ## The exchange -/

/-- What becomes of the body of an exchange: it is JSON with finite numbers, and it is delivered with
the status of the exchange if no whole number in it has too many digits and all strings in it have a
form in UTF-8. In any other case a fault escapes, and the server answers in its own way. -/
structure Exchange.Sends (e : Exchange) (origins : Origins) (r : Request) (j : Json) : Prop where
  held : e.body = some (.ofJson j)
  finite : j.isFinite = true
  sent : j.hasFewDigits = true → j.isEncodable = true →
    ∃ response, e.delivered origins r = (response, none) ∧ response.status = e.status ∧
      j.wire? = some (.ofString response.body)
  unsent : ¬ (j.hasFewDigits = true ∧ j.isEncodable = true) →
    ∃ fault, e.delivered origins r = (.internalError, some fault)

theorem Exchange.delivered_of_bodyOf {e : Exchange} {body : Value} {text : String}
    (held : e.body = some body) (written : bodyOf body = .ok text) (origins : Origins)
    (r : Request) :
    e.delivered origins r = ({
      status := e.status
      headers := Response.jsonType :: (e.headers ++ (origins.header? (r.header? "origin")).toList)
      body := text }, none) := by
  rw [Exchange.delivered, Exchange.response, held]
  simp only []
  rw [Response.ofValue, written]
  rfl

theorem Exchange.delivered_of_bodyOf_error {e : Exchange} {body : Value} {fault : Fault}
    (held : e.body = some body) (unwritten : bodyOf body = .error fault) (origins : Origins)
    (r : Request) : e.delivered origins r = (.internalError, some fault) := by
  rw [Exchange.delivered, Exchange.response, held]
  simp only []
  rw [Response.ofValue, unwritten]
  rfl

theorem Exchange.exists_sends {e : Exchange} {body : Value} (finite : body.IsFinite)
    (held : e.body = some body) (origins : Origins) (r : Request) : ∃ j, e.Sends origins r j := by
  obtain ⟨j, rfl, finite⟩ := finite
  refine ⟨j, held, finite, ?_, ?_⟩
  · intro short encodable
    obtain ⟨text, written⟩ := (exists_bodyOf_iff finite).mpr ⟨short, encodable⟩
    exact ⟨_, e.delivered_of_bodyOf held written origins r, rfl,
      (bodyOf_ofJson_eq_ok_iff finite).mp written⟩
  · intro unfit
    cases outcome : bodyOf (.ofJson j) with
    | ok text => exact absurd ((exists_bodyOf_iff finite).mp ⟨text, outcome⟩) unfit
    | error fault => exact ⟨fault, e.delivered_of_bodyOf_error held outcome origins r⟩

/-- A request to the place of queries is answered by what the desk makes of its query. -/
theorem exchange_of_query {desk : Desk} {s : Store} {r : Request} {query : Query}
    (routed : Route.ofPath? r.place = some .query) (posted : r.method = Route.query.method)
    (accepted : r.query = .ok query) (generation : Generation) :
    exchange desk s r generation =
      { store := (desk.answer s query generation).store
        asked := (desk.answer s query generation).asked
        status := (answerParts (desk.answer s query generation).result).1
        body := some (answerParts (desk.answer s query generation).result).2 } := by
  unfold exchange
  rw [routed]
  simp only []
  rw [if_neg (not_not_intro posted), exchangeQuery, accepted]

theorem isFinite_envelope {e : Envelope} (finite : e.result.IsFinite) :
    e.document.IsFinite := by
  refine Value.isFinite_doc ?_
  simp only [List.forall_mem_cons]
  exact ⟨Value.isFinite_str _, Value.isFinite_str _, finite, List.forall_mem_nil _⟩

section

variable {s : Store} {r : Request} {query : Query} (desk : Desk)

theorem isFinite_error (message : Text) :
    (Value.doc [("error", .str message)]).IsFinite := by
  refine Value.isFinite_doc ?_
  simp only [List.forall_mem_cons]
  exact ⟨Value.isFinite_str _, List.forall_mem_nil _⟩

/-- An exchange whose query is missing asks nobody. -/
theorem exchange_of_isMissing (routed : Route.ofPath? r.place = some .query)
    (posted : r.method = Route.query.method) (accepted : r.query = .ok query)
    (missing : query.IsMissing) (generation : Generation) :
    (exchange desk s r generation).status = 400 ∧
      (exchange desk s r generation).asked = none ∧
      (exchange desk s r generation).store = s ∧
      ∃ body, (exchange desk s r generation).body = some body ∧ body.IsFinite := by
  rw [exchange_of_query routed posted accepted, Desk.answer_of_isMissing missing]
  exact ⟨rfl, rfl, rfl, _, rfl, isFinite_error _⟩

/-- An exchange whose generator fails leaves the store alone. -/
theorem exchange_of_error (routed : Route.ofPath? r.place = some .query)
    (posted : r.method = Route.query.method) (accepted : r.query = .ok query)
    (present : ¬ query.IsMissing) (fault : Fault) :
    (exchange desk s r (.error fault)).status = 500 ∧
      (exchange desk s r (.error fault)).store = s ∧
      ∃ body, (exchange desk s r (.error fault)).body = some body ∧ body.IsFinite := by
  obtain ⟨text, rfl, visible⟩ := query.exists_text present
  obtain ⟨store, result⟩ := desk.answer_of_error (s := s) visible fault
  rw [exchange_of_query routed posted accepted, store, result]
  refine ⟨rfl, rfl, _, rfl, ?_⟩
  refine Value.isFinite_doc ?_
  simp only [List.forall_mem_cons]
  exact ⟨Value.isFinite_str _, Value.isFinite_str _, List.forall_mem_nil _⟩

/-- An exchange whose generator answers has an envelope. -/
theorem exchange_of_draft (routed : Route.ofPath? r.place = some .query)
    (posted : r.method = Route.query.method) (accepted : r.query = .ok query)
    (present : ¬ query.IsMissing) (faults : s.FaultsReported) (draft : Option Text) :
    (exchange desk s r (.ok draft)).status = 200 ∧
      ∃ text result, query = some text ∧
        (exchange desk s r (.ok draft)).body =
          some (.doc [("userQuery", .str text), ("generatedCommand", .str (Draft.command draft)),
            ("dbResult", result)]) ∧
        desk.Settles s (exchange desk s r (.ok draft)).store (Draft.command draft) result := by
  obtain ⟨text, rfl, visible⟩ := query.exists_text present
  obtain ⟨s', result, events, carried, settles⟩ :=
    Desk.exists_carryOut faults desk (Draft.command draft)
  obtain ⟨store, answer⟩ := Desk.answerDraft_of_carryOut text carried
  rw [exchange_of_query routed posted accepted, Desk.answer_of_draft visible, store, answer]
  exact ⟨rfl, text, result, rfl, rfl, settles⟩

/-- **The transport law.** For every request to the place of queries whose body is accepted, every
outcome of the generator and every store that raises nothing but faults of commands: the status is
400 exactly if the query is missing, and then nobody is asked; it is 500 exactly if the generator
was asked and failed, and then the store is left alone; otherwise it is 200 with an envelope of the
query, the command of the draft and what that command settles with. The body holds finite numbers
only, as long as the server counts in whole numbers, and then it is delivered with this status,
exactly if it can be written and put into UTF-8. -/
theorem transport_law (origins : Origins) (generation : Generation)
    (routed : Route.ofPath? r.place = some .query) (posted : r.method = Route.query.method)
    (accepted : r.query = .ok query) (faults : s.FaultsReported) :
    let e := exchange desk s r generation
    (e.status = 400 ↔ query.IsMissing) ∧
      (e.status = 400 → e.asked = none ∧ e.store = s) ∧
      (e.status = 500 ↔ ¬ query.IsMissing ∧ ∃ fault, generation = .error fault) ∧
      (e.status = 500 → e.store = s) ∧
      (e.status ≠ 400 → e.status ≠ 500 → e.status = 200 ∧
        ∃ text draft result, query = some text ∧ generation = .ok draft ∧
          e.body = some (.doc [("userQuery", .str text),
            ("generatedCommand", .str (Draft.command draft)), ("dbResult", result)]) ∧
          desk.Settles s e.store (Draft.command draft) result) ∧
      (s.HasWholeCounts → ∃ j, e.Sends origins r j) := by
  intro e
  by_cases missing : query.IsMissing
  · obtain ⟨status, asked, store, body, held, finite⟩ :=
      exchange_of_isMissing (s := s) desk routed posted accepted missing generation
    have answered : e.status ≠ 500 := ne_of_eq_of_ne status (by decide)
    refine ⟨iff_of_true status missing, fun _ => ⟨asked, store⟩, ?_, fun _ => store, ?_,
      fun _ => ?_⟩
    · exact iff_of_false answered fun ⟨present, _⟩ => present missing
    · intro other
      exact absurd status other
    · exact e.exists_sends finite held origins r
  · cases generation with
    | error fault =>
      obtain ⟨status, store, body, held, finite⟩ :=
        exchange_of_error (s := s) desk routed posted accepted missing fault
      have admitted : e.status ≠ 400 := ne_of_eq_of_ne status (by decide)
      refine ⟨iff_of_false admitted missing, fun refused => absurd refused admitted, ?_,
        fun _ => store, ?_, fun _ => ?_⟩
      · exact iff_of_true status ⟨missing, fault, rfl⟩
      · intro _ other
        exact absurd status other
      · exact e.exists_sends finite held origins r
    | ok draft =>
      obtain ⟨status, text, result, found, held, settles⟩ :=
        exchange_of_draft desk routed posted accepted missing faults draft
      have admitted : e.status ≠ 400 := ne_of_eq_of_ne status (by decide)
      have answered : e.status ≠ 500 := ne_of_eq_of_ne status (by decide)
      refine ⟨iff_of_false admitted missing, fun refused => absurd refused admitted, ?_,
        fun failed => absurd failed answered, ?_, fun whole => ?_⟩
      · refine iff_of_false answered ?_
        rintro ⟨-, fault, failed⟩
        cases failed
      · intro _ _
        exact ⟨status, text, draft, result, found, rfl, held, settles⟩
      · have finite := isFinite_envelope (e := ⟨text, Draft.command draft, result⟩)
          (settles.isFinite whole)
        exact e.exists_sends finite held origins r

end

/-- A store that fails is answered for with 200, as long as its fault concerns the command. -/
theorem failing_store_is_answered :
    let r : Request :=
      { method := "POST"
        path := "/api/mongo-ai"
        headers := [("Content-Type", "application/json")]
        body := [0x7b, 0x22, 0x71, 0x75, 0x65, 0x72, 0x79, 0x22, 0x3a, 0x22, 0x61, 0x22, 0x7d] }
    let s : Store := { collections := [{ name := "c", fault := some ⟨.operation, "down"⟩ }] }
    let e := exchange {} s r (.ok (some "db.c.find()"))
    r.query = .ok (some "a") ∧ s.FaultsReported ∧ e.status = 200 ∧ ∃ j, e.Sends .any r j := by
  intro r s e
  have routed : Route.ofPath? r.place = some .query := by decide
  -- the body spells an object with the query `a`
  have accepted : r.query = .ok (some "a") := by
    have typed : r.header? "content-type" = some "application/json" := by decide
    have held : bodyValue (some "application/json") r.body =
        .ok (.obj [("query", .str "a")]) := by cbv
    rw [Request.query, typed, held]
    rfl
  have faults : s.FaultsReported := by
    constructor
    · intro fault raised
      cases raised
    · intro c member fault raised
      rw [List.mem_singleton.mp member] at raised
      cases raised
      rfl
  have whole : s.HasWholeCounts := by
    intro c member reply given
    rw [List.mem_singleton.mp member] at given
    cases given
  have present : ¬ Query.IsMissing (some "a") := fun missing => absurd (missing "a" rfl) (by decide)
  obtain ⟨refused, -, failed, -, envelope, responds⟩ :=
    transport_law {} .any (.ok (some "db.c.find()")) routed rfl accepted faults
  refine ⟨accepted, faults, ?_, responds whole⟩
  refine (envelope (fun status => present (refused.mp status)) fun status => ?_).1
  obtain ⟨-, fault, impossible⟩ := failed.mp status
  cases impossible

/-- An index whose field is named by half of a pair is created and reported under its name. The
status is 200, but the body with this name has no form in UTF-8, and another response is sent. -/
theorem names_without_a_form_are_not_sent :
    let r : Request :=
      { method := "POST"
        path := "/api/mongo-ai"
        headers := [("Content-Type", "application/json")]
        body := [0x7b, 0x22, 0x71, 0x75, 0x65, 0x72, 0x79, 0x22, 0x3a, 0x22, 0x71, 0x22, 0x7d] }
    let draft : Text := "db.c.createIndex(\x7b\"\\ud800\": \"text\"\x7d)"
    let name : Text := .ofList (.half 0 :: ("_text" : Text).toList)
    let e := exchange {} {} r (.ok (some draft))
    r.query = .ok (some "q") ∧ ({} : Store).FaultsReported ∧ e.status = 200 ∧
      e.body = some (.doc [("userQuery", .str "q"), ("generatedCommand", .str draft),
        ("dbResult", .str name)]) ∧
      ∃ fault, e.delivered .any r = (.internalError, some fault) ∧ fault.kind = .encoding := by
  intro r draft name e
  have routed : Route.ofPath? r.place = some .query := by decide
  have accepted : r.query = .ok (some "q") := by
    have typed : r.header? "content-type" = some "application/json" := by decide
    have held : bodyValue (some "application/json") r.body =
        .ok (.obj [("query", .str "q")]) := by cbv
    rw [Request.query, typed, held]
    rfl
  have faults : ({} : Store).FaultsReported := by
    constructor
    · intro fault raised
      cases raised
    · intro c member
      cases member
  have present : ¬ Query.IsMissing (some "q") := fun missing => absurd (missing "q" rfl) (by decide)
  obtain ⟨status, text, result, found, held, settles⟩ :=
    exchange_of_draft {} routed rfl accepted present faults (some draft)
  cases found
  have command : Draft.command (some draft) = draft := by decide
  let arguments : Text := "\x7b\"\\ud800\": \"text\"\x7d"
  have recognised : Command.ofText? draft.toList =
      some ⟨.collection "c", "createIndex", arguments⟩ := by decide
  have named : result = .str name := by
    have known : Command.operation? ⟨.collection "c", "createIndex", arguments⟩ =
        some (.collection "c" .createIndex) := by decide
    have asked : (Operation.collection "c" .createIndex).request 5 arguments =
        .ok (.collection "c" (.createIndex [(.ofList [.half 0], .str "text")])) := by cbv
    rw [command] at settles
    rcases settles with ⟨unknown, -⟩ | ⟨c, recognised', dispatched⟩
    · rw [recognised] at unknown
      cases unknown
    · rw [recognised] at recognised'
      cases recognised'
      have answer : (Storage.dispatch 5 ({} : Store)
          ⟨.collection "c", "createIndex", arguments⟩).2 = .ok (.str name) := by
        rw [Storage.dispatch_eq, Storage.execute_of_request _ known asked]
        rfl
      have same := (congrArg Prod.snd dispatched).symm.trans answer
      cases same
      rfl
  subst named
  rw [command] at held
  refine ⟨accepted, faults, status, held, ?_⟩
  obtain ⟨fault, unwritten, encoding⟩ : ∃ fault, bodyOf (.doc [("userQuery", .str "q"),
      ("generatedCommand", .str draft), ("dbResult", .str name)]) = .error fault ∧
      fault.kind = .encoding := ⟨_, rfl, rfl⟩
  exact ⟨fault, e.delivered_of_bodyOf_error held unwritten .any r, encoding⟩

end Http

end QueryDesk
