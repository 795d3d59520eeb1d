import Mathlib
import QueryDesk.Completion.Basic
import QueryDesk.Proofs.Json.Reading

/-!
# The answers that give a text

A body gives a text if it is JSON of a completion whose first choice has a message with this text.
Any other body that is delivered gives a failure of the service, and never another fault
(`text_of_completion`).

The steps to the text are taken blindly, and a place can be found in a text as well as in an array.
But it leads to a text again, in which there is no member (`walk?_str`). So a walk that ends with a
member has passed through objects and arrays only (`walk?_member_iff`), whatever the answer is.
-/

namespace QueryDesk.Completion

open Json (IsSpaces Spells)

/-! ## Walks -/

/-- From the first value the steps lead to the second, through objects by name and through arrays by
place. -/
inductive Leads : List Step → Json → Json → Prop
  | here (v : Json) : Leads [] v v
  | item {items : List Json} {n : Nat} {next v : Json} {rest : List Step}
      (found : items[n]? = some next) (on : Leads rest next v) :
      Leads (.place n :: rest) (.arr items) v
  | member {members : Members Json} {name : Text} {next v : Json} {rest : List Step}
      (found : members.get? name = some next) (on : Leads rest next v) :
      Leads (.member name :: rest) (.obj members) v

namespace Leads

variable {path rest : List Step} {value v : Json}

theorem exists_array {n : Nat} (leads : Leads (.place n :: rest) value v) :
    ∃ items next, value = .arr items ∧ items[n]? = some next ∧ Leads rest next v := by
  cases leads with
  | item found on => exact ⟨_, _, rfl, found, on⟩

theorem exists_object {name : Text} (leads : Leads (.member name :: rest) value v) :
    ∃ (members : Members Json) (next : Json),
      value = .obj members ∧ members.get? name = some next ∧ Leads rest next v := by
  cases leads with
  | member found on => exact ⟨_, _, rfl, found, on⟩

theorem walk? (leads : Leads path value v) : walk? path value = some v := by
  induction leads with
  | here => rfl
  | @item items n next v rest found _ ih =>
    rw [Completion.walk?, Step.find?, found]
    exact ih
  | @member members name next v rest found _ ih =>
    rw [Completion.walk?, Step.find?, found]
    exact ih

end Leads

/-- A walk through a text goes from place to place. -/
theorem walk?_str {path : List Step} {s : Text} {v : Json}
    (walked : walk? path (.str s) = some v) : ∀ step ∈ path, ∃ n, step = .place n := by
  induction path generalizing s with
  | nil => exact List.forall_mem_nil _
  | cons step rest ih =>
    cases step with
    | member name => cases walked
    | place n =>
      obtain ⟨next, found, on⟩ := Option.bind_eq_some_iff.mp walked
      obtain ⟨c, -, rfl⟩ := Option.map_eq_some_iff.mp found
      exact List.forall_mem_cons.mpr ⟨⟨n, rfl⟩, ih on⟩

/-- A walk that ends with a member has passed through objects and arrays only. -/
theorem walk?_member_iff (path : List Step) (name : Text) (value v : Json) :
    walk? (path ++ [.member name]) value = some v ↔ Leads (path ++ [.member name]) value v := by
  refine ⟨fun walked => ?_, Leads.walk?⟩
  induction path generalizing value with
  | nil =>
    obtain ⟨next, found, on⟩ := Option.bind_eq_some_iff.mp walked
    cases on
    cases value with
    | obj members => exact .member found (.here v)
    | _ => cases found
  | cons step rest ih =>
    obtain ⟨next, found, on⟩ := Option.bind_eq_some_iff.mp walked
    cases step with
    | member other =>
      cases value with
      | obj members => exact .member found (ih next on)
      | _ => cases found
    | place n =>
      cases value with
      | arr items => exact .item found (ih next on)
      | str s =>
        -- the text at this place has no member, but the walk ends with one
        obtain ⟨c, -, rfl⟩ := Option.map_eq_some_iff.mp found
        obtain ⟨m, place⟩ := walk?_str on (.member name) (by simp)
        cases place
      | _ => cases found

/-! ## Completions -/

/-- The answer is a completion with this text: the message of its first choice has it. -/
inductive IsCompletion (text : Text) : Json → Prop
  | intro {members first message : Members Json} {others : List Json}
      (choices : members.get? "choices" = some (.arr (.obj first :: others)))
      (ofFirst : first.get? "message" = some (.obj message))
      (content : message.get? "content" = some (.str text)) : IsCompletion text (.obj members)

theorem leads_textPath_iff {text : Text} {answer : Json} :
    Leads textPath answer (.str text) ↔ IsCompletion text answer := by
  constructor
  · intro leads
    obtain ⟨members, _, rfl, choices, leads⟩ := leads.exists_object
    obtain ⟨items, _, rfl, head, leads⟩ := leads.exists_array
    obtain ⟨first, _, rfl, ofFirst, leads⟩ := leads.exists_object
    obtain ⟨message, _, rfl, content, leads⟩ := leads.exists_object
    cases leads
    cases items with
    | nil => cases head
    | cons choice others =>
      cases head
      exact ⟨choices, ofFirst, content⟩
  · rintro ⟨choices, ofFirst, content⟩
    exact .member choices (.item rfl (.member ofFirst (.member content (.here _))))

theorem content_eq_ok_iff_walk? {answer : Json} {text : Text} :
    content answer = .ok text ↔ walk? textPath answer = some (.str text) := by
  rw [content]
  cases walk? textPath answer with
  | none => simp
  | some v => cases v <;> simp

/-- A text is taken from completions only. -/
theorem content_eq_ok_iff {answer : Json} {text : Text} :
    content answer = .ok text ↔ IsCompletion text answer := by
  have leads := walk?_member_iff [.member "choices", .place 0, .member "message"] "content" answer
    (.str text)
  exact content_eq_ok_iff_walk?.trans (leads.trans leads_textPath_iff)

/-- The failure of an answer without a text is one of the service. -/
theorem escaping?_of_content {answer : Json} {failure : Failure}
    (failed : content answer = .error failure) : failure.escaping? = none := by
  rw [content] at failed
  split at failed <;> cases failed <;> rfl

/-! ## Bodies -/

/-- The body is a text in bytes that spells the value between blanks. -/
def Encodes (body : List UInt8) (v : Json) : Prop :=
  ∃ before text after, IsSpaces before ∧ Spells .accepted (.value v) text ∧ IsSpaces after ∧
    Text.decode? body = some (before ++ (text ++ after))

theorem readBytes_eq_ok_iff {body : List UInt8} {v : Json} :
    Json.readBytes body = .ok v ↔ Encodes body v := by
  rw [Json.readBytes, Encodes]
  cases decoded : Text.decode? body with
  | none => simp
  | some s =>
    have read : (Json.read .accepted s).mapError Json.BytesFault.text = .ok v ↔
        Json.read .accepted s = .ok v := by
      cases Json.read .accepted s <;> simp [Except.mapError]
    simp only [Option.some.injEq]
    exact read.trans Json.read_eq_ok_iff

/-- The text of a body is that of the completion which it encodes. -/
theorem ofBody_eq_ok_iff {body : List UInt8} {text : Text} :
    ofBody body = .ok text ↔ ∃ answer, Encodes body answer ∧ IsCompletion text answer := by
  rw [ofBody]
  cases read : Json.readBytes body with
  | error fault =>
    refine ⟨nofun, ?_⟩
    rintro ⟨answer, encoded, -⟩
    rw [readBytes_eq_ok_iff.mpr encoded] at read
    cases read
  | ok answer =>
    have encoded := readBytes_eq_ok_iff.mp read
    refine content_eq_ok_iff.trans ⟨fun shaped => ⟨answer, encoded, shaped⟩, ?_⟩
    rintro ⟨answer', encoded, shaped⟩
    rw [readBytes_eq_ok_iff.mpr encoded] at read
    cases read
    exact shaped

theorem escaping?_of_ofBody {body : List UInt8} {failure : Failure}
    (failed : ofBody body = .error failure) : failure.escaping? = none := by
  rw [ofBody] at failed
  cases read : Json.readBytes body with
  | error fault =>
    rw [read] at failed
    cases failed
    rfl
  | ok answer =>
    rw [read] at failed
    exact escaping?_of_content failed

/-- **A text comes from completions, and from nothing else.** Let a query be sent to the service,
and let a body be delivered. If the body encodes a completion, that is, an object with a member
`choices` that is an array whose first item is an object with a member `message` that is an object
with a member `content` that is a text, then the draft is this text. There is a draft in no other
case: any other body, whether it is no text, no JSON or JSON of another shape, gives a failure of
the service. -/
theorem text_of_completion (config : Config) (instructions query : Text) {c : Call}
    (called : call config instructions query = .ok c) (body : List UInt8) :
    let outcome := complete config instructions query (.delivered body)
    outcome.1 = some c ∧
      (∀ text, outcome.2 = .ok text ↔ ∃ answer, Encodes body answer ∧ IsCompletion text answer) ∧
      ((¬ ∃ text answer, Encodes body answer ∧ IsCompletion text answer) →
        ∃ failure, outcome.2 = .error failure ∧ failure.escaping? = none) := by
  intro outcome
  have sent : outcome = (some c, ofBody body) := by
    change complete config instructions query (.delivered body) = _
    rw [complete, called]
    rfl
  rw [sent]
  refine ⟨rfl, fun text => ofBody_eq_ok_iff, fun other => ?_⟩
  cases drafted : ofBody body with
  | ok text => exact absurd ⟨text, ofBody_eq_ok_iff.mp drafted⟩ other
  | error failure => exact ⟨failure, rfl, escaping?_of_ofBody drafted⟩

/-- The choices of the second answer are a text. Its first character is found there, but has no
message. -/
theorem no_text_behind_a_text :
    let completion : String :=
      "\x7b\"choices\": [\x7b\"message\": \x7b\"content\": \"db\"\x7d\x7d, null]\x7d"
    let textForChoices : String := "\x7b\"choices\": \"ab\"\x7d"
    let draft (answer : String) : Except Failure Text :=
      (complete { key := .str "k" } "" "q" (.delivered (Text.utf8Bytes answer))).2
    draft completion = .ok "db" ∧
      ∃ failure, draft textForChoices = .error failure ∧ failure.escaping? = none := by
  intro completion textForChoices draft
  obtain ⟨c, called⟩ : ∃ c, call { key := .str "k" } "" "q" = .ok c := ⟨_, rfl⟩
  constructor
  · have read : Json.readBytes (Text.utf8Bytes completion) = .ok (.obj [("choices",
        .arr [.obj [("message", .obj [("content", .str "db")])], .null])]) := by cbv
    obtain ⟨-, drafted, -⟩ := text_of_completion _ "" "q" called (Text.utf8Bytes completion)
    exact (drafted "db").mpr ⟨_, readBytes_eq_ok_iff.mp read, .intro rfl rfl rfl⟩
  · have read : Json.readBytes (Text.utf8Bytes textForChoices) =
        .ok (.obj [("choices", .str "ab")]) := by cbv
    obtain ⟨-, -, failed⟩ := text_of_completion _ "" "q" called (Text.utf8Bytes textForChoices)
    refine failed ?_
    rintro ⟨text, answer, encoded, shaped⟩
    rw [readBytes_eq_ok_iff.mpr encoded] at read
    cases read
    cases shaped with
    | intro choices => cases choices

end QueryDesk.Completion
