import QueryDesk.Desk.Dispatch
import QueryDesk.Desk.Draft
import QueryDesk.Journal.Event
import QueryDesk.Inquiry.Envelope

/-!
# From a query to an answer

A query is put to the generator together with the instructions; the command in the generator's draft
is recognised and taken to the store; and the answer holds all of these. The steps are taken in this
order, and the first failure is the last step. A query that is missing or blank is refused before
the generator is asked, and a generator that fails leaves the store alone. Everything that goes
wrong later is told in the answer, apart from a fault that does not concern the command.

The generator is outside: `Desk.answer` is given what it would answer, and says what it was asked.
-/

namespace QueryDesk

/-- What a generator answers: a draft, which may be missing, or a fault. -/
abbrev Generation := Except Fault (Option Text)

structure Question where
  instructions : Text
  query : Text
  deriving DecidableEq, Repr

/-- Why a query has no answer. -/
inductive InquiryFault
  /-- The query is missing or blank. -/
  | missingQuery
  /-- The generator failed. -/
  | generation (reason : Text)
  /-- A fault that does not concern the command. -/
  | escaped (fault : Fault)
  deriving DecidableEq, Repr

def InquiryFault.message : InquiryFault → Text
  | missingQuery => "Query parameter is required in the request body."
  | generation reason => reason
  | escaped fault => fault.text

/-- What became of a query. -/
structure Inquiry where
  store : Store
  result : Except InquiryFault Envelope
  /-- What the generator was asked, if it was. -/
  asked : Option Question := none
  /-- What was written to the journal. -/
  events : List Event := []

/-- A desk that answers queries: what it tells the generator, and how many documents it shows. -/
structure Desk where
  instructions : Text := ""
  limit : Nat := 5

namespace Desk

/-- The result that tells that a text is no command. -/
def unparseableResult (command : Text) : Value :=
  .doc [("error", .str Command.unparseable), ("command", .str command)]

/-- The store, the result and the events of the text that was found in a draft. -/
def carryOut (desk : Desk) (s : Store) (text : Text) :
    Store × Except Fault Value × List Event :=
  match Command.ofText? text.toList with
  | none => (s, .ok (unparseableResult text), [.unparseable text])
  | some c =>
    match Storage.execute desk.limit s c with
    | (s, outcome) => (s, answered outcome, Event.ofExecution c outcome)

/-- The answer to a query that the generator has answered with a draft. -/
def answerDraft (desk : Desk) (s : Store) (query : Text) (draft : Option Text) : Inquiry :=
  let command := Draft.command draft
  let asked := some ⟨desk.instructions, query⟩
  let started := [Event.received query, .generated draft command]
  match desk.carryOut s command with
  | (store, .ok result, events) =>
    { store, asked
      result := .ok { userQuery := query, generatedCommand := command, result }
      events := started ++ events ++ [.responded] }
  -- the request ends here: nothing is told about a response
  | (store, .error fault, events) =>
    { store, asked
      result := .error (.escaped fault)
      events := started ++ events }

/-- The answer to a query, given what the generator answers if it is asked. -/
def answer (desk : Desk) (s : Store) (query : Query) (generation : Generation) : Inquiry :=
  match query with
  | none => { store := s, result := .error .missingQuery }
  | some query =>
    if Text.isBlankText query then { store := s, result := .error .missingQuery }
    else
      match generation with
      | .error fault =>
        { store := s
          result := .error (.generation fault.text)
          asked := some ⟨desk.instructions, query⟩
          events := [.received query, .generationFailed fault.text] }
      | .ok draft => desk.answerDraft s query draft

end Desk

end QueryDesk
