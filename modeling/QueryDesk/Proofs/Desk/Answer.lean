import QueryDesk.Inquiry.Basic
import QueryDesk.Proofs.Desk.Outcome

/-!
# The steps of an answer

A query that is missing is refused, and one whose generator fails ends there; both leave the store
alone (`Desk.answer_of_isMissing`, `Desk.answer_of_error`). Any other is answered by its draft
(`Desk.answer_of_draft`), which is no command, or is dispatched (`Desk.carryOut_cases`). As long as
the store raises nothing but faults of commands, every draft settles with a result
(`Desk.exists_carryOut`).
-/

namespace QueryDesk

/-- A query that is missing or blank. -/
def Query.IsMissing (query : Query) : Prop :=
  ∀ text ∈ query, Text.isBlankText text = true

theorem Query.exists_text {query : Query} (present : ¬ query.IsMissing) :
    ∃ text, query = some text ∧ ¬ Text.isBlankText text = true := by
  cases query with
  | none => exact absurd (fun _ impossible => nomatch impossible) present
  | some text =>
    refine ⟨text, rfl, ?_⟩
    intro blank
    apply present
    rintro _ ⟨rfl⟩
    exact blank

namespace Desk

variable {desk : Desk} {s : Store}

/-! ## Answers -/

theorem answer_of_isMissing {query : Query} (missing : query.IsMissing) (generation : Generation) :
    desk.answer s query generation = { store := s, result := .error .missingQuery } := by
  cases query with
  | none => rfl
  | some text =>
    unfold answer
    simp only []
    rw [if_pos (missing text rfl)]

theorem answer_of_error {text : Text} (visible : ¬ Text.isBlankText text = true)
    (fault : Fault) :
    (desk.answer s (some text) (.error fault)).store = s ∧
      (desk.answer s (some text) (.error fault)).result = .error (.generation fault.text) := by
  unfold answer
  simp only []
  rw [if_neg visible]
  exact ⟨rfl, rfl⟩

theorem answer_of_draft {text : Text} (visible : ¬ Text.isBlankText text = true)
    (draft : Option Text) :
    desk.answer s (some text) (.ok draft) = desk.answerDraft s text draft := by
  unfold answer
  simp only []
  rw [if_neg visible]

theorem answerDraft_of_carryOut {s' : Store} {draft : Option Text} {result : Value}
    {events : List Event} (text : Text)
    (carried : desk.carryOut s (Draft.command draft) = (s', .ok result, events)) :
    (desk.answerDraft s text draft).store = s' ∧
      (desk.answerDraft s text draft).result =
        .ok { userQuery := text, generatedCommand := Draft.command draft, result } := by
  unfold answerDraft
  simp only [carried]
  exact ⟨trivial, trivial⟩

theorem answerDraft_of_carryOut_error {s' : Store} {draft : Option Text} {fault : Fault}
    {events : List Event} (text : Text)
    (carried : desk.carryOut s (Draft.command draft) = (s', .error fault, events)) :
    (desk.answerDraft s text draft).store = s' ∧
      (desk.answerDraft s text draft).result = .error (.escaped fault) := by
  unfold answerDraft
  simp only [carried]
  exact ⟨trivial, trivial⟩

/-! ## Drafts -/

/-- The text of a draft is no command, or it is dispatched. -/
theorem carryOut_cases (desk : Desk) (s : Store) (text : Text) :
    ∃ events, (Command.ofText? text.toList = none ∧
        desk.carryOut s text = (s, .ok (unparseableResult text), events)) ∨
      ∃ c, Command.ofText? text.toList = some c ∧
        desk.carryOut s text =
          ((Storage.dispatch desk.limit s c).1, (Storage.dispatch desk.limit s c).2, events) := by
  unfold carryOut
  split
  case h_1 unknown => exact ⟨_, .inl ⟨unknown, rfl⟩⟩
  case h_2 c recognised => exact ⟨_, .inr ⟨c, recognised, rfl⟩⟩

/-- The command in a draft is no command, and the store is left alone, or it is dispatched. -/
def Settles (desk : Desk) (s s' : Store) (command : Text) (result : Value) : Prop :=
  (Command.ofText? command.toList = none ∧ s' = s ∧ result = unparseableResult command) ∨
  ∃ c, Command.ofText? command.toList = some c ∧ Storage.dispatch desk.limit s c = (s', .ok result)

/-- Whatever a draft holds, it settles with a result. -/
theorem exists_carryOut (faults : s.FaultsReported) (desk : Desk) (command : Text) :
    ∃ s' result events, desk.carryOut s command = (s', .ok result, events) ∧
      desk.Settles s s' command result := by
  obtain ⟨events, ⟨unknown, carried⟩ | ⟨c, recognised, carried⟩⟩ := desk.carryOut_cases s command
  · exact ⟨s, unparseableResult command, events, carried, .inl ⟨unknown, rfl, rfl⟩⟩
  · obtain ⟨v, told⟩ := Storage.exists_answer faults.reportsFaults desk.limit c
    rw [told] at carried
    refine ⟨(Storage.dispatch desk.limit s c).1, v, events, carried, .inr ⟨c, recognised, ?_⟩⟩
    rw [← told]

theorem Settles.isFinite {s' : Store} {command : Text} {result : Value}
    (whole : s.HasWholeCounts) (settles : desk.Settles s s' command result) :
    result.IsFinite := by
  rcases settles with ⟨-, -, rfl⟩ | ⟨c, -, dispatched⟩
  · refine Value.isFinite_doc ?_
    simp only [List.forall_mem_cons]
    exact ⟨Value.isFinite_str _, Value.isFinite_str _, List.forall_mem_nil _⟩
  · exact Store.isFinite_of_dispatch whole (congrArg Prod.snd dispatched)

end Desk

end QueryDesk
