import Mathlib
import QueryDesk.Proofs.Command.StrictArgument
import QueryDesk.Proofs.Desk.Draft
import QueryDesk.Proofs.Desk.Execution
import QueryDesk.Proofs.Store.Perform

/-!
# Strict arguments reach the store as they are

`Denotes` is the table of the operations on a collection: which request the text of strict
arguments stands for. A command whose arguments are such a text is carried out as exactly that
request (`strict_arguments_reach_the_store`). Four readings of the text have to agree for this:

* **cleaning** leaves the text alone, since it ends like a call with arguments
  (`Draft.clean_render`);
* **recognition** ends the arguments where they end, since strict JSON is balanced
  (`Denotes.balanced`);
* **cutting** finds one segment, or two for an update, since no comma of a value is at the top level
  (`segments_of_readStrict`, `segments_append_comma_of_readStrict`);
* **decoding** repairs nothing, since strict JSON is read first (`Argument.decode_of_readStrict`).
-/

namespace QueryDesk

open Command

/-- What the text of strict arguments asks for. `limit` is how many documents are found at most. -/
inductive Denotes (limit : Nat) : CollectionOperation → Text → CollectionRequest → Prop
  | find {text : Text} {filter : Members Json}
      (read : Argument.readStrict text.toList = .ok (.obj filter)) :
      Denotes limit .find text (.find filter limit)
  | insertOne {text : Text} {document : Members Json}
      (read : Argument.readStrict text.toList = .ok (.obj document)) :
      Denotes limit .insertOne text (.insertOne document)
  | updateOne {filterText updateText : Text} {filter : Members Json} {update : Json}
      (read : Argument.readStrict filterText.toList = .ok (.obj filter))
      (read' : Argument.readStrict updateText.toList = .ok update)
      (shape : (∃ members, update = .obj members) ∨ ∃ stages, update = .arr stages) :
      Denotes limit .updateOne (filterText ++ "," ++ updateText) (.updateOne filter update)
  | updateMany {filterText updateText : Text} {filter : Members Json} {update : Json}
      (read : Argument.readStrict filterText.toList = .ok (.obj filter))
      (read' : Argument.readStrict updateText.toList = .ok update)
      (shape : (∃ members, update = .obj members) ∨ ∃ stages, update = .arr stages) :
      Denotes limit .updateMany (filterText ++ "," ++ updateText) (.updateMany filter update)
  | deleteOne {text : Text} {filter : Members Json}
      (read : Argument.readStrict text.toList = .ok (.obj filter)) :
      Denotes limit .deleteOne text (.deleteOne filter)
  | deleteMany {text : Text} {filter : Members Json}
      (read : Argument.readStrict text.toList = .ok (.obj filter)) :
      Denotes limit .deleteMany text (.deleteMany filter)
  /-- An index has one field at least; its fields keep the order of the object. -/
  | createIndex {text : Text} {keys : Members Json}
      (read : Argument.readStrict text.toList = .ok (.obj keys)) (nonempty : keys ≠ []) :
      Denotes limit .createIndex text (.createIndex keys)
  | countDocuments {text : Text} {filter : Members Json}
      (read : Argument.readStrict text.toList = .ok (.obj filter)) :
      Denotes limit .countDocuments text (.countDocuments filter)
  | aggregate {text : Text} {stages : List Json}
      (read : Argument.readStrict text.toList = .ok (.arr stages)) :
      Denotes limit .aggregate text (.aggregate stages)

/-! ## Recognition -/

theorem CollectionOperation.isName_name (operation : CollectionOperation) :
    IsName operation.name := by
  cases operation <;> exact .of_all (by decide) (by decide)

theorem operation?_collection (name arguments : Text) (operation : CollectionOperation) :
    (⟨.collection name, operation.name, arguments⟩ : Command).operation? =
      some (.collection name operation) := by
  rw [Command.operation?, CollectionOperation.ofName?_eq_some_iff.mpr rfl]
  rfl

theorem ne_nil_of_readStrict {s : List Letter} {v : Json} (read : Argument.readStrict s = .ok v) :
    s ≠ [] := by
  rintro rfl
  have visible := not_blank_of_readStrict read
  cases visible

namespace Denotes

variable {limit : Nat} {operation : CollectionOperation} {arguments : Text}
variable {request : CollectionRequest}

/-- Strict arguments are balanced, and there are some. -/
theorem balanced (denotes : Denotes limit operation arguments request) :
    BalancedText arguments.toList ∧ arguments.toList ≠ [] := by
  have single : ∀ {text : Text} {v : Json}, Argument.readStrict text.toList = .ok v →
      BalancedText text.toList ∧ text.toList ≠ [] := fun read =>
    ⟨balanced_of_readStrict read, ne_nil_of_readStrict read⟩
  have pair : ∀ {text text' : Text} {v w : Json}, Argument.readStrict text.toList = .ok v →
      Argument.readStrict text'.toList = .ok w →
      BalancedText (text ++ "," ++ text').toList ∧ (text ++ "," ++ text').toList ≠ [] := by
    intro text text' v w read read'
    have joined : (text ++ "," ++ text').toList = text.toList ++ .char ',' :: text'.toList := by
      simp
    rw [joined]
    exact ⟨balanced_append_comma_of_readStrict read read', by simp⟩
  -- one text, or two with a comma between them
  cases denotes with
  | find read => exact single read
  | insertOne read => exact single read
  | updateOne read read' _ => exact pair read read'
  | updateMany read read' _ => exact pair read read'
  | deleteOne read => exact single read
  | deleteMany read => exact single read
  | createIndex read _ => exact single read
  | countDocuments read => exact single read
  | aggregate read => exact single read

/-! ## Decoding -/

open Interpretation

/-- A strict argument is decoded to what it says. -/
theorem decoded_of_readStrict {s : List Letter} {v : Json}
    (read : Argument.readStrict s = .ok v) : decoded s = .ok v := by
  rw [decoded, Argument.decode_of_readStrict read]

/-- A strict document is decoded to its members, whatever it is asked for. -/
theorem document_of_readStrict {s : List Letter} {members : Members Json} (role : DocumentRole)
    (read : Argument.readStrict s = .ok (.obj members)) : document role s = .ok members := by
  rw [document, decoded_of_readStrict read]
  rfl

/-- The first segment of a strict document is the whole document. -/
theorem document_firstSegment {s : List Letter} {members : Members Json} (role : DocumentRole)
    (read : Argument.readStrict s = .ok (.obj members)) :
    document role (firstSegment s) = .ok members := by
  have first : firstSegment s = Text.trim s := by
    rw [firstSegment, segments_of_readStrict read]
    rfl
  rw [first]
  exact document_of_readStrict role ((readStrict_trim s).trans read)

/-- A filter and an update, strict both, are found on the two sides of the comma. -/
theorem filterAndUpdate_of_readStrict {s t : List Letter} {filter : Members Json} {update : Json}
    (read : Argument.readStrict s = .ok (.obj filter)) (read' : Argument.readStrict t = .ok update)
    (shape : (∃ members, update = .obj members) ∨ ∃ stages, update = .arr stages) :
    filterAndUpdate (s ++ .char ',' :: t) = .ok (filter, update) := by
  have first := document_of_readStrict .updateFilter ((readStrict_trim s).trans read)
  have second := decoded_of_readStrict ((readStrict_trim t).trans read')
  have fits : asUpdate update = .ok update := by
    rcases shape with ⟨members, rfl⟩ | ⟨stages, rfl⟩
    · rfl
    · rfl
  rw [filterAndUpdate, segments_append_comma_of_readStrict read read']
  simp only [first, second]
  show (asUpdate update).bind (fun update => .ok (filter, update)) = _
  rw [fits]
  rfl

/-- Strict arguments are interpreted as the request that they stand for. -/
theorem request_eq (denotes : Denotes limit operation arguments request) :
    operation.request limit arguments = .ok request := by
  have joined : ∀ text text' : Text,
      (text ++ "," ++ text').toList = text.toList ++ .char ',' :: text'.toList := by simp
  cases denotes with
  | find read =>
    rw [CollectionOperation.request, document_firstSegment _ read]
    rfl
  | insertOne read =>
    rw [CollectionOperation.request, document_of_readStrict _ read]
    rfl
  | updateOne read read' shape =>
    rw [CollectionOperation.request, joined, filterAndUpdate_of_readStrict read read' shape]
    rfl
  | updateMany read read' shape =>
    rw [CollectionOperation.request, joined, filterAndUpdate_of_readStrict read read' shape]
    rfl
  | deleteOne read =>
    rw [CollectionOperation.request, document_of_readStrict _ read]
    rfl
  | deleteMany read =>
    rw [CollectionOperation.request, document_of_readStrict _ read]
    rfl
  | @createIndex text keys read nonempty =>
    -- an index without fields would be refused
    obtain ⟨first, rest, rfl⟩ := List.exists_cons_of_ne_nil nonempty
    rw [CollectionOperation.request, indexKeys, document_firstSegment _ read]
    rfl
  | countDocuments read =>
    rw [CollectionOperation.request, document_of_readStrict _ read]
    rfl
  | aggregate read =>
    -- a pipeline is read strictly from the start
    rw [CollectionOperation.request, pipeline, read]
    rfl

end Denotes

/-! ## Carrying out -/

/-- A command with strict arguments is carried out as the request that they stand for, and the store
is asked for nothing else. -/
theorem execute_of_denotes {limit : Nat} {operation : CollectionOperation} {arguments : Text}
    {request : CollectionRequest} (denotes : Denotes limit operation arguments request)
    (s : Store) (name : Text) :
    Storage.execute limit s ⟨.collection name, operation.name, arguments⟩ =
      Storage.fulfil (s.touch name) (.collection name request) := by
  have asked : (Operation.collection name operation).request limit arguments =
      .ok (.collection name request) := by
    rw [Operation.request, denotes.request_eq]
    rfl
  rw [Storage.execute, operation?_collection]
  simp only [asked]
  rfl

/-- **Fidelity.** A reply that calls an operation of a collection with strict arguments is left as
it is, is recognised as the call it spells, and asks the store for one thing: the request that the
arguments stand for. Only a store that encodes documents itself may refuse it before its log. -/
theorem strict_arguments_reach_the_store (limit : Nat) (s : Store) {collection arguments : Text}
    {operation : CollectionOperation} {request : CollectionRequest}
    (isName : IsName collection) (denotes : Denotes limit operation arguments request) :
    let text := "db." ++ collection ++ "." ++ operation.name ++ "(" ++ arguments ++ ")"
    let command : Command := ⟨.collection collection, operation.name, arguments⟩
    let asked : Request := .collection collection request
    Draft.command (some text) = text ∧
      ofText? text.toList = some command ∧
      Storage.dispatch limit s command =
        (((s.touch collection).perform asked).1,
          answered (Storage.fulfil (s.touch collection) asked).2) ∧
      (Storage.dispatch limit s command).1.log =
        s.log ++ (if (asked.refusal? (s.touch collection)).isSome then [] else [asked]) := by
  intro text command asked
  have wellFormed : command.WellFormed := by
    refine ⟨?_, operation.isName_name, denotes.balanced.1⟩
    rintro name ⟨rfl⟩
    exact isName
  have rendered : text.toList = command.render := by
    simp [text, command, render]
  have executed := execute_of_denotes denotes s collection
  have performed : (Storage.dispatch limit s command).1 =
      ((s.touch collection).perform asked).1 := by
    rw [Storage.dispatch_eq, executed, Storage.fulfil_fst]
    rfl
  refine ⟨?_, ?_, ?_, ?_⟩
  · rw [Draft.command, Option.getD_some, rendered, Draft.clean_render wellFormed denotes.balanced.2,
      ← rendered, Text.ofList_toList]
  · rw [rendered]
    exact wellFormed.ofText?_render
  · rw [Storage.dispatch_eq, executed, Storage.fulfil_fst]
    rfl
  · rw [performed, Store.log_perform, Store.log_touch]

/-- An update whose filter holds the characters that cut and close a command. -/
theorem quoted_comma_reaches_the_store :
    (Storage.dispatch 5 ({} : Store)
        ⟨.collection "c", "updateOne", " \x7b\"a\": \"),\\\"'\"\x7d" ++ "," ++ "[] "⟩).1.log =
      [.collection "c" (.updateOne [("a", .str "),\"'")] (.arr []))] := by
  have isName : IsName "c" := .of_all (by decide) (by decide)
  have filter : Argument.readStrict (" \x7b\"a\": \"),\\\"'\"\x7d" : Text).toList =
      .ok (.obj [("a", .str "),\"'")]) := by cbv
  have update : Argument.readStrict ("[] " : Text).toList = .ok (.arr []) := by cbv
  have denotes : Denotes 5 .updateOne _ _ := .updateOne filter update (.inr ⟨[], rfl⟩)
  exact (strict_arguments_reach_the_store 5 {} isName denotes).2.2.2

end QueryDesk
