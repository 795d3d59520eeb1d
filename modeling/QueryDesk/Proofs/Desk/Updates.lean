import QueryDesk.Proofs.Desk.Fidelity
import QueryDesk.Proofs.Desk.OneRequest

/-!
# The two arguments of an update

An update asks the store for something exactly if its argument text has two segments, the first of
which stands for a document and the second for a document or a pipeline (`SpellsUpdate`). It then
asks for the one update with this filter; any other text is answered with a failure, and nothing is
asked for (`updates_have_two_segments`).

A segment need not be spelled out: an empty one stands for an empty document (`StandsFor.absent`),
here as everywhere. So a comma is enough to omit the filter of an update, which then is about every
document (`omitted_filter_is_every_document`).
-/

namespace QueryDesk

open Command Interpretation

/-! ## Segments -/

/-- What a segment of an argument list stands for. -/
inductive StandsFor : List Letter → Json → Prop
  /-- Nothing stands for an empty document. -/
  | absent : StandsFor [] (.obj [])
  | written {segment : List Letter} {a : Argument} (nonempty : segment ≠ [])
      (decodes : Argument.decode segment = .ok a) : StandsFor segment a.value

theorem decoded_eq_ok_iff {segment : List Letter} {v : Json} :
    decoded segment = .ok v ↔ StandsFor segment v := by
  constructor
  · intro found
    by_cases empty : segment = []
    · subst empty
      cases found
      exact .absent
    · rw [decoded] at found
      split at found
      case h_1 a decodes =>
        cases found
        exact .written empty decodes
      case h_2 => cases found
  · rintro (_ | ⟨nonempty, decodes⟩)
    · rfl
    · rw [decoded, decodes]

/-- The argument text of an update: two segments, for its filter and for what is done to the
documents. -/
def SpellsUpdate (text : List Letter) (filter : Members Json) (update : Json) : Prop :=
  ∃ first second, segments text = [first, second] ∧ StandsFor first (.obj filter) ∧
    StandsFor second update ∧ ((∃ members, update = .obj members) ∨ ∃ stages, update = .arr stages)

theorem asUpdate_eq_ok_iff {v update : Json} :
    asUpdate v = .ok update ↔
      v = update ∧ ((∃ members, update = .obj members) ∨ ∃ stages, update = .arr stages) := by
  constructor
  · intro found
    cases v with
    | obj members =>
      cases found
      exact ⟨rfl, .inl ⟨members, rfl⟩⟩
    | arr stages =>
      cases found
      exact ⟨rfl, .inr ⟨stages, rfl⟩⟩
    | _ => cases found
  · rintro ⟨rfl, ⟨members, rfl⟩ | ⟨stages, rfl⟩⟩
    · rfl
    · rfl

/-- An update is read from the texts that spell one, and from no others. -/
theorem filterAndUpdate_eq_ok_iff {text : List Letter} {filter : Members Json} {update : Json} :
    filterAndUpdate text = .ok (filter, update) ↔ SpellsUpdate text filter update := by
  constructor
  · intro found
    rw [filterAndUpdate] at found
    split at found
    case h_1 first second split =>
      obtain ⟨members, isDocument, found⟩ := exists_of_bind_eq_ok found
      obtain ⟨v, decodes, found⟩ := exists_of_bind_eq_ok found
      obtain ⟨v', shaped, found⟩ := exists_of_bind_eq_ok found
      cases found
      obtain ⟨rfl, shape⟩ := asUpdate_eq_ok_iff.mp shaped
      exact ⟨first, second, split, decoded_eq_ok_iff.mp (decoded_of_document isDocument),
        decoded_eq_ok_iff.mp decodes, shape⟩
    case h_2 => cases found
  · rintro ⟨first, second, split, filtered, updated, shape⟩
    have isDocument : document .updateFilter first = .ok filter := by
      rw [document, decoded_eq_ok_iff.mpr filtered]
      rfl
    rw [filterAndUpdate, split]
    simp only [isDocument, decoded_eq_ok_iff.mpr updated]
    show (asUpdate update >>= fun update => Except.ok (filter, update)) = _
    rw [asUpdate_eq_ok_iff.mpr ⟨rfl, shape⟩]
    rfl

/-! ## Updates of one document and of many -/

/-- The operation that updates one document or many. -/
def CollectionOperation.update (many : Bool) : CollectionOperation :=
  if many then .updateMany else .updateOne

/-- The request that updates one document or many. -/
def CollectionRequest.update (many : Bool) (filter : Members Json) (update : Json) :
    CollectionRequest :=
  if many then .updateMany filter update else .updateOne filter update

theorem CollectionOperation.request_update (many : Bool) (limit : Nat) (arguments : Text) :
    (CollectionOperation.update many).request limit arguments =
      (filterAndUpdate arguments.toList).map fun pair => .update many pair.1 pair.2 := by
  cases many with
  | false =>
    show (filterAndUpdate arguments.toList >>= fun pair =>
      .ok (CollectionRequest.updateOne pair.1 pair.2)) = _
    cases filterAndUpdate arguments.toList <;> rfl
  | true =>
    show (filterAndUpdate arguments.toList >>= fun pair =>
      .ok (CollectionRequest.updateMany pair.1 pair.2)) = _
    cases filterAndUpdate arguments.toList <;> rfl

/-- No store refuses an update before its log. -/
theorem refusal?_update (many : Bool) (name : Text) (filter : Members Json) (update : Json)
    (s : Store) : (Request.collection name (.update many filter update)).refusal? s = none := by
  cases many <;> rfl

section Dispatch

variable (limit : Nat) (s : Store) (name : Text) (many : Bool) {arguments : Text}

/-- An update that is spelled is asked for, and nothing else is. -/
theorem log_dispatch_update {filter : Members Json} {update : Json}
    (spelled : SpellsUpdate arguments.toList filter update) :
    (Storage.dispatch limit s
        ⟨.collection name, (CollectionOperation.update many).name, arguments⟩).1.log =
      s.log ++ [.collection name (.update many filter update)] := by
  have known := operation?_collection name arguments (.update many)
  have asked : (Operation.collection name (.update many)).request limit arguments =
      .ok (.collection name (.update many filter update)) := by
    rw [Operation.request, CollectionOperation.request_update,
      filterAndUpdate_eq_ok_iff.mpr spelled]
    rfl
  rw [Storage.dispatch_eq, Storage.execute_of_request s known asked, Storage.fulfil_fst,
    Storage.perform_store, Store.log_perform, Store.log_addressed, refusal?_update]
  rfl

/-- Any other text is refused, and the failure is told. -/
theorem dispatch_update_of_not_spelled
    (unspelled : ¬ ∃ filter update, SpellsUpdate arguments.toList filter update) :
    let outcome :=
      Storage.dispatch limit s ⟨.collection name, (CollectionOperation.update many).name, arguments⟩
    outcome.1.log = s.log ∧
      ∃ reason, outcome.2 = .ok (.doc [("error", .str (Failure.introduction ++ reason))]) := by
  have known := operation?_collection name arguments (.update many)
  cases asked : (Operation.collection name (.update many)).request limit arguments with
  | ok request =>
    -- the request would have been read from a text that spells an update
    obtain ⟨request', asked', -⟩ := exists_of_bind_eq_ok asked
    rw [CollectionOperation.request_update] at asked'
    cases read : filterAndUpdate arguments.toList with
    | ok pair => exact absurd ⟨pair.1, pair.2, filterAndUpdate_eq_ok_iff.mp read⟩ unspelled
    | error failure =>
      rw [read] at asked'
      cases asked'
  | error failure =>
    obtain ⟨refusal, rfl⟩ := (Operation.follows_request _ limit arguments).exists_refusal asked
    rw [Storage.dispatch_eq, Storage.execute_of_refused s known asked]
    refine ⟨s.log_addressed _, refusal.failure.reason, ?_⟩
    cases refusal <;> rfl

end Dispatch

/-- **Updates have two segments.** An update of one document or of many, with whatever argument
text, asks the store for something exactly if the text spells an update: it has two segments, the
first stands for the filter and the second for a document or a pipeline, and an empty one stands for
an empty document. The store is then asked for this update and for nothing else. With any other text
the store is asked for nothing, and the answer tells a failure. -/
theorem updates_have_two_segments (limit : Nat) (s : Store) (name : Text) (many : Bool)
    (arguments : Text) :
    let outcome :=
      Storage.dispatch limit s ⟨.collection name, (CollectionOperation.update many).name, arguments⟩
    (∃ filter update, SpellsUpdate arguments.toList filter update ∧
        outcome.1.log = s.log ++ [.collection name (.update many filter update)]) ∨
      (¬ ∃ filter update, SpellsUpdate arguments.toList filter update) ∧ outcome.1.log = s.log ∧
        ∃ reason, outcome.2 = .ok (.doc [("error", .str (Failure.introduction ++ reason))]) := by
  intro outcome
  by_cases spelled : ∃ filter update, SpellsUpdate arguments.toList filter update
  · obtain ⟨filter, update, spelled⟩ := spelled
    exact .inl ⟨filter, update, spelled, log_dispatch_update limit s name many spelled⟩
  · exact .inr ⟨spelled, dispatch_update_of_not_spelled limit s name many spelled⟩

/-- Nothing stands before the comma, and every document is updated. -/
theorem omitted_filter_is_every_document :
    let arguments : Text := ", \x7b\"$set\": \x7b\"paid\": true\x7d\x7d"
    (∃ second, segments arguments.toList = [[], second]) ∧
      (Storage.dispatch 5 ({} : Store) ⟨.collection "orders", "updateMany", arguments⟩).1.log =
        [.collection "orders" (.updateMany [] (.obj [("$set", .obj [("paid", .bool true)])]))] := by
  intro arguments
  have split : segments arguments.toList =
      [[], ("\x7b\"$set\": \x7b\"paid\": true\x7d\x7d" : Text).toList] := by
    decide
  have read : Argument.readStrict ("\x7b\"$set\": \x7b\"paid\": true\x7d\x7d" : Text).toList =
      .ok (.obj [("$set", .obj [("paid", .bool true)])]) := by
    cbv
  have decodes := Argument.decode_of_readStrict read
  have update := StandsFor.written (by decide) decodes
  have spelled : SpellsUpdate arguments.toList [] (.obj [("$set", .obj [("paid", .bool true)])]) :=
    ⟨_, _, split, .absent, update, .inl ⟨_, rfl⟩⟩
  exact ⟨⟨_, split⟩, log_dispatch_update 5 {} "orders" true spelled⟩

end QueryDesk
