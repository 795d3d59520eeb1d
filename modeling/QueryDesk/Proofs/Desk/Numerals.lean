import QueryDesk.Proofs.Desk.Fidelity
import QueryDesk.Proofs.Desk.Interpretation
import QueryDesk.Proofs.Json.Numerals
import QueryDesk.Proofs.Text.Trim

/-!
# The numbers in a request

What an operation hands to the store was decoded from parts of its arguments
(`exists_decode_of_request`), so the doubles in it are written there, or in what the repair makes of
a part. None of them is `nan`. An infinity is possible, though, and the numerals that lead to one
are those from the threshold on (`doubles_are_written_as_numerals`); the shortest are of the kind of
`1e999` (`large_numerals_reach_the_store`).
-/

namespace QueryDesk

open Command Interpretation

/-! ## Parts of the arguments -/

namespace Command

theorem isInfix_trim (s : List Letter) : Text.trim s <:+: s := by
  obtain ⟨pre, post, whole, -⟩ := Text.exists_eq_append_strip_append Text.isBlank s
  exact ⟨pre, post, whole.symm⟩

/-- The first piece starts the list, and all pieces are parts of it. -/
theorem isInfix_of_mem_pieces {n : Nesting} {s piece : List Letter} (member : piece ∈ pieces n s) :
    piece <:+: s := by
  have parts : ∀ ps : List (List Letter), piece ∈ ps → piece <:+: [.char ','].intercalate ps := by
    intro ps
    induction ps with
    | nil => exact fun impossible => nomatch impossible
    | cons first rest ih =>
      intro member
      cases rest with
      | nil =>
        rw [List.mem_singleton.mp member]
        simp
      | cons next more =>
        rw [List.intercalate_cons_cons]
        rcases List.mem_cons.mp member with rfl | later
        · exact ((List.prefix_append _ _).trans (List.prefix_append _ _)).isInfix
        · exact (ih later).trans (List.suffix_append _ _).isInfix
  have whole := parts _ member
  rwa [join_pieces] at whole

theorem isInfix_of_mem_segments {s segment : List Letter} (member : segment ∈ segments s) :
    segment <:+: s := by
  rw [segments] at member
  split at member
  · cases member
  · obtain ⟨piece, cut, rfl⟩ := List.mem_map.mp member
    exact (isInfix_trim piece).trans (isInfix_of_mem_pieces cut)

theorem isInfix_firstSegment (s : List Letter) : firstSegment s <:+: s := by
  rw [firstSegment]
  cases cut : segments s with
  | nil => exact List.nil_infix
  | cons first rest => exact isInfix_of_mem_segments (by rw [cut]; exact List.mem_cons_self)

/-- The text that an argument was read from. -/
def Argument.source (a : Argument) (s : List Letter) : List Letter :=
  if a.repaired then Repair.repair (Text.trim s) else s

/-- The doubles of an argument are written in the text that it was read from. -/
theorem Argument.isNumberOf_of_decode {s : List Letter} {a : Argument}
    (decodes : Argument.decode s = .ok a) :
    ∀ x ∈ a.value.doubles, Json.IsNumberOf (a.source s) x := by
  rw [decode] at decodes
  split at decodes
  case isTrue blank =>
    cases decodes
    exact fun x member => nomatch member
  case isFalse visible =>
    split at decodes
    case h_1 v read =>
      cases decodes
      intro x member
      exact (Json.isNumberOf_of_readUnmarked read x member).mono (isInfix_trim s)
    case h_2 =>
      split at decodes
      case h_1 v read =>
        cases decodes
        exact Json.isNumberOf_of_readUnmarked read
      case h_2 => cases decodes

end Command

/-! ## Requests -/

/-- The values that a request hands to the store. -/
def Request.payload : Request → List Json
  | .database (.createCollection _ options) => [.obj options]
  | .database .dropDatabase => []
  | .database (.listCollections filter) => [.obj filter]
  | .database (.runCommand command) => [.obj command]
  | .collection _ (.find filter _) => [.obj filter]
  | .collection _ (.insertOne document) => [.obj document]
  | .collection _ (.updateOne filter update) => [.obj filter, update]
  | .collection _ (.updateMany filter update) => [.obj filter, update]
  | .collection _ (.deleteOne filter) => [.obj filter]
  | .collection _ (.deleteMany filter) => [.obj filter]
  | .collection _ (.createIndex keys) => [.obj keys]
  | .collection _ (.countDocuments filter) => [.obj filter]
  | .collection _ (.aggregate stages) => [.arr stages]

/-- The value was decoded from a part of the text. -/
def IsDecodedFrom (text : List Letter) (j : Json) : Prop :=
  ∃ s, s <:+: text ∧ decoded s = .ok j

namespace IsDecodedFrom

variable {text s : List Letter}

theorem of_document {role : DocumentRole} {members : Members Json} (part : s <:+: text)
    (found : document role s = .ok members) : IsDecodedFrom text (.obj members) :=
  ⟨s, part, decoded_of_document found⟩

theorem of_filterAndUpdate {filter : Members Json} {update : Json}
    (found : filterAndUpdate text = .ok (filter, update)) :
    ∀ j ∈ [.obj filter, update], IsDecodedFrom text j := by
  unfold filterAndUpdate at found
  split at found
  case h_1 first second cut =>
    obtain ⟨filter', read, found⟩ := exists_of_bind_eq_ok found
    obtain ⟨v, read', found⟩ := exists_of_bind_eq_ok found
    obtain ⟨update', fits, found⟩ := exists_of_bind_eq_ok found
    cases found
    -- an update is checked and left as it is
    have same : v = update := by
      cases v with
      | obj members | arr stages =>
        cases fits
        rfl
      | _ => cases fits
    have part : ∀ segment ∈ [first, second], segment <:+: text := by
      rw [← cut]
      exact fun segment => isInfix_of_mem_segments
    simp only [List.forall_mem_cons]
    refine ⟨of_document (part first List.mem_cons_self) read, ?_, List.forall_mem_nil _⟩
    exact ⟨second, part second (by simp), same ▸ read'⟩
  case h_2 => cases found

theorem of_creation {request : DatabaseRequest} (found : creation text = .ok request) :
    ∀ j ∈ (Request.database request).payload, IsDecodedFrom text j := by
  obtain ⟨name, -, found⟩ := exists_of_bind_eq_ok found
  obtain ⟨options, read, found⟩ := exists_of_bind_eq_ok found
  cases found
  intro j member
  cases List.mem_singleton.mp member
  unfold creationOptions at read
  split at read
  case h_1 first second rest cut =>
    exact of_document (isInfix_of_mem_segments (by rw [cut]; simp)) read
  case h_2 =>
    -- missing options are what an empty text decodes to
    cases read
    exact ⟨[], List.nil_infix, rfl⟩

end IsDecodedFrom

theorem DatabaseOperation.isDecodedFrom_of_request {operation : DatabaseOperation}
    {arguments : Text} {request : DatabaseRequest}
    (asked : operation.request arguments = .ok request) :
    ∀ j ∈ (Request.database request).payload, IsDecodedFrom arguments.toList j := by
  cases operation with
  | createCollection => exact .of_creation asked
  | dropDatabase =>
    rw [DatabaseOperation.request] at asked
    split at asked <;> cases asked
    exact List.forall_mem_nil _
  | listCollections =>
    obtain ⟨filter, read, asked⟩ := exists_of_bind_eq_ok asked
    cases asked
    exact List.forall_mem_singleton.mpr (.of_document List.infix_rfl read)
  | runCommand =>
    obtain ⟨command, found, asked⟩ := exists_of_bind_eq_ok asked
    cases asked
    obtain ⟨members, read, found⟩ := exists_of_bind_eq_ok found
    cases members <;> cases found
    exact List.forall_mem_singleton.mpr (.of_document List.infix_rfl read)

theorem CollectionOperation.isDecodedFrom_of_request {operation : CollectionOperation}
    {limit : Nat} {name arguments : Text} {request : CollectionRequest}
    (asked : operation.request limit arguments = .ok request) :
    ∀ j ∈ (Request.collection name request).payload, IsDecodedFrom arguments.toList j := by
  cases operation with
  | find =>
    obtain ⟨filter, read, asked⟩ := exists_of_bind_eq_ok asked
    cases asked
    exact List.forall_mem_singleton.mpr (.of_document (isInfix_firstSegment _) read)
  | updateOne | updateMany =>
    obtain ⟨⟨filter, update⟩, read, asked⟩ := exists_of_bind_eq_ok asked
    cases asked
    exact .of_filterAndUpdate read
  | insertOne | deleteOne | deleteMany | countDocuments =>
    obtain ⟨members, read, asked⟩ := exists_of_bind_eq_ok asked
    cases asked
    exact List.forall_mem_singleton.mpr (.of_document List.infix_rfl read)
  | createIndex =>
    obtain ⟨keys, found, asked⟩ := exists_of_bind_eq_ok asked
    cases asked
    obtain ⟨members, read, found⟩ := exists_of_bind_eq_ok found
    cases members <;> cases found
    exact List.forall_mem_singleton.mpr (.of_document (isInfix_firstSegment _) read)
  | aggregate =>
    obtain ⟨stages, found, asked⟩ := exists_of_bind_eq_ok asked
    cases asked
    unfold pipeline at found
    split at found <;> cases found
    next read =>
      refine List.forall_mem_singleton.mpr ⟨arguments.toList, List.infix_rfl, ?_⟩
      rw [decoded, Argument.decode_of_readStrict read]

/-- What an operation hands to the store was decoded from parts of its arguments. -/
theorem exists_decode_of_request {operation : Operation} {limit : Nat} {arguments : Text}
    {request : Request} (asked : operation.request limit arguments = .ok request) :
    ∀ j ∈ request.payload, ∃ s a, s <:+: arguments.toList ∧ Argument.decode s = .ok a ∧
      a.value = j := by
  have parts : ∀ j ∈ request.payload, IsDecodedFrom arguments.toList j := by
    cases operation with
    | database operation =>
      obtain ⟨inner, asked', wrapped⟩ := exists_of_bind_eq_ok asked
      cases wrapped
      exact DatabaseOperation.isDecodedFrom_of_request asked'
    | collection name operation =>
      obtain ⟨inner, asked', wrapped⟩ := exists_of_bind_eq_ok asked
      cases wrapped
      exact CollectionOperation.isDecodedFrom_of_request asked'
  intro j member
  obtain ⟨s, part, found⟩ := parts j member
  rw [decoded] at found
  split at found <;> cases found
  next a decodes => exact ⟨s, a, part, decodes, rfl⟩

/-! ## Where an infinity comes from -/

/-- **Doubles are numerals.** A double in a decoded value, with or without repair, is read from a
numeral in the text. It is never `nan`, and the value is finite exactly if the magnitudes of these
numerals are less than half a unit beyond the largest double. The same holds of every value that a
command hands to the store, with the part of its arguments that the value was decoded from. -/
theorem doubles_are_written_as_numerals (s : List Letter) (limit : Nat) (c : Command) :
    (∀ v, Argument.readStrict s = .ok v → v.IsWrittenIn s) ∧
    (∀ a, Argument.decode s = .ok a → a.value.IsWrittenIn (a.source s)) ∧
    ∀ operation request, c.operation? = some operation →
      operation.request limit c.arguments = .ok request →
        ∀ j ∈ request.payload, ∃ part a, part <:+: c.arguments.toList ∧
          Argument.decode part = .ok a ∧ a.value = j ∧ j.IsWrittenIn (a.source part) := by
  have decodes : ∀ s a, Argument.decode s = .ok a → a.value.IsWrittenIn (a.source s) :=
    fun s a found => Json.isWrittenIn_of_isNumberOf (Argument.isNumberOf_of_decode found)
  refine ⟨?_, decodes s, ?_⟩
  · intro v read
    -- strict text is decoded without repair, so it is its own source
    exact decodes s _ (Argument.decode_of_readStrict read)
  · intro operation request _ asked j member
    obtain ⟨part, a, inside, found, rfl⟩ := exists_decode_of_request asked j member
    exact ⟨part, a, inside, found, rfl, decodes part a found⟩

/-- Numerals beyond the doubles are read, and what is inserted holds an infinity. -/
theorem large_numerals_reach_the_store :
    let text : Text := "\x7b\"v\": 1e999\x7d"
    ∃ document, Argument.readStrict text.toList = .ok (.obj document) ∧
      (Json.obj document).doubles = [.infinite false] ∧
      (Storage.dispatch 5 ({} : Store) ⟨.collection "c", "insertOne", text⟩).1.log =
        [.collection "c" (.insertOne document)] := by
  intro text
  have evaluated : (Argument.readStrict text.toList).toOption.map
      (fun v => (v.kindName, v.doubles)) =
        (some ("dict", [.infinite false]) : Option (Text × List Double)) := by
    decide +kernel
  cases read : Argument.readStrict text.toList with
  | error stop =>
    rw [read] at evaluated
    cases evaluated
  | ok v =>
    rw [read] at evaluated
    obtain ⟨kind, doubles⟩ := Prod.mk.inj (Option.some.inj evaluated)
    cases v with
    | obj document =>
      refine ⟨document, rfl, doubles, ?_⟩
      have denotes : Denotes 5 .insertOne text _ := .insertOne read
      have executed := execute_of_denotes denotes {} "c"
      show (Storage.execute 5 ({} : Store)
        ⟨.collection "c", CollectionOperation.insertOne.name, text⟩).1.log = _
      rw [executed, Storage.fulfil_fst, Storage.perform_store, Store.log_perform, Store.log_touch]
      rfl
    | _ => exact absurd kind (of_decide_eq_true rfl)

end QueryDesk
