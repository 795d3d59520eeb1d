import Mathlib.Logic.Function.Basic
import QueryDesk.Proofs.Store.Perform
import QueryDesk.Proofs.Store.Reply

/-!
# What a request does to the documents

Only four requests change what documents a store holds: an insertion puts one at the end of its
collection, a deletion takes the first or every document of its filter, and dropping the database
takes all. `Request.effect` says so for each of them, and for every other request that there is
none. A request that is carried out has its effect (`Store.documents_of_perform_ok`), and one that
is not leaves all documents in place (`Store.documents_of_perform_error`). Addressing a collection
does not count: a new one is empty, as a missing one is (`Store.documents_touch`).
-/

namespace QueryDesk

/-- Removing the first document of a filter is removing the first one that satisfies it. -/
theorem eraseFirst_eq_eraseP (filter : Members Json) (documents : List Document) :
    eraseFirst filter documents = documents.eraseP (Document.satisfies · filter) := by
  induction documents with
  | nil => rfl
  | cons d rest ih =>
    rw [eraseFirst, List.eraseP_cons]
    by_cases satisfied : Document.satisfies d filter = true
    · rw [if_pos satisfied, satisfied]
      rfl
    · rw [if_neg satisfied, Bool.eq_false_iff.mpr satisfied, ih]
      rfl

/-- The documents by collection after a request that was carried out, from those before it. `id` is
the identifier for a document that has none. -/
def Request.effect (id : BitVec 96) (before : Text → List Document) :
    Request → Text → List Document
  | .database .dropDatabase => fun _ => []
  | .collection name (.insertOne document) =>
    Function.update before name (before name ++ [identified id document])
  | .collection name (.deleteOne filter) =>
    Function.update before name ((before name).eraseP (Document.satisfies · filter))
  | .collection name (.deleteMany filter) =>
    Function.update before name ((before name).filter fun d => !Document.satisfies d filter)
  | _ => before

/-! ## Identifiers -/

theorem Members.get?_append {α : Type} (members more : Members α) (name : Text) :
    Members.get? (members ++ more) name = (members.get? name).or (more.get? name) := by
  induction members with
  | nil => rfl
  | cons pair rest ih =>
    obtain ⟨other, value⟩ := pair
    rw [List.cons_append, get?, get?]
    split
    · rfl
    · exact ih

theorem Value.get?_ofMembers (members : Members Json) (name : Text) :
    Members.get? (ofMembers members) name = (members.get? name).map ofJson := by
  induction members with
  | nil => rfl
  | cons pair rest ih =>
    obtain ⟨other, value⟩ := pair
    rw [ofMembers, Members.get?, Members.get?]
    split
    · rfl
    · exact ih

/-- A stored document is the decoded one, with an identifier at the end if that has none. -/
inductive IsInsertedAs (document : Members Json) : Document → Prop
  | own (present : (document.get? "_id").isSome = true) :
      IsInsertedAs document (Value.ofMembers document)
  | given (missing : document.get? "_id" = none) (id : BitVec 96) :
      IsInsertedAs document (Value.ofMembers document ++ [(("_id" : Text), .objectId id)])

theorem isInsertedAs_identified (id : BitVec 96) (document : Members Json) :
    IsInsertedAs document (identified id document) := by
  rw [identified, Value.get?_ofMembers, Option.isSome_map]
  cases found : document.get? "_id" with
  | some own => exact .own (by rw [found]; rfl)
  | none => exact .given found id

/-- The identifier of a stored document can be shown. -/
theorem exists_present_identifier (id : BitVec 96) (document : Members Json) :
    ∃ shown, (((identified id document).get? "_id").getD .null).present = .ok shown := by
  rw [identified, Value.get?_ofMembers, Option.isSome_map]
  cases found : document.get? "_id" with
  | some own =>
    rw [Option.isSome_some, if_pos rfl, Value.get?_ofMembers, found]
    exact Value.exists_present_ofJson own
  | none =>
    rw [Option.isSome_none, if_neg Bool.false_ne_true, Members.get?_append, Value.get?_ofMembers,
      found]
    exact ⟨.str (objectIdText id), rfl⟩

namespace Store

variable (s : Store)

/-! ## Collections -/

theorem find?_eq_some_name {s : Store} {name : Text} {c : Collection}
    (found : s.find? name = some c) : c.name = name := by
  rw [find?] at found
  have named := List.find?_some found
  exact eq_of_beq named

/-- A new collection is as a missing one. -/
theorem collection_touch (name other : Text) :
    (s.touch name).collection other = s.collection other := by
  rw [touch]
  split
  case h_1 => rfl
  case h_2 missing =>
    rw [collection, collection, find?, find?, List.find?_append]
    cases found : s.collections.find? fun c => c.name == other with
    | some c => rfl
    | none =>
      rw [Option.none_or, List.find?_singleton]
      split
      case isTrue named =>
        have same : name = other := eq_of_beq named
        rw [same]
        rfl
      case isFalse => rfl

/-- A new collection has no documents, as a missing one has none. -/
theorem documents_touch (name : Text) : (s.touch name).documents = s.documents := by
  funext other
  rw [documents, collection_touch]
  rfl

/-- A collection that is addressed is there. -/
theorem isSome_find?_touch (name : Text) : ((s.touch name).find? name).isSome = true := by
  rw [touch]
  split
  case h_1 c found =>
    rw [found]
    rfl
  case h_2 missing =>
    rw [find?] at missing ⊢
    rw [List.find?_append, missing, Option.none_or, List.find?_singleton,
      if_pos (beq_self_eq_true _)]
    rfl

/-- A collection that was changed is found changed, and the others as they were. -/
theorem find?_modify (name : Text) {change : Collection → Collection}
    (named : ∀ c, (change c).name = c.name) (other : Text) :
    (s.modify name change).find? other =
      if other = name then (s.find? other).map change else s.find? other := by
  -- a change keeps the names, so the same collection is found in its place
  have kept : ((fun c : Collection => c.name == other) ∘
      fun c => if c.name == name then change c else c) = fun c => c.name == other := by
    funext c
    rw [Function.comp_apply]
    split
    · rw [named]
    · rfl
  rw [modify, find?, List.find?_map, kept]
  show (s.find? other).map _ = _
  cases found : s.find? other with
  | none => rw [Option.map_none, Option.map_none, ite_self]
  | some c =>
    rw [Option.map_some, Option.map_some, find?_eq_some_name found, beq_eq_decide]
    by_cases same : other = name
    · rw [if_pos same, if_pos (decide_eq_true same)]
    · rw [if_neg same, if_neg (by rwa [decide_eq_true_iff])]

/-- Changing the documents of a collection that is there changes these and no others. -/
theorem documents_modify {name : Text} (present : (s.find? name).isSome = true)
    (change : List Document → List Document) :
    (s.modify name fun c => { c with documents := change c.documents }).documents =
      Function.update s.documents name (change (s.documents name)) := by
  obtain ⟨c, found⟩ := Option.isSome_iff_exists.mp present
  funext other
  have kept : ∀ c : Collection, { c with documents := change c.documents }.name = c.name :=
    fun _ => rfl
  rw [documents, collection, find?_modify s name kept]
  by_cases same : other = name
  · subst same
    rw [if_pos rfl, Function.update_self, documents, collection, found]
    rfl
  · rw [if_neg same, Function.update_of_ne same]
    rfl

/-- Changing the documents of a collection changes no scripted fault. -/
theorem fault_modify (name : Text) (change : List Document → List Document) (other : Text) :
    ((s.modify name fun c => { c with documents := change c.documents }).collection other).fault =
      (s.collection other).fault := by
  rw [collection, collection, find?_modify]
  · split
    · cases s.find? other with
      | none => rfl
      | some c => rfl
    · rfl
  · exact fun c => rfl

/-! ## Requests -/

/-- A request to a collection finds the collection there. -/
def Addresses : Request → Prop
  | .database _ => True
  | .collection name _ => (s.find? name).isSome = true

/-- A request that nothing stops has its effect. -/
theorem documents_fulfilled {request : Request} (addresses : s.Addresses request) :
    (s.fulfilled request).1.documents =
      request.effect (BitVec.ofNat 96 (s.insertions + 1)) s.documents := by
  cases request with
  | database request =>
    cases request with
    | createCollection name options =>
      show (s.fulfilled _).1.documents = s.documents
      rcases s.createCollection_cases name options with ⟨fault, same⟩ | created
      · rw [same]
      · rw [created]
        exact documents_touch _ name
    | _ => rfl
  | collection name request =>
    cases request with
    | insertOne document =>
      exact documents_modify { s with insertions := s.insertions + 1 } addresses
        fun documents => documents ++ [identified (BitVec.ofNat 96 (s.insertions + 1)) document]
    | deleteOne filter =>
      rw [Request.effect, ← eraseFirst_eq_eraseP]
      exact s.documents_modify addresses (eraseFirst filter)
    | deleteMany filter =>
      exact s.documents_modify addresses fun documents =>
        documents.filter fun d => !Document.satisfies d filter
    | _ => rfl

/-- A request that is carried out has its effect. -/
theorem documents_of_perform_ok {request : Request} (addresses : s.Addresses request)
    {reply : Reply} (performed : (s.perform request).2 = .ok reply) :
    (s.perform request).1.documents =
      request.effect (BitVec.ofNat 96 (s.insertions + 1)) s.documents := by
  rw [perform_of_ok performed]
  exact (s.record request).documents_fulfilled addresses

/-- A request that is not carried out leaves all documents in place. -/
theorem documents_of_perform_error {request : Request} {fault : Fault}
    (failed : (s.perform request).2 = .error fault) :
    (s.perform request).1.documents = s.documents := by
  rcases s.perform_of_error failed with same | recorded
  · rw [same]
  · rw [recorded]
    rfl

end Store

end QueryDesk
