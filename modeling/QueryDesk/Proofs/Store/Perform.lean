import QueryDesk.Store.Basic

/-!
# What a store does with a request

A request is refused, or it is logged and meets the scripted fault, or it is logged and carried out
(`Store.perform_cases`). So whatever becomes of a request that is not refused, it is logged once
(`Store.log_perform`): no operation adds to the log or takes from it.
-/

namespace QueryDesk.Store

/-- Carries out a request that nothing stops. -/
def fulfilled (s : Store) : Request → Store × Except Fault Reply
  | .database request => s.onDatabase request
  | .collection name request => s.onCollection name request

/-- A request is refused, meets a scripted fault after it was logged, or is carried out. -/
theorem perform_cases (s : Store) (request : Request) :
    (∃ fault, request.refusal? s = some fault ∧ s.perform request = (s, .error fault)) ∨
    (∃ fault, request.refusal? s = none ∧ request.scriptedFault? s = some fault ∧
      s.perform request = (s.record request, .error fault)) ∨
    (request.refusal? s = none ∧ s.perform request = (s.record request).fulfilled request) := by
  -- logging changes nothing that a scripted fault depends on
  have unchanged : request.scriptedFault? (s.record request) = request.scriptedFault? s := by
    cases request with
    | database r => rfl
    | collection name r => rfl
  cases refused : request.refusal? s with
  | some fault => exact .inl ⟨fault, rfl, by rw [perform, refused]⟩
  | none =>
    cases raised : request.scriptedFault? s with
    | some fault =>
      refine .inr (.inl ⟨fault, rfl, rfl, ?_⟩)
      rw [perform, refused]
      simp only [unchanged, raised]
    | none =>
      refine .inr (.inr ⟨rfl, ?_⟩)
      rw [perform, refused]
      simp only [unchanged, raised]
      cases request with
      | database r => rfl
      | collection name r => rfl

/-- A request that has a reply is logged and carried out. -/
theorem perform_of_ok {s : Store} {request : Request} {reply : Reply}
    (performed : (s.perform request).2 = .ok reply) :
    s.perform request = (s.record request).fulfilled request := by
  rcases s.perform_cases request with
    ⟨fault, -, stopped⟩ | ⟨fault, -, -, stopped⟩ | ⟨-, done⟩
  · rw [stopped] at performed
    cases performed
  · rw [stopped] at performed
    cases performed
  · exact done

/-- A request that is accepted and meets no scripted fault is carried out. -/
theorem perform_of_accepted {s : Store} {request : Request} (accepted : request.refusal? s = none)
    (working : request.scriptedFault? s = none) :
    s.perform request = (s.record request).fulfilled request := by
  rcases s.perform_cases request with
    ⟨fault, refused, -⟩ | ⟨fault, -, raised, -⟩ | ⟨-, done⟩
  · rw [accepted] at refused
    cases refused
  · rw [working] at raised
    cases raised
  · exact done

variable (s : Store)

/-- A collection that exists already is not created. -/
theorem createCollection_cases (name : Text) (options : Members Json) :
    (∃ fault, s.fulfilled (.database (.createCollection name options)) = (s, .error fault)) ∨
    s.fulfilled (.database (.createCollection name options)) =
      (touch { s with created := s.created ++ [(name, options)] } name, .ok (.created name)) := by
  rw [fulfilled, onDatabase]
  split
  · exact .inl ⟨_, rfl⟩
  · exact .inr rfl

section CreateIndex

variable {s : Store} {name : Text} {keys : Members Json}

/-- An index that is created is told by its name. -/
theorem exists_of_createIndex_ok {reply : Reply}
    (replied : (s.fulfilled (.collection name (.createIndex keys))).2 = .ok reply) :
    ∃ text, indexName keys = .ok text ∧ reply = .indexed text := by
  replace replied : ((indexName keys).mapError Unwritable.fault).map Reply.indexed = .ok reply :=
    replied
  cases named : indexName keys with
  | error reason =>
    rw [named] at replied
    cases replied
  | ok text =>
    rw [named] at replied
    cases replied
    exact ⟨text, rfl, rfl⟩

/-- An index is not created only if it has no name. -/
theorem exists_of_createIndex_error {fault : Fault}
    (failed : (s.fulfilled (.collection name (.createIndex keys))).2 = .error fault) :
    ∃ reason, indexName keys = .error reason ∧ fault = reason.fault := by
  replace failed : ((indexName keys).mapError Unwritable.fault).map Reply.indexed = .error fault :=
    failed
  cases named : indexName keys with
  | error reason =>
    rw [named] at failed
    cases failed
    exact ⟨reason, rfl, rfl⟩
  | ok text =>
    rw [named] at failed
    cases failed

end CreateIndex

/-- What is found out as late as when a request is carried out, as that a collection exists already
or that an index has no name, leaves the store as it is. -/
theorem fulfilled_of_error {request : Request} {fault : Fault}
    (failed : (s.fulfilled request).2 = .error fault) : (s.fulfilled request).1 = s := by
  cases request with
  | database request =>
    cases request with
    | createCollection name options =>
      rcases s.createCollection_cases name options with ⟨fault, same⟩ | created
      · rw [same]
      · rw [created] at failed
        cases failed
    | _ => cases failed
  | collection name request =>
    cases request with
    | createIndex keys => rfl
    | _ => cases failed

/-- A request that is not carried out leaves the store as it was, but for the log. -/
theorem perform_of_error {request : Request} {fault : Fault}
    (failed : (s.perform request).2 = .error fault) :
    (s.perform request).1 = s ∨ (s.perform request).1 = s.record request := by
  rcases s.perform_cases request with
    ⟨fault, -, stopped⟩ | ⟨fault, -, -, stopped⟩ | ⟨-, done⟩
  · exact .inl (by rw [stopped])
  · exact .inr (by rw [stopped])
  · rw [done] at failed ⊢
    exact .inr (fulfilled_of_error _ failed)

/-- All that can be new after a collection was addressed are the collections. -/
theorem touch_eq (name : Text) :
    s.touch name = { s with collections := (s.touch name).collections } := by
  unfold touch
  split
  · rfl
  · rfl

/-! ## The log -/

theorem log_touch (name : Text) : (s.touch name).log = s.log := by
  rw [touch_eq]

theorem log_fulfilled (request : Request) : (s.fulfilled request).1.log = s.log := by
  cases request with
  | database request =>
    cases request with
    | createCollection name options =>
      rcases s.createCollection_cases name options with ⟨fault, same⟩ | created
      · rw [same]
      · rw [created]
        exact log_touch _ name
    | _ => rfl
  | collection name request => cases request <;> rfl

/-- A request that is not refused is logged, and nothing else is; one that is refused is not. -/
theorem log_perform (request : Request) :
    (s.perform request).1.log =
      s.log ++ if (request.refusal? s).isSome then [] else [request] := by
  rcases s.perform_cases request with
    ⟨fault, refused, performed⟩ | ⟨fault, refused, -, performed⟩ | ⟨refused, performed⟩
  · rw [performed, refused]
    simp
  · rw [performed, refused]
    rfl
  · rw [performed, refused, log_fulfilled]
    rfl

end QueryDesk.Store
