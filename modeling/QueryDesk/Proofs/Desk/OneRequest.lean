import QueryDesk.Proofs.Desk.Outcome

/-!
# One request for each command

Whatever a command holds, and whatever store it is dispatched to, the store is asked for one thing
at most, and for nothing but the operation that the command names, on the collection that it names
(`one_request_at_most`). A command that fails before its request is known has asked for nothing: all
it can leave behind is that a collection was addressed, and not even that if its operation is
unknown. In a store in memory that is an empty collection, and the log shows the same.

* `Request.operation` is the table read backwards: which operation a request belongs to. Each
  operation makes requests of its own only (`Operation.operation_of_request`).
* `Storage.Recorded` is any store with a record of what it was asked. The record changes nothing
  (`Storage.dispatch_recorded`), so it tells what the store itself is asked (`Storage.requests`).
* `Storage.OnlyTouched` is all that a command can do to a store without a request, and
  `Store.OnlyAddressed` what this comes to in memory.
-/

namespace QueryDesk

/-! ## The lists of operations -/

/-- What an operation is addressed to. -/
def Operation.target : Operation → Target
  | database _ => .database
  | collection name _ => .collection name

/-- The name of an operation in the list of its kind. -/
def Operation.name : Operation → Text
  | database operation => operation.name
  | collection _ operation => operation.name

/-- A command asks for the operation of its name on its target. -/
theorem Command.operation?_eq_some_iff {c : Command} {operation : Operation} :
    c.operation? = some operation ↔
      operation.target = c.target ∧ operation.name = c.operation := by
  obtain ⟨target, name, arguments⟩ := c
  cases target with
  | database =>
    simp only [Command.operation?, Option.map_eq_some_iff,
      DatabaseOperation.ofName?_eq_some_iff]
    constructor
    · rintro ⟨found, rfl, rfl⟩
      exact ⟨rfl, rfl⟩
    · rintro ⟨addressed, named⟩
      cases operation with
      | database found => exact ⟨found, named.symm, rfl⟩
      | collection _ _ => cases addressed
  | collection collection =>
    simp only [Command.operation?, Option.map_eq_some_iff,
      CollectionOperation.ofName?_eq_some_iff]
    constructor
    · rintro ⟨found, rfl, rfl⟩
      exact ⟨rfl, rfl⟩
    · rintro ⟨addressed, named⟩
      cases operation with
      | database _ => cases addressed
      | collection _ found =>
        cases addressed
        exact ⟨found, named.symm, rfl⟩

/-- The names in the list of operations of a kind. -/
def Target.operationNames : Target → List Text
  | .database => DatabaseOperation.all.map DatabaseOperation.name
  | .collection _ => CollectionOperation.all.map CollectionOperation.name

/-- A command asks for no operation exactly if its name is not in the list of its kind. -/
theorem Command.operation?_eq_none_iff {c : Command} :
    c.operation? = none ↔ c.operation ∉ c.target.operationNames := by
  obtain ⟨target, name, arguments⟩ := c
  cases target with
  | database =>
    simp [Command.operation?, DatabaseOperation.ofName?, Target.operationNames]
  | collection collection =>
    simp [Command.operation?, CollectionOperation.ofName?, Target.operationNames]

/-! ## What a command does to the store -/

/-- A failure that is found before the request is known: an unknown operation, or arguments that
cannot be decoded or are not what the operation takes. -/
def Failure.IsInterpretation (failure : Failure) : Prop :=
  ∀ fault, failure ≠ .store fault

namespace Storage

variable {σ : Type} [Storage σ]

/-- A store with the requests that it was given, in order. -/
structure Recorded (σ : Type) where
  store : σ
  asked : List Request

instance : Storage (Recorded σ) where
  touch r name := ⟨touch r.store name, r.asked⟩
  perform r request :=
    (⟨(perform r.store request).1, r.asked ++ [request]⟩, (perform r.store request).2)

/-- The requests that a command makes of a store. -/
def requests (limit : Nat) (s : σ) (c : Command) : List Request :=
  (dispatch limit (⟨s, []⟩ : Recorded σ) c).1.asked

theorem addressed_recorded (s : σ) (asked : List Request) (operation : Operation) :
    addressed (⟨s, asked⟩ : Recorded σ) operation = ⟨addressed s operation, asked⟩ := by
  cases operation <;> rfl

theorem fulfil_recorded (s : σ) (asked : List Request) (request : Request) :
    fulfil (⟨s, asked⟩ : Recorded σ) request =
      (⟨(fulfil s request).1, asked ++ [request]⟩, (fulfil s request).2) := by
  have performed : perform (⟨s, asked⟩ : Recorded σ) request =
      (⟨(perform s request).1, asked ++ [request]⟩, (perform s request).2) := rfl
  rw [fulfil, fulfil, performed]
  obtain ⟨s', outcome⟩ := perform s request
  cases outcome <;> rfl

section Known

variable {limit : Nat} {c : Command} {operation : Operation} (s : σ)

theorem dispatch_fst_of_unknown (unknown : c.operation? = none) :
    (dispatch limit s c).1 = s := by
  rw [dispatch_eq, execute, unknown]

theorem requests_of_unknown (unknown : c.operation? = none) : requests limit s c = [] := by
  rw [requests, dispatch_fst_of_unknown _ unknown]

theorem requests_of_refused {failure : Failure} (known : c.operation? = some operation)
    (refused : operation.request limit c.arguments = .error failure) :
    requests limit s c = [] := by
  rw [requests, dispatch_eq, execute_of_refused _ known refused, addressed_recorded]

theorem requests_of_request {request : Request} (known : c.operation? = some operation)
    (asked : operation.request limit c.arguments = .ok request) :
    requests limit s c = [request] := by
  rw [requests, dispatch_eq, execute_of_request _ known asked, addressed_recorded,
    fulfil_recorded, List.nil_append]

end Known

/-- Keeping a record changes neither the store nor the answer. -/
theorem dispatch_recorded (limit : Nat) (s : σ) (asked : List Request) (c : Command) :
    dispatch limit (⟨s, asked⟩ : Recorded σ) c =
      (⟨(dispatch limit s c).1, asked ++ requests limit s c⟩, (dispatch limit s c).2) := by
  rw [dispatch_eq, dispatch_eq]
  cases known : c.operation? with
  | none =>
    rw [requests_of_unknown s known, List.append_nil, execute, execute, known]
  | some operation =>
    cases request : operation.request limit c.arguments with
    | error failure =>
      rw [requests_of_refused s known request, List.append_nil,
        execute_of_refused _ known request, execute_of_refused _ known request,
        addressed_recorded]
    | ok request' =>
      rw [requests_of_request s known request, execute_of_request _ known request,
        execute_of_request _ known request, addressed_recorded, fulfil_recorded]

/-- The store as it was, but for a collection that was addressed. -/
def OnlyTouched (s : σ) (target : Target) (s' : σ) : Prop :=
  s' = s ∨ ∃ name, target = .collection name ∧ s' = touch s name

theorem onlyTouched_addressed (s : σ) (operation : Operation) :
    OnlyTouched s operation.target (addressed s operation) := by
  cases operation with
  | database operation => exact .inl rfl
  | collection name operation => exact .inr ⟨name, rfl, rfl⟩

/-- Whatever goes wrong with a request is a fault of the store. -/
theorem exists_fault_of_fulfil {s : σ} {request : Request} {failure : Failure}
    (failed : (fulfil s request).2 = .error failure) : ∃ fault, failure = .store fault := by
  rcases fulfil_cases s request with
    ⟨fault, -, failed'⟩ | ⟨reply, -, ⟨fault, -, failed'⟩ | ⟨v, -, shown⟩⟩
  · rw [failed'] at failed
    cases failed
    exact ⟨fault, rfl⟩
  · rw [failed'] at failed
    cases failed
    exact ⟨fault, rfl⟩
  · rw [shown] at failed
    cases failed

/-- What a command does to a store: it asks for nothing and at most addresses its collection, or it
is one request of its own operation. Then nothing but the store can make it fail. -/
theorem dispatch_cases (limit : Nat) (s : σ) (c : Command) :
    (requests limit s c = [] ∧ OnlyTouched s c.target (dispatch limit s c).1) ∨
    ∃ request, requests limit s c = [request] ∧
      (dispatch limit s c).1 = (perform (addressed s request.operation) request).1 ∧
      request.operation.target = c.target ∧ request.operation.name = c.operation ∧
      ∀ failure, (execute limit s c).2 = .error failure → ¬ failure.IsInterpretation := by
  cases known : c.operation? with
  | none => exact .inl ⟨requests_of_unknown s known, .inl (dispatch_fst_of_unknown s known)⟩
  | some operation =>
    obtain ⟨target, named⟩ := Command.operation?_eq_some_iff.mp known
    cases read : operation.request limit c.arguments with
    | error failure =>
      refine .inl ⟨requests_of_refused s known read, ?_⟩
      rw [dispatch_eq, execute_of_refused s known read, ← target]
      exact onlyTouched_addressed s operation
    | ok request =>
      have own := Operation.operation_of_request read
      subst own
      refine .inr ⟨request, requests_of_request s known read, ?_, target, named, ?_⟩
      · rw [dispatch_eq, execute_of_request s known read, fulfil_fst]
      · intro failure failed interpretation
        rw [execute_of_request s known read] at failed
        obtain ⟨fault, rfl⟩ := exists_fault_of_fulfil failed
        exact interpretation fault rfl

end Storage

/-! ## In memory -/

namespace Store

/-- The store as it was, but for a new collection without documents that was addressed. -/
def OnlyAddressed (s : Store) (target : Target) (s' : Store) : Prop :=
  s' = s ∨ ∃ name, target = .collection name ∧ s.find? name = none ∧
    s' = { s with collections := s.collections ++ [{ name }] }

/-- In memory, addressing a collection comes to this and logs nothing. -/
theorem onlyAddressed_of_onlyTouched {s s' : Store} {target : Target}
    (touched : Storage.OnlyTouched s target s') :
    s'.log = s.log ∧ s.OnlyAddressed target s' := by
  rcases touched with rfl | ⟨name, rfl, rfl⟩
  · exact ⟨rfl, .inl rfl⟩
  · refine ⟨s.log_touch name, ?_⟩
    rw [Storage.touch_store, touch]
    split
    case h_1 => exact .inl rfl
    case h_2 missing => exact .inr ⟨name, rfl, missing, rfl⟩

theorem log_addressed (s : Store) (operation : Operation) :
    (Storage.addressed s operation).log = s.log := by
  cases operation with
  | database operation => rfl
  | collection name operation => exact log_touch s name

/-- A request that is refused leaves the store as it is; any other is logged. -/
theorem perform_fst_cases (s : Store) (request : Request) :
    (s.perform request).1 = s ∨ (s.perform request).1.log = s.log ++ [request] := by
  cases refused : request.refusal? s with
  | some fault =>
    refine .inl ?_
    rw [perform, refused]
  | none =>
    refine .inr ?_
    rw [log_perform, refused]
    rfl

end Store

/-! ## Main statement -/

/-- **One request at most.** For every command and every store: a dispatched command asks the store
for nothing, and then at most addresses a collection, or for one thing, which is the operation of
its name on its target. It asks for nothing if its operation is unknown, and then not even a
collection is addressed; nor if its arguments cannot be decoded or do not fit. Any other command
makes the request that its arguments stand for.

In memory the log grows by the same, unless a request is refused before the log, and all that
addressing a collection can do is to add it without documents. -/
theorem one_request_at_most (limit : Nat) (c : Command) :
    (∀ {σ : Type} [Storage σ] (s : σ),
      let s' := (Storage.dispatch limit s c).1
      let requests := Storage.requests limit s c
      (∀ asked, Storage.dispatch limit (⟨s, asked⟩ : Storage.Recorded σ) c =
        (⟨s', asked ++ requests⟩, (Storage.dispatch limit s c).2)) ∧
      ((requests = [] ∧ Storage.OnlyTouched s c.target s') ∨
        ∃ request, requests = [request] ∧
          s' = (Storage.perform (Storage.addressed s request.operation) request).1 ∧
          request.operation.target = c.target ∧ request.operation.name = c.operation) ∧
      (∀ failure, (Storage.execute limit s c).2 = .error failure → failure.IsInterpretation →
        requests = [] ∧ Storage.OnlyTouched s c.target s') ∧
      (c.operation ∉ c.target.operationNames → requests = [] ∧ s' = s) ∧
      (∀ operation request, c.operation? = some operation →
        operation.request limit c.arguments = .ok request → requests = [request])) ∧
    ∀ s : Store,
      let s' := (Storage.dispatch limit s c).1
      ((s'.log = s.log ∧ s.OnlyAddressed c.target s') ∨
        ∃ request, s'.log = s.log ++ [request] ∧
          s' = ((Storage.addressed s request.operation).perform request).1 ∧
          request.operation.target = c.target ∧ request.operation.name = c.operation) ∧
      (∀ failure, (Storage.execute limit s c).2 = .error failure → failure.IsInterpretation →
        s'.log = s.log ∧ s.OnlyAddressed c.target s') ∧
      (c.operation ∉ c.target.operationNames → s' = s) ∧
      (∀ operation request, c.operation? = some operation →
        operation.request limit c.arguments = .ok request →
          s'.log = s.log ++
            if (request.refusal? (Storage.addressed s operation)).isSome then []
            else [request]) := by
  have unknown : c.operation ∉ c.target.operationNames → c.operation? = none :=
    Command.operation?_eq_none_iff.mpr
  constructor
  · intro σ _ s s' requests
    have recorded := fun asked => Storage.dispatch_recorded limit s asked c
    have idle : c.operation ∉ c.target.operationNames → requests = [] ∧ s' = s := fun unlisted =>
      ⟨Storage.requests_of_unknown s (unknown unlisted),
        Storage.dispatch_fst_of_unknown s (unknown unlisted)⟩
    have asks : ∀ operation request, c.operation? = some operation →
        operation.request limit c.arguments = .ok request → requests = [request] :=
      fun _ _ => Storage.requests_of_request s
    rcases Storage.dispatch_cases limit s c with
      nothing | ⟨request, one, left, target, named, later⟩
    · exact ⟨recorded, .inl nothing, fun _ _ _ => nothing, idle, asks⟩
    · refine ⟨recorded, .inr ⟨request, one, left, target, named⟩, ?_, idle, asks⟩
      intro failure failed interpretation
      exact absurd interpretation (later failure failed)
  · intro s s'
    have idle : c.operation ∉ c.target.operationNames → s' = s := fun unlisted =>
      Storage.dispatch_fst_of_unknown s (unknown unlisted)
    have logs : ∀ operation request, c.operation? = some operation →
        operation.request limit c.arguments = .ok request → s'.log = s.log ++
          if (request.refusal? (Storage.addressed s operation)).isSome then [] else [request] := by
      intro operation request known read
      have carried : s' = ((Storage.addressed s operation).perform request).1 := by
        show (Storage.dispatch limit s c).1 = _
        rw [Storage.dispatch_eq, Storage.execute_of_request s known read, Storage.fulfil_fst]
        rfl
      rw [carried, Store.log_perform, Store.log_addressed]
    rcases Storage.dispatch_cases limit s c with
      ⟨-, touched⟩ | ⟨request, -, left, target, named, later⟩
    · have nothing := Store.onlyAddressed_of_onlyTouched touched
      exact ⟨.inl nothing, fun _ _ _ => nothing, idle, logs⟩
    · have carried : s' = ((Storage.addressed s request.operation).perform request).1 := left
      refine ⟨?_, ?_, idle, logs⟩
      · rcases (Storage.addressed s request.operation).perform_fst_cases request with
          same | logged
        · have touched := Storage.onlyTouched_addressed s request.operation
          rw [target] at touched
          rw [carried, same]
          exact .inl (Store.onlyAddressed_of_onlyTouched touched)
        · refine .inr ⟨request, ?_, carried, target, named⟩
          rw [carried, logged, Store.log_addressed]
      · intro failure failed interpretation
        exact absurd interpretation (later failure failed)

end QueryDesk
