import QueryDesk.Desk.Dispatch

/-!
# The ways that a command can go

Whatever the store, a command is unknown, or its arguments are refused, or it is one request
(`Storage.execute_cases`); a request is not carried out, or its reply cannot be shown, or it is
shown (`Storage.fulfil_cases`). What becomes of the store is settled before the reply is shown
(`Storage.fulfil_fst`), and before the answer is put together (`Storage.dispatch_eq`).
-/

namespace QueryDesk.Storage

variable {σ : Type} [Storage σ]

theorem fulfil_fst (s : σ) (request : Request) :
    (fulfil s request).1 = (perform s request).1 := by
  rw [fulfil]
  split
  · next performed =>
    rw [performed]
  · next performed =>
    rw [performed]

theorem fulfil_of_perform_ok {s : σ} {request : Request} {reply : Reply}
    (performed : (perform s request).2 = .ok reply) :
    (fulfil s request).2 = reply.present.mapError .store := by
  rw [fulfil]
  split
  case h_1 stopped =>
    rw [stopped] at performed
    cases performed
  case h_2 done =>
    rw [done] at performed
    cases performed
    rfl

/-- A request is stopped in the store, or its reply cannot be shown, or it is shown. -/
theorem fulfil_cases (s : σ) (request : Request) :
    (∃ fault, (perform s request).2 = .error fault ∧
      (fulfil s request).2 = .error (.store fault)) ∨
    ∃ reply, (perform s request).2 = .ok reply ∧
      ((∃ fault, reply.present = .error fault ∧ (fulfil s request).2 = .error (.store fault)) ∨
      ∃ v, reply.present = .ok v ∧ (fulfil s request).2 = .ok v) := by
  rw [fulfil]
  split
  case h_1 s' fault performed => exact .inl ⟨fault, by rw [performed], rfl⟩
  case h_2 s' reply performed =>
    refine .inr ⟨reply, by rw [performed], ?_⟩
    cases shown : reply.present with
    | error fault => exact .inl ⟨fault, rfl, rfl⟩
    | ok v => exact .inr ⟨v, rfl, rfl⟩

section Known

variable {limit : Nat} {c : Command} {operation : Operation}

/-- A command whose arguments are read is their request. -/
theorem execute_of_request {request : Request} (s : σ)
    (known : c.operation? = some operation)
    (asked : operation.request limit c.arguments = .ok request) :
    execute limit s c = fulfil (addressed s operation) request := by
  rw [execute, known]
  simp only [asked]

/-- A command whose arguments are refused fails for this, after it has been addressed. -/
theorem execute_of_refused {failure : Failure} (s : σ) (known : c.operation? = some operation)
    (refused : operation.request limit c.arguments = .error failure) :
    execute limit s c = (addressed s operation, .error failure) := by
  rw [execute, known]
  simp only [refused]

end Known

/-- A command is not recognised, or its arguments are refused, or it is one request. -/
theorem execute_cases (limit : Nat) (s : σ) (c : Command) :
    (c.operation? = none ∧ execute limit s c = (s, .error (.unsupported c))) ∨
    ∃ operation, c.operation? = some operation ∧
      ((∃ failure, operation.request limit c.arguments = .error failure ∧
        execute limit s c = (addressed s operation, .error failure)) ∨
      ∃ request, operation.request limit c.arguments = .ok request ∧
        execute limit s c = fulfil (addressed s operation) request) := by
  cases known : c.operation? with
  | none =>
    refine .inl ⟨rfl, ?_⟩
    rw [execute, known]
  | some operation =>
    refine .inr ⟨operation, rfl, ?_⟩
    cases asked : operation.request limit c.arguments with
    | error failure => exact .inl ⟨failure, rfl, execute_of_refused s known asked⟩
    | ok request => exact .inr ⟨request, rfl, execute_of_request s known asked⟩

theorem dispatch_eq (limit : Nat) (s : σ) (c : Command) :
    dispatch limit s c = ((execute limit s c).1, answered (execute limit s c).2) := rfl

end QueryDesk.Storage
