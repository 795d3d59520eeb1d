import QueryDesk.Proofs.Desk.Fidelity
import QueryDesk.Proofs.Desk.OneRequest

/-!
# The first failure is told

A command is carried out in steps: its operation is looked up, each of its arguments is decoded and
checked, the store is called, and the reply is shown. `Storage.steps` lists them in this order for
any store, each with what goes wrong in it, as far as the steps before it have left something to
look at. A command fails exactly if one of its steps does, and for the first that does
(`Storage.follows_execute`). The answer tells this failure and no other (`first_failure_is_told`),
and it introduces every failure but that of an unknown operation.
-/

namespace QueryDesk

namespace Storage

variable {σ : Type} [Storage σ]

/-! ## The steps of a command -/

/-- The steps of a request: the call, and showing its reply. -/
def requestSteps (s : σ) (request : Request) : List (Option Failure) :=
  match (perform s request).2 with
  | .error fault => [some (.store fault)]
  | .ok reply =>
    match reply.present with
    | .error fault => [none, some (.store fault)]
    | .ok _ => [none, none]

/-- The steps of a command. What the request is depends on the arguments, so there are steps of the
request only if the arguments stand for one. -/
def steps (limit : Nat) (s : σ) (c : Command) : List (Option Failure) :=
  match c.operation? with
  | none => [some (.unsupported c)]
  | some operation =>
    none :: told (operation.checks c.arguments) ++
      match operation.request limit c.arguments with
      | .error _ => []
      | .ok request => requestSteps (addressed s operation) request

theorem follows_fulfil (s : σ) (request : Request) :
    Follows (fulfil s request).2 (requestSteps s request) := by
  rw [requestSteps]
  rcases fulfil_cases s request with
    ⟨fault, stopped, failed⟩ | ⟨reply, performed, ⟨fault, hidden, failed⟩ | ⟨v, shown, fulfilled⟩⟩
  · rw [stopped, failed]
    exact .error _
  · rw [performed, failed]
    simp only [hidden]
    exact .error _
  · rw [performed, fulfilled]
    simp only [shown]
    exact (Follows.ok v).skip.skip

/-- A command fails exactly if one of its steps does, and with the first failure of them. -/
theorem follows_execute (limit : Nat) (s : σ) (c : Command) :
    Follows (execute limit s c).2 (steps limit s c) := by
  rw [steps]
  cases known : c.operation? with
  | none =>
    rw [execute, known]
    exact .error _
  | some operation =>
    have whole : (execute limit s c).2 = operation.request limit c.arguments >>=
        fun request => (fulfil (addressed s operation) request).2 := by
      rw [execute, known]
      cases asked : operation.request limit c.arguments with
      | error failure =>
        simp only [asked]
        rfl
      | ok request =>
        simp only [asked]
        rfl
    rw [whole]
    refine (operation.follows_request limit c.arguments).skip.bind fun request asked => ?_
    simp only [asked]
    exact follows_fulfil _ request

/-- A failure of a command whose operation is known is introduced. -/
theorem message_of_execute {limit : Nat} {s : σ} {c : Command} {failure : Failure}
    (listed : c.operation ∈ c.target.operationNames)
    (failed : (execute limit s c).2 = .error failure) :
    failure.message = Failure.introduction ++ failure.reason := by
  rcases execute_cases limit s c with
    ⟨unknown, -⟩ | ⟨operation, -, ⟨failure', refused, executed⟩ | ⟨request, -, executed⟩⟩
  · exact absurd listed (Command.operation?_eq_none_iff.mp unknown)
  · rw [executed] at failed
    cases failed
    obtain ⟨refusal, rfl⟩ :=
      (operation.follows_request limit c.arguments).exists_refusal refused
    cases refusal <;> rfl
  · rw [executed] at failed
    obtain ⟨fault, rfl⟩ := exists_fault_of_fulfil failed
    rfl

/-- A command whose operation is unknown fails for this. -/
theorem execute_of_not_listed {limit : Nat} {s : σ} {c : Command}
    (unlisted : c.operation ∉ c.target.operationNames) :
    (execute limit s c).2 = .error (.unsupported c) := by
  rw [execute, Command.operation?_eq_none_iff.mpr unlisted]

/-- A command none of whose steps fails is answered with the reply to its request. -/
theorem exists_reply_of_firstFailure {limit : Nat} {s : σ} {c : Command}
    (passed : firstFailure (steps limit s c) = none) :
    ∃ operation request reply v, c.operation? = some operation ∧
      operation.request limit c.arguments = .ok request ∧
      (perform (addressed s operation) request).2 = .ok reply ∧ reply.present = .ok v ∧
      (execute limit s c).2 = .ok v := by
  have never : ∀ failure, (execute limit s c).2 ≠ .error failure := by
    intro failure failed
    have first := (follows_execute limit s c failure).mp failed
    rw [passed] at first
    cases first
  rcases execute_cases limit s c with
    ⟨-, executed⟩ | ⟨operation, known, ⟨failure, -, executed⟩ | ⟨request, asked, executed⟩⟩
  · exact absurd (by rw [executed]) (never (.unsupported c))
  · exact absurd (by rw [executed]) (never failure)
  · rw [executed] at never ⊢
    rcases fulfil_cases (addressed s operation) request with
      ⟨fault, -, failed⟩ | ⟨reply, performed, ⟨fault, -, failed⟩ | ⟨v, shown, fulfilled⟩⟩
    · exact absurd failed (never _)
    · exact absurd failed (never _)
    · exact ⟨operation, request, reply, v, known, asked, performed, shown, fulfilled⟩

end Storage

/-! ## Messages -/

namespace Failure

theorem introduction_prefix_append (text : Text) :
    introduction.toList <+: (introduction ++ text).toList := by
  rw [Text.toList_append]
  exact List.prefix_append _ _

theorem exists_unsupportedMessage (c : Command) :
    ∃ start, (unsupportedMessage c).toList = .char 'U' :: start ++ c.operation.toList := by
  obtain ⟨target, operation, arguments⟩ := c
  cases target with
  | database =>
    exact ⟨("nsupported direct 'db.' operation: " : Text).toList, Text.toList_append _ _⟩
  | collection name =>
    exact ⟨("nsupported MongoDB collection operation: " : Text).toList, Text.toList_append _ _⟩

/-- The message about an unknown operation is not introduced. -/
theorem not_introduction_prefix_unsupportedMessage (c : Command) :
    ¬ introduction.toList <+: (unsupportedMessage c).toList := by
  rintro ⟨rest, whole⟩
  obtain ⟨start, ends⟩ := exists_unsupportedMessage c
  have first := congrArg List.head? whole
  rw [ends] at first
  cases first

/-- It ends in the name of the operation. -/
theorem operation_suffix_unsupportedMessage (c : Command) :
    c.operation.toList <:+ (unsupportedMessage c).toList := by
  obtain ⟨start, ends⟩ := exists_unsupportedMessage c
  rw [ends]
  exact List.suffix_append (.char 'U' :: start) c.operation.toList

end Failure

/-! ## Main statement -/

/-- **The first failure is told.** As long as a store raises nothing but faults that concern the
command, every command is answered, whatever store it is. If one of its steps fails, the answer is
a document with the single member `error`. Its message is introduced exactly if the operation is in
the list of its kind, and then it is the introduction and what the first failing step says; else it
ends in the name of the operation. If no step fails, the answer is the reply of the store as it is
shown. -/
theorem first_failure_is_told {σ : Type} [Storage σ] {s : σ} (faults : Storage.ReportsFaults s)
    (limit : Nat) (c : Command) :
    ∃ v, (Storage.dispatch limit s c).2 = .ok v ∧
      (∀ failure, firstFailure (Storage.steps limit s c) = some failure →
        ∃ message, v = .doc [("error", .str message)] ∧
          (("MongoDB operation failed: " : Text).toList <+: message.toList ↔
            c.operation ∈ c.target.operationNames) ∧
          (c.operation ∈ c.target.operationNames →
            message = "MongoDB operation failed: " ++ failure.reason) ∧
          (c.operation ∉ c.target.operationNames → c.operation.toList <:+ message.toList)) ∧
      (firstFailure (Storage.steps limit s c) = none →
        ∃ operation request reply, c.operation? = some operation ∧
          operation.request limit c.arguments = .ok request ∧
          (Storage.perform (Storage.addressed s operation) request).2 = .ok reply ∧
          reply.present = .ok v) := by
  obtain ⟨v, answer⟩ := Storage.exists_answer faults limit c
  have outcome : answered (Storage.execute limit s c).2 = .ok v := answer
  refine ⟨v, answer, ?_, ?_⟩
  · intro failure first
    have failed := (Storage.follows_execute limit s c failure).mpr first
    have told := Storage.told_execute faults limit c failure failed
    rw [failed, answered, told] at outcome
    cases outcome
    refine ⟨failure.message, rfl, ?_⟩
    by_cases listed : c.operation ∈ c.target.operationNames
    · rw [Storage.message_of_execute listed failed]
      exact ⟨iff_of_true (Failure.introduction_prefix_append _) listed, fun _ => rfl,
        fun unlisted => absurd listed unlisted⟩
    · rw [Storage.execute_of_not_listed listed] at failed
      cases failed
      exact ⟨iff_of_false (Failure.not_introduction_prefix_unsupportedMessage c) listed,
        fun listed' => absurd listed' listed,
        fun _ => Failure.operation_suffix_unsupportedMessage c⟩
  · intro passed
    obtain ⟨operation, request, reply, v', known, asked, performed, shown, executed⟩ :=
      Storage.exists_reply_of_firstFailure passed
    rw [executed] at outcome
    cases outcome
    exact ⟨operation, request, reply, known, asked, performed, shown⟩

/-- An update of which everything is wrong, its store included: the filter is told. -/
theorem broken_update_tells_its_filter :
    let s : Store := { collections := [{ name := "c", fault := some ⟨.operation, "down"⟩ }] }
    let c : Command := ⟨.collection "c", "updateOne", "[], nonsense"⟩
    s.FaultsReported ∧
      firstFailure (Storage.steps 5 s c) =
        some (.arguments (.notDocument .updateFilter (.arr []))) ∧
      (Storage.dispatch 5 s c).2 = .ok (.doc [("error",
        .str "MongoDB operation failed: update filter must be a document, got list")]) := by
  intro s c
  have faults : s.FaultsReported := by
    constructor
    · intro fault raised
      cases raised
    · intro c member fault raised
      rw [List.mem_singleton.mp member] at raised
      cases raised
      rfl
  have cut : Command.segments ("[], nonsense" : Text).toList =
      [("[]" : Text).toList, ("nonsense" : Text).toList] := by decide
  have read : Command.Argument.readStrict ("[]" : Text).toList = .ok (.arr []) := by cbv
  have refused : (Operation.collection "c" .updateOne).request 5 "[], nonsense" =
      .error (.arguments (.notDocument .updateFilter (.arr []))) := by
    rw [Operation.request, CollectionOperation.request, Interpretation.filterAndUpdate, cut]
    simp only [Interpretation.document, Denotes.decoded_of_readStrict read]
    rfl
  have executed : (Storage.execute 5 s c).2 =
      .error (.arguments (.notDocument .updateFilter (.arr []))) := by
    have known : c.operation? = some (.collection "c" .updateOne) := by decide
    rw [Storage.execute, known]
    simp only [c, refused]
  have first := (Storage.follows_execute 5 s c _).mp executed
  have listed : c.operation ∈ c.target.operationNames := by decide
  obtain ⟨v, answer, failed, -⟩ := first_failure_is_told faults.reportsFaults 5 c
  obtain ⟨message, rfl, -, introduced, -⟩ := failed _ first
  refine ⟨faults, first, ?_⟩
  rw [answer, introduced listed]
  rfl

end QueryDesk
