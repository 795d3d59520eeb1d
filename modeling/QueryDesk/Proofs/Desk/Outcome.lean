import QueryDesk.Proofs.Desk.Execution
import QueryDesk.Proofs.Desk.Interpretation
import QueryDesk.Proofs.Store.Perform
import QueryDesk.Proofs.Store.Reply

/-!
# What comes of a command

As long as a store raises nothing but faults that concern the command (`Storage.ReportsFaults`), a
dispatched command is always answered (`Storage.exists_answer`): whatever stops it on its way is
told in the answer. A store in memory is such a store unless it was told otherwise
(`Store.FaultsReported`), and its answers are JSON with finite numbers, as long as the server counts
in whole numbers (`Store.isFinite_of_dispatch`).
-/

namespace QueryDesk

/-! ## What is asked of a store -/

/-- Whatever a command asks of the store, the fault of it concerns the command. -/
def Storage.ReportsFaults {σ : Type} [Storage σ] (s : σ) : Prop :=
  ∀ (operation : Operation) (request : Request) (fault : Fault),
    (perform (addressed s operation) request).2 = .error fault → fault.isReported = true

/-- The faults that a store was told to raise concern the command. -/
structure Store.FaultsReported (s : Store) : Prop where
  database : ∀ fault ∈ s.fault, fault.isReported = true
  collections : ∀ c ∈ s.collections, ∀ fault ∈ c.fault, fault.isReported = true

/-- The replies to writes that a store was told to give count in whole numbers, as those of a server
do. -/
def Store.HasWholeCounts (s : Store) : Prop :=
  ∀ c ∈ s.collections, ∀ reply ∈ c.writeReply, reply.HasWholeCounts

namespace Store

variable {s : Store}

/-- A collection that is looked up is one of the store's, or new. -/
theorem collection_mem_or_new (s : Store) (name : Text) :
    s.collection name ∈ s.collections ∨ s.collection name = { name } := by
  rw [collection]
  cases found : s.find? name with
  | none => exact .inr rfl
  | some c => exact .inl (List.mem_of_find?_eq_some found)

/-- The collections after one came into being are the old ones, and perhaps a new one. -/
theorem mem_collections_touch {name : Text} {c : Collection}
    (member : c ∈ (s.touch name).collections) : c ∈ s.collections ∨ c = { name } := by
  rw [touch] at member
  split at member
  · exact .inl member
  · rcases List.mem_append.mp member with old | new
    · exact .inl old
    · exact .inr (List.mem_singleton.mp new)

theorem fault_touch (s : Store) (name : Text) : (s.touch name).fault = s.fault := by
  rw [touch_eq]

/-- The reply to a write is one that the store was told to give, or an acknowledgement. -/
theorem writeReply_cases (s : Store) (name : Text) (n : Nat) (modified : Value) :
    (∃ c ∈ s.collections, c.writeReply = some (s.writeReply name n modified)) ∨
      s.writeReply name n modified =
        { acknowledged := true, selected := .int n, modified := modified } := by
  rw [writeReply]
  cases given : (s.collection name).writeReply with
  | none => exact .inr rfl
  | some reply =>
    rcases s.collection_mem_or_new name with member | new
    · exact .inl ⟨_, member, given⟩
    · rw [new] at given
      cases given

theorem FaultsReported.touch (faults : s.FaultsReported) (name : Text) :
    (s.touch name).FaultsReported where
  database := by
    rw [fault_touch]
    exact faults.database
  collections := by
    intro c member fault raised
    rcases mem_collections_touch member with old | rfl
    · exact faults.collections c old fault raised
    · cases raised

theorem HasWholeCounts.touch (whole : s.HasWholeCounts) (name : Text) :
    (s.touch name).HasWholeCounts := by
  intro c member reply given
  rcases mem_collections_touch member with old | rfl
  · exact whole c old reply given
  · cases given

/-! ## Faults -/

theorem isReported_of_orElse {first second : Option Fault} {fault : Fault}
    (found : (first <|> second) = some fault)
    (each : ∀ fault, first = some fault → fault.isReported = true)
    (each' : ∀ fault, second = some fault → fault.isReported = true) :
    fault.isReported = true := by
  cases first with
  | none => exact each' fault found
  | some other =>
    cases found
    exact each _ rfl

theorem isReported_of_textFault? {text : Text} {fault : Fault}
    (found : textFault? text = some fault) : fault.isReported = true := by
  rw [textFault?] at found
  split at found
  · cases found
  · cases found
    rfl

theorem isReported_of_nameFault? {name : Text} {fault : Fault}
    (found : nameFault? name = some fault) : fault.isReported = true := by
  rw [nameFault?] at found
  refine isReported_of_orElse found (fun _ raised => isReported_of_textFault? raised)
    (fun fault raised => ?_)
  split at raised
  · cases raised
    rfl
  · cases raised

mutual

/-- What BSON cannot hold is a fault that concerns the command. -/
theorem isReported_of_encodingFault? {j : Json} {fault : Fault}
    (found : encodingFault? j = some fault) : fault.isReported = true := by
  cases j with
  | int n =>
    rw [encodingFault?] at found
    split at found
    · cases found
    · cases found
      rfl
  | str s => exact isReported_of_textFault? found
  | arr items =>
    rw [encodingFault?] at found
    exact isReported_of_itemsFault? found
  | obj members =>
    rw [encodingFault?] at found
    exact isReported_of_membersFault? found
  | _ => cases found

theorem isReported_of_itemsFault? {items : List Json} {fault : Fault}
    (found : itemsFault? items = some fault) : fault.isReported = true := by
  cases items with
  | nil => cases found
  | cons item rest =>
    rw [itemsFault?] at found
    exact isReported_of_orElse found (fun _ raised => isReported_of_encodingFault? raised)
      (fun _ raised => isReported_of_itemsFault? raised)

theorem isReported_of_membersFault? {members : List (Text × Json)} {fault : Fault}
    (found : membersFault? members = some fault) : fault.isReported = true := by
  cases members with
  | nil => cases found
  | cons pair rest =>
    obtain ⟨name, value⟩ := pair
    rw [membersFault?] at found
    exact isReported_of_orElse found (fun _ raised => isReported_of_nameFault? raised)
      fun _ raised => isReported_of_orElse raised
        (fun _ raised => isReported_of_encodingFault? raised)
        (fun _ raised => isReported_of_membersFault? raised)

end

/-- A request is refused for a reason that concerns the command. -/
theorem isReported_of_refusal? {request : Request} {fault : Fault}
    (refused : request.refusal? s = some fault) : fault.isReported = true := by
  cases request with
  | database request =>
    cases request with
    | createCollection name options =>
      obtain ⟨option, -, rfl⟩ := Option.map_eq_some_iff.mp refused
      rfl
    | _ => cases refused
  | collection name request =>
    cases request with
    -- documents that are inserted are encoded before anything is logged
    | insertOne document =>
      rw [Request.refusal?] at refused
      split at refused
      · exact isReported_of_orElse refused (fun _ raised => isReported_of_membersFault? raised)
          (fun _ raised => isReported_of_membersFault? raised)
      · cases refused
    | _ => cases refused

theorem isReported_of_scriptedFault? {request : Request} {fault : Fault}
    (faults : s.FaultsReported) (raised : request.scriptedFault? s = some fault) :
    fault.isReported = true := by
  cases request with
  | database request => exact faults.database fault raised
  | collection name request =>
    rw [Request.scriptedFault?] at raised
    rcases s.collection_mem_or_new name with member | new
    · exact faults.collections _ member fault raised
    · rw [new] at raised
      cases raised

theorem isReported_of_fulfilled {request : Request} {fault : Fault}
    (failed : (s.fulfilled request).2 = .error fault) : fault.isReported = true := by
  cases request with
  | database request =>
    cases request with
    | createCollection name options =>
      replace failed : (s.onDatabase (.createCollection name options)).2 = .error fault := failed
      rw [onDatabase] at failed
      split at failed
      · cases failed
        rfl
      · cases failed
    | _ => cases failed
  | collection name request =>
    cases request with
    | createIndex keys =>
      obtain ⟨reason, -, rfl⟩ := exists_of_createIndex_error failed
      exact reason.isReported_fault
    | _ => cases failed

/-- What stops a request in a store concerns the command. -/
theorem isReported_of_perform {request : Request} {fault : Fault} (faults : s.FaultsReported)
    (failed : (s.perform request).2 = .error fault) : fault.isReported = true := by
  -- refused before its log, stopped by the scripted fault, or failed while it was carried out
  rcases s.perform_cases request with
    ⟨other, refused, performed⟩ | ⟨other, -, raised, performed⟩ | ⟨-, performed⟩
  · rw [performed] at failed
    cases failed
    exact isReported_of_refusal? refused
  · rw [performed] at failed
    cases failed
    exact isReported_of_scriptedFault? faults raised
  · rw [performed] at failed
    exact isReported_of_fulfilled failed

/-! ## Replies -/

theorem hasWholeCounts_writeReply (whole : s.HasWholeCounts) (name : Text) (n : Nat)
    {modified : Value} (count : modified = .null ∨ ∃ m, modified = .int m) :
    (s.writeReply name n modified).HasWholeCounts := by
  rcases s.writeReply_cases name n modified with ⟨c, member, given⟩ | own
  · exact whole c member _ given
  · rw [own]
    exact ⟨.inr ⟨n, rfl⟩, count⟩

theorem isOrderly_of_fulfilled {request : Request} {reply : Reply} (whole : s.HasWholeCounts)
    (replied : (s.fulfilled request).2 = .ok reply) : reply.IsOrderly := by
  cases request with
  | database request =>
    cases request with
    | createCollection name options =>
      replace replied : (s.onDatabase (.createCollection name options)).2 = .ok reply := replied
      rw [onDatabase] at replied
      split at replied
      · cases replied
      · cases replied
        trivial
    | listCollections filter =>
      cases replied
      intro entry member
      obtain ⟨c, -, named⟩ := List.mem_map.mp (List.mem_filter.mp member).1
      exact ⟨c, named.symm⟩
    | dropDatabase | runCommand =>
      cases replied
      trivial
  | collection name request =>
    cases request with
    | updateOne | updateMany =>
      cases replied
      exact hasWholeCounts_writeReply whole name _ (.inr ⟨_, rfl⟩)
    | deleteOne | deleteMany =>
      cases replied
      exact hasWholeCounts_writeReply whole name _ (.inl rfl)
    | createIndex keys =>
      obtain ⟨text, -, rfl⟩ := exists_of_createIndex_ok replied
      trivial
    | _ =>
      cases replied
      trivial

/-- A store that counts in whole numbers gives orderly replies. -/
theorem isOrderly_of_perform {request : Request} {reply : Reply} (whole : s.HasWholeCounts)
    (replied : (s.perform request).2 = .ok reply) : reply.IsOrderly := by
  -- logging leaves the scripted replies as they are
  have recorded : (s.record request).HasWholeCounts := whole
  rw [perform_of_ok replied] at replied
  exact isOrderly_of_fulfilled recorded replied

end Store

/-! ## Failures that are told -/

/-- If the step fails, the failure is told in the answer. -/
def Told {α : Type} (x : Except Failure α) : Prop :=
  ∀ failure, x = .error failure → failure.escaping? = none

namespace Told

variable {α : Type}

theorem ok (a : α) : Told (.ok a) := by
  intro failure failed
  cases failed

/-- What is told has an answer. -/
theorem answered {outcome : Except Failure Value} (told : Told outcome) :
    ∃ v, QueryDesk.answered outcome = .ok v := by
  cases outcome with
  | ok result => exact ⟨result, rfl⟩
  | error failure =>
    refine ⟨.ofJson failure.answer, ?_⟩
    rw [QueryDesk.answered, told failure rfl]

end Told

/-! ## Answers -/

namespace Storage

variable {σ : Type} [Storage σ] {s : σ}

/-- A fault of a request is told, whether it comes from the store or from showing its reply. -/
theorem told_fulfil {request : Request}
    (faults : ∀ fault, (perform s request).2 = .error fault → fault.isReported = true) :
    Told (fulfil s request).2 := by
  -- a fault that is reported is told
  have told : ∀ {fault : Fault}, fault.isReported = true →
      Told (.error (.store fault) : Except Failure Value) := by
    rintro fault reported _ ⟨rfl⟩
    rw [Failure.escaping?, if_pos reported]
  rcases fulfil_cases s request with
    ⟨fault, stopped, failed⟩ | ⟨reply, -, ⟨fault, hidden, failed⟩ | ⟨v, -, shown⟩⟩
  · rw [failed]
    exact told (faults fault stopped)
  · rw [failed]
    exact told (Reply.isReported_of_present hidden)
  · rw [shown]
    exact .ok v

/-- Whatever stops a command is told. -/
theorem told_execute (faults : ReportsFaults s) (limit : Nat) (c : Command) :
    Told (execute limit s c).2 := by
  rcases Storage.execute_cases limit s c with
    ⟨-, unknown⟩ | ⟨operation, -, ⟨failure, refused, executed⟩ | ⟨request, -, executed⟩⟩
  · rw [unknown]
    rintro _ ⟨rfl⟩
    rfl
  · rw [executed]
    rintro _ ⟨rfl⟩
    obtain ⟨refusal, rfl⟩ :=
      (operation.follows_request limit c.arguments).exists_refusal refused
    cases refusal <;> rfl
  · rw [executed]
    exact told_fulfil (faults operation request)

/-- A dispatched command is always answered. -/
theorem exists_answer (faults : ReportsFaults s) (limit : Nat) (c : Command) :
    ∃ v, (dispatch limit s c).2 = .ok v :=
  (told_execute faults limit c).answered

end Storage

namespace Store

variable {s : Store}

theorem FaultsReported.addressed (faults : s.FaultsReported) (operation : Operation) :
    (Storage.addressed s operation).FaultsReported := by
  cases operation with
  | database operation => exact faults
  | collection name operation => exact faults.touch name

theorem FaultsReported.reportsFaults (faults : s.FaultsReported) : Storage.ReportsFaults s :=
  fun operation _ _ failed => isReported_of_perform (faults.addressed operation) failed

theorem HasWholeCounts.addressed (whole : s.HasWholeCounts) (operation : Operation) :
    (Storage.addressed s operation).HasWholeCounts := by
  cases operation with
  | database operation => exact whole
  | collection name operation => exact whole.touch name

theorem isFinite_of_fulfil {request : Request} {v : Value} (whole : s.HasWholeCounts)
    (replied : (Storage.fulfil s request).2 = .ok v) : v.IsFinite := by
  rcases Storage.fulfil_cases s request with
    ⟨fault, -, failed⟩ | ⟨reply, performed, ⟨fault, -, failed⟩ | ⟨v', shown, fulfilled⟩⟩
  · rw [failed] at replied
    cases replied
  · rw [failed] at replied
    cases replied
  · rw [fulfilled] at replied
    cases replied
    exact Reply.isFinite_of_present (isOrderly_of_perform whole performed) shown

/-- The answer to a command is JSON with finite numbers. -/
theorem isFinite_of_dispatch (whole : s.HasWholeCounts) {limit : Nat} {c : Command} {v : Value}
    (answer : (Storage.dispatch limit s c).2 = .ok v) : v.IsFinite := by
  -- the answer that tells a failure is a document of texts
  have told : ∀ failure : Failure, answered (.error failure) = .ok v → v.IsFinite := by
    intro failure answer
    rw [answered] at answer
    split at answer
    · cases answer
    · cases answer
      exact Value.isFinite_ofJson rfl
  replace answer : answered (Storage.execute limit s c).2 = .ok v := answer
  rcases Storage.execute_cases limit s c with
    ⟨-, unknown⟩ | ⟨operation, -, ⟨failure, -, executed⟩ | ⟨request, -, executed⟩⟩
  · rw [unknown] at answer
    exact told _ answer
  · rw [executed] at answer
    exact told _ answer
  · rw [executed] at answer
    cases outcome : (Storage.fulfil (Storage.addressed s operation) request).2 with
    | error failure =>
      rw [outcome] at answer
      exact told _ answer
    | ok result =>
      rw [outcome] at answer
      cases answer
      exact isFinite_of_fulfil (whole.addressed operation) outcome

end Store

end QueryDesk
