import Mathlib
import QueryDesk.Proofs.Desk.Frame

/-!
# The balance of a run

A run dispatches commands one after the other. `Store.turns` is what can be seen of it from outside:
every command with its answer, and with what the database says it has run. The number of documents
in each collection can be told from that alone (`Store.run_conserves_documents`): it is what there
was, or nothing if the database was dropped, plus the insertions that did not fail, minus the counts
that deletions were answered with, where nothing before the last drop counts.

* `Store.dispatch_cases`: a command fails and changes no documents, or it is one request.
* `Store.dropped_of_operation`, `Store.operation_of_dropped`: what the database runs tells whether
  it was dropped, and nothing but the operation of that name drops it.
* `Store.length_documents_turn`: what one turn does to the number of documents.
* `Store.ReportsWrites.run`: no command makes the store hide what later writes do.
-/

namespace QueryDesk

/-! ## Turns -/

/-- A command of a run, with what is seen of it. -/
structure Turn where
  command : Command
  answer : Except Fault Value
  /-- The commands that the database ran. -/
  ran : List Json

namespace Turn

/-- There is no answer, or it is an error. -/
def failed (t : Turn) : Bool :=
  match t.answer with
  | .error _ => true
  | .ok (.doc members) => (Members.names members).contains "error"
  | .ok _ => false

/-- The database was dropped. -/
def dropped (t : Turn) : Bool :=
  t.ran.any fun command =>
    match command with
    | .str name => name == "dropDatabase"
    | _ => false

/-- A document was inserted in the collection. -/
def inserted (name : Text) (t : Turn) : Bool :=
  decide (t.command.target = .collection name ∧ t.command.operation = "insertOne") && !t.failed

/-- The count of deleted documents in the answer. -/
def deletedCount (t : Turn) : Int :=
  match t.answer with
  | .ok (.doc members) =>
    match Members.get? members "deletedCount" with
    | some (.int n) => n
    | _ => 0
  | _ => 0

/-- How many documents of the collection are reported as deleted. -/
def deleted (name : Text) (t : Turn) : Int :=
  if t.command.target = .collection name ∧
      t.command.operation ∈ (["deleteOne", "deleteMany"] : List Text) then
    t.deletedCount
  else 0

/-- By how much the turn changes the number of documents, as far as it shows. -/
def balance (name : Text) (t : Turn) : Int :=
  (if t.inserted name then 1 else 0) - t.deleted name

variable {t : Turn} {name : Text}

theorem failed_eq_false {v : Value} (answer : t.answer = .ok v) (quiet : ¬ v.TellsError) :
    t.failed = false := by
  rw [failed, answer]
  cases v with
  | doc members =>
    show (Members.names members).contains "error" = false
    rw [List.contains_eq_mem]
    exact decide_eq_false fun named => quiet ⟨members, rfl, named⟩
  | _ => rfl

theorem failed_of_answered {failure : Failure} (answer : t.answer = answered (.error failure)) :
    t.failed = true := by
  rw [failed, answer, answered]
  cases failure.escaping? with
  | some fault => rfl
  | none => rfl

/-- A turn whose answer is that of a failure counts for nothing. -/
theorem balance_of_answered {failure : Failure} (answer : t.answer = answered (.error failure)) :
    t.balance name = 0 := by
  have uncounted : t.deletedCount = 0 := by
    rw [deletedCount, answer, answered]
    cases failure.escaping? with
    | some fault => rfl
    | none => rfl
  simp [balance, inserted, deleted, failed_of_answered answer, uncounted]

/-- A turn of any other operation, or with another target, counts for nothing. -/
theorem balance_of_other (other : t.command.target = .collection name →
    t.command.operation ∉ (["insertOne", "deleteOne", "deleteMany"] : List Text)) :
    t.balance name = 0 := by
  by_cases here : t.command.target = .collection name
  · obtain ⟨kept, undeleted⟩ := List.mem_cons.not.mp (other here) |> not_or.mp
    simp [balance, inserted, deleted, kept, undeleted]
  · simp [balance, inserted, deleted, here]

/-- An insertion counts for one if it is answered without an error. -/
theorem balance_of_insertOne {v : Value} (here : t.command.target = .collection name)
    (operation : t.command.operation = "insertOne") (answer : t.answer = .ok v)
    (quiet : ¬ v.TellsError) : t.balance name = 1 := by
  simp [balance, inserted, deleted, failed_eq_false answer quiet, here, operation]

/-- A deletion counts for what it is answered with. -/
theorem balance_of_deletion {n : Nat} (here : t.command.target = .collection name)
    (operation : t.command.operation ∈ (["deleteOne", "deleteMany"] : List Text))
    (answer : t.answer = answered
      ((Reply.deleted { acknowledged := true, selected := .int n }).present.mapError .store)) :
    t.balance name = -n := by
  have undone : t.inserted name = false := by
    rw [inserted, decide_eq_false, Bool.false_and]
    rintro ⟨-, named⟩
    rw [named] at operation
    exact absurd operation (by decide)
  have done : t.deleted name = n := by
    rw [deleted, if_pos ⟨here, operation⟩, deletedCount, answer]
    rfl
  rw [balance, undone, done]
  exact zero_sub _

theorem sum_balance (name : Text) (turns : List Turn) :
    (turns.map (balance name)).sum =
      turns.countP (inserted name) - (turns.map (deleted name)).sum := by
  induction turns with
  | nil => rfl
  | cons t rest ih =>
    rw [List.map_cons, List.sum_cons, List.map_cons, List.sum_cons, List.countP_cons, ih, balance]
    split <;> omega

end Turn

namespace Store

/-- A command on the store, with what is seen of it. -/
def turn (limit : Nat) (s : Store) (c : Command) : Turn where
  command := c
  answer := (Storage.dispatch limit s c).2
  ran := (Storage.dispatch limit s c).1.commands.drop s.commands.length

/-- The store after commands that are dispatched one after the other. -/
def run (limit : Nat) (s : Store) (cs : List Command) : Store :=
  cs.foldl (fun s c => (Storage.dispatch limit s c).1) s

/-- What is seen of a run. -/
def turns (limit : Nat) : Store → List Command → List Turn
  | _, [] => []
  | s, c :: cs => s.turn limit c :: turns limit (Storage.dispatch limit s c).1 cs

theorem run_concat (limit : Nat) (s : Store) (cs : List Command) (c : Command) :
    s.run limit (cs ++ [c]) = (Storage.dispatch limit (s.run limit cs) c).1 := by
  rw [run, List.foldl_append]
  rfl

theorem turns_concat (limit : Nat) (s : Store) (cs : List Command) (c : Command) :
    s.turns limit (cs ++ [c]) = s.turns limit cs ++ [(s.run limit cs).turn limit c] := by
  induction cs generalizing s with
  | nil => rfl
  | cons first rest ih =>
    rw [List.cons_append, turns, turns, ih, List.cons_append]
    rfl

end Store

/-! ## What a request runs -/

/-- The commands that the database runs for a request. -/
def Request.ran : Request → List Json
  | .database .dropDatabase => [.str "dropDatabase"]
  | .database (.runCommand command) => [.obj command]
  | _ => []

/-- A request to a collection leaves the documents of the others alone. -/
theorem Request.effect_elsewhere {other name : Text} (elsewhere : other ≠ name)
    (request : CollectionRequest) (id : BitVec 96) (before : Text → List Document) :
    (Request.collection other request).effect id before name = before name := by
  cases request with
  | insertOne document => exact Function.update_of_ne elsewhere.symm _ _
  | deleteOne filter | deleteMany filter => exact Function.update_of_ne elsewhere.symm _ _
  | _ => rfl

theorem length_eraseP_add {α : Type} (p : α → Bool) (l : List α) :
    (l.eraseP p).length + min 1 (l.countP p) = l.length := by
  rw [List.length_eraseP]
  cases found : l.any p with
  | true =>
    have positive : 0 < l.countP p := List.countP_pos_iff.mpr (List.any_eq_true.mp found)
    have bound := List.countP_le_length (p := p) (l := l)
    rw [if_pos rfl]
    omega
  | false =>
    have none : l.countP p = 0 := by
      rw [List.countP_eq_zero]
      exact fun a member => Bool.not_eq_true _ ▸ List.any_eq_false.mp found a member
    rw [none]
    rfl

namespace Store

theorem commands_touch (s : Store) (name : Text) : (s.touch name).commands = s.commands := by
  rw [touch_eq]

theorem commands_addressed (s : Store) (operation : Operation) :
    (Storage.addressed s operation).commands = s.commands := by
  cases operation with
  | database operation => rfl
  | collection name operation => exact s.commands_touch name

theorem commands_fulfilled (s : Store) (request : Request) :
    (s.fulfilled request).1.commands = s.commands ++ request.ran := by
  cases request with
  | database request =>
    cases request with
    | createCollection name options =>
      refine Eq.trans ?_ (List.append_nil _).symm
      rcases s.createCollection_cases name options with ⟨fault, same⟩ | created
      · rw [same]
      · rw [created]
        exact commands_touch _ name
    | listCollections filter => exact (List.append_nil _).symm
    | _ => rfl
  | collection name request => cases request <;> exact (List.append_nil _).symm

theorem commands_of_perform_error (s : Store) {request : Request} {fault : Fault}
    (failed : (s.perform request).2 = .error fault) :
    (s.perform request).1.commands = s.commands := by
  rcases s.perform_of_error failed with same | recorded
  · rw [same]
  · rw [recorded]
    rfl

/-! ## One turn -/

/-- A command fails and leaves the documents and the commands as they were, or it is one request
that is carried out, and answered with what the reply is shown as. -/
theorem dispatch_cases (limit : Nat) (s : Store) (c : Command) :
    ((Storage.dispatch limit s c).1.documents = s.documents ∧
      (Storage.dispatch limit s c).1.commands = s.commands ∧
      ∃ failure, (Storage.dispatch limit s c).2 = answered (.error failure)) ∨
    ∃ request reply id, request.operation.target = c.target ∧
      request.operation.name = c.operation ∧
      ((Storage.addressed s request.operation).perform request).2 = .ok reply ∧
      (Storage.dispatch limit s c).1.documents = request.effect id s.documents ∧
      (Storage.dispatch limit s c).1.commands = s.commands ++ request.ran ∧
      (Storage.dispatch limit s c).2 = answered (reply.present.mapError .store) := by
  rw [Storage.dispatch_eq]
  rcases Storage.execute_cases limit s c with
    ⟨-, executed⟩ | ⟨operation, known, ⟨failure, -, executed⟩ | ⟨request, asked, executed⟩⟩
  · rw [executed]
    exact .inl ⟨rfl, rfl, .unsupported c, rfl⟩
  · rw [executed]
    exact .inl ⟨s.documents_addressed operation, s.commands_addressed operation, failure, rfl⟩
  · obtain ⟨target, named⟩ := Command.operation?_eq_some_iff.mp known
    have same := Operation.operation_of_request asked
    subst same
    rw [executed, Storage.fulfil_fst, Storage.perform_store]
    rcases Storage.fulfil_cases (Storage.addressed s request.operation) request with
      ⟨fault, stopped, failed⟩ | ⟨reply, performed, -⟩
    · refine .inl ⟨?_, ?_, _, congrArg answered failed⟩
      · rw [documents_of_perform_error _ stopped, documents_addressed]
      · rw [commands_of_perform_error _ stopped, commands_addressed]
    · let id := BitVec.ofNat 96 ((Storage.addressed s request.operation).insertions + 1)
      refine .inr ⟨request, reply, id, target, named, performed, ?_, ?_, ?_⟩
      · rw [documents_of_perform_ok _ (s.addresses_addressed request) performed,
          documents_addressed]
      · rw [perform_of_ok performed, commands_fulfilled]
        exact congrArg (· ++ request.ran) (s.commands_addressed request.operation)
      · exact congrArg answered (Storage.fulfil_of_perform_ok performed)

section

variable {limit : Nat} {s : Store} {c : Command}

theorem ran_turn {commands : List Json}
    (more : (Storage.dispatch limit s c).1.commands = s.commands ++ commands) :
    (s.turn limit c).ran = commands := by
  show List.drop _ _ = _
  rw [more, List.drop_left]

theorem ran_turn_of_idle (idle : (Storage.dispatch limit s c).1.commands = s.commands) :
    (s.turn limit c).ran = [] :=
  ran_turn (idle.trans (List.append_nil _).symm)

/-- What drops the database is the operation of that name. -/
theorem operation_of_dropped (dropped : (s.turn limit c).dropped = true) :
    c.target = .database ∧ c.operation = "dropDatabase" := by
  rcases dispatch_cases limit s c with
    ⟨-, commands, -⟩ | ⟨request, reply, id, target, named, -, -, commands, -⟩
  · rw [Turn.dropped, ran_turn_of_idle commands] at dropped
    cases dropped
  · rw [Turn.dropped, ran_turn commands] at dropped
    cases request with
    | database request =>
      cases request with
      | dropDatabase => exact ⟨target.symm, named.symm⟩
      | _ => cases dropped
    | collection name request => cases dropped

/-- The operation of that name has dropped the database if it is answered without an error. -/
theorem dropped_of_operation (database : c.target = .database)
    (operation : c.operation = "dropDatabase") (quiet : (s.turn limit c).failed = false) :
    (s.turn limit c).dropped = true := by
  rcases dispatch_cases limit s c with
    ⟨-, -, failure, answer⟩ | ⟨request, reply, id, target, named, -, -, commands, -⟩
  · rw [Turn.failed_of_answered answer] at quiet
    cases quiet
  · rw [Turn.dropped, ran_turn commands]
    rw [database] at target
    rw [operation] at named
    cases request with
    | database request =>
      cases request with
      | dropDatabase => rfl
      | _ => exact absurd named (of_decide_eq_true rfl)
    | collection name request => cases target

end

/-- The store reports what its writes do: no other reply to a write was prepared. -/
def ReportsWrites (s : Store) : Prop :=
  ∀ c ∈ s.collections, c.writeReply = none

namespace ReportsWrites

variable {s : Store}

theorem writeReply (reports : s.ReportsWrites) (name : Text) (n : Nat) (modified : Value) :
    s.writeReply name n modified = { acknowledged := true, selected := .int n, modified } := by
  rcases s.writeReply_cases name n modified with ⟨c, member, given⟩ | own
  · rw [reports c member] at given
    cases given
  · exact own

theorem touch (reports : s.ReportsWrites) (name : Text) : (s.touch name).ReportsWrites := by
  intro c member
  rcases mem_collections_touch member with old | rfl
  · exact reports c old
  · rfl

theorem addressed (reports : s.ReportsWrites) (operation : Operation) :
    (Storage.addressed s operation).ReportsWrites := by
  cases operation with
  | database operation => exact reports
  | collection name operation => exact reports.touch name

theorem modify (reports : s.ReportsWrites) (name : Text) {change : Collection → Collection}
    (kept : ∀ c, (change c).writeReply = c.writeReply) : (s.modify name change).ReportsWrites := by
  intro c member
  obtain ⟨old, found, rfl⟩ := List.mem_map.mp member
  split
  · rw [kept]
    exact reports old found
  · exact reports old found

theorem fulfilled (reports : s.ReportsWrites) (request : Request) :
    (s.fulfilled request).1.ReportsWrites := by
  cases request with
  | database request =>
    cases request with
    | createCollection name options =>
      rcases s.createCollection_cases name options with ⟨fault, same⟩ | created
      · rw [same]
        exact reports
      · rw [created]
        exact ReportsWrites.touch (s := { s with created := s.created ++ [(name, options)] })
          reports name
    | dropDatabase => exact List.forall_mem_nil _
    | _ => exact reports
  | collection name request =>
    cases request with
    | insertOne document => exact modify reports name fun _ => rfl
    | deleteOne filter | deleteMany filter => exact modify reports name fun _ => rfl
    | _ => exact reports

theorem perform (reports : s.ReportsWrites) (request : Request) :
    (s.perform request).1.ReportsWrites := by
  have recorded : (s.record request).ReportsWrites := reports
  rcases s.perform_cases request with
    ⟨fault, -, stopped⟩ | ⟨fault, -, -, stopped⟩ | ⟨-, done⟩
  · rw [stopped]
    exact reports
  · rw [stopped]
    exact recorded
  · rw [done]
    exact recorded.fulfilled request

theorem dispatch (reports : s.ReportsWrites) (limit : Nat) (c : Command) :
    (Storage.dispatch limit s c).1.ReportsWrites := by
  rw [Storage.dispatch_eq]
  rcases Storage.execute_cases limit s c with
    ⟨-, executed⟩ | ⟨operation, -, ⟨failure, -, executed⟩ | ⟨request, -, executed⟩⟩
  · rw [executed]
    exact reports
  · rw [executed]
    exact reports.addressed operation
  · rw [executed, Storage.fulfil_fst, Storage.perform_store]
    exact (reports.addressed operation).perform request

theorem run (reports : s.ReportsWrites) (limit : Nat) (cs : List Command) :
    (s.run limit cs).ReportsWrites := by
  induction cs generalizing s with
  | nil => exact reports
  | cons c rest ih => exact ih (reports.dispatch limit c)

/-- A deletion is answered with the number of documents that it takes away. -/
theorem reply_of_deletion (reports : s.ReportsWrites) {name : Text} {request : CollectionRequest}
    (deletion : (Request.collection name request).operation.name ∈
      (["deleteOne", "deleteMany"] : List Text))
    {reply : Reply} (performed : (s.perform (.collection name request)).2 = .ok reply) :
    ∃ n : Nat, reply = .deleted { acknowledged := true, selected := .int n } ∧
      ∀ id, ((Request.collection name request).effect id s.documents name).length + n =
        (s.documents name).length := by
  have recorded : (s.record (.collection name request)).ReportsWrites := reports
  rw [perform_of_ok performed] at performed
  cases request with
  | deleteOne filter =>
    cases performed
    refine ⟨_, congrArg Reply.deleted (recorded.writeReply name _ .null), fun id => ?_⟩
    rw [Request.effect, Function.update_self]
    exact length_eraseP_add _ _
  | deleteMany filter =>
    cases performed
    refine ⟨_, congrArg Reply.deleted (recorded.writeReply name _ .null), fun id => ?_⟩
    rw [Request.effect, Function.update_self, List.countP_eq_length_filter, Nat.add_comm]
    exact (List.length_eq_length_filter_add _).symm
  | _ => exact absurd deletion (of_decide_eq_true rfl)

end ReportsWrites

/-- A request that is carried out on a collection changes the number of its documents by what the
turn shows. -/
theorem length_effect_turn {s : Store} (reports : s.ReportsWrites) {limit : Nat} {c : Command}
    {name : Text} {request : CollectionRequest} {reply : Reply} (id : BitVec 96)
    (target : c.target = .collection name)
    (named : (Request.collection name request).operation.name = c.operation)
    (performed : ((s.touch name).perform (.collection name request)).2 = .ok reply)
    (answer : (Storage.dispatch limit s c).2 = answered (reply.present.mapError .store)) :
    (((Request.collection name request).effect id s.documents name).length : Int) =
      (s.documents name).length + (s.turn limit c).balance name := by
  have here : (s.turn limit c).command.target = .collection name := target
  by_cases deletion :
    (Request.collection name request).operation.name ∈ (["deleteOne", "deleteMany"] : List Text)
  · obtain ⟨n, rfl, removed⟩ := (reports.touch name).reply_of_deletion deletion performed
    rw [documents_touch] at removed
    rw [Turn.balance_of_deletion here (named ▸ deletion) answer, ← removed id]
    omega
  · cases request with
    | insertOne document =>
      rw [perform_of_ok performed] at performed
      cases performed
      obtain ⟨shown, present, quiet⟩ := present_inserted _ document
      rw [present] at answer
      rw [Turn.balance_of_insertOne here named.symm answer quiet, Request.effect,
        Function.update_self, List.length_append]
      rfl
    | deleteOne filter | deleteMany filter => exact absurd (of_decide_eq_true rfl) deletion
    | _ =>
      rw [Turn.balance_of_other fun _ => named ▸ of_decide_eq_true rfl, Int.add_zero]
      rfl

/-- What one turn does to the number of documents in a collection can be told from the outside. -/
theorem length_documents_turn {s : Store} (reports : s.ReportsWrites) (limit : Nat) (c : Command)
    (name : Text) :
    let t := s.turn limit c
    (((Storage.dispatch limit s c).1.documents name).length : Int) =
      if t.dropped then 0 else (s.documents name).length + t.balance name := by
  intro t
  rcases dispatch_cases limit s c with
    ⟨documents, commands, failure, answer⟩ |
      ⟨request, reply, id, target, named, performed, documents, commands, answer⟩
  · have nothing : t.balance name = 0 := Turn.balance_of_answered answer
    rw [Turn.dropped, ran_turn_of_idle commands, documents, nothing, Int.add_zero]
    rfl
  · rw [Turn.dropped, ran_turn commands, documents]
    -- a command with another target counts for nothing, and changes nothing here
    have elsewhere : request.operation.target ≠ .collection name → t.balance name = 0 := by
      intro elsewhere
      refine Turn.balance_of_other fun here => ?_
      exact absurd (target.trans here) elsewhere
    cases request with
    | database request =>
      rw [elsewhere (fun impossible => nomatch impossible), Int.add_zero]
      cases request <;> rfl
    | collection other request =>
      rw [show (Request.collection other request).ran = [] from rfl, List.any_nil,
        if_neg Bool.false_ne_true]
      by_cases same : other = name
      · subst same
        exact length_effect_turn reports id target.symm named performed answer
      · rw [elsewhere (fun here => same (Target.collection.inj here)), Int.add_zero,
          Request.effect_elsewhere same]

/-! ## Runs -/

/-- **Conservation.** After any run of commands, on any store that reports what its writes do, the
number of documents in a collection is the number before, or none if the database was dropped, plus
the insertions there that were answered without an error, minus the counts that the deletions there
were answered with. Only what came after the last drop counts. -/
theorem run_conserves_documents (limit : Nat) (s : Store) (reports : s.ReportsWrites)
    (cs : List Command) (name : Text) :
    let turns := s.turns limit cs
    let counted := turns.rtakeWhile fun t => !t.dropped
    (((s.run limit cs).documents name).length : Int) =
      (if turns.any Turn.dropped then 0 else ((s.documents name).length : Int)) +
        counted.countP (Turn.inserted name) - (counted.map (Turn.deleted name)).sum := by
  intro turns counted
  rw [add_sub_assoc, ← Turn.sum_balance]
  -- the last turn counts by itself, and all before it unless it is a drop
  induction cs using List.reverseRecOn with
  | nil => exact (Int.add_zero _).symm
  | append_singleton earlier c ih =>
    have step := length_documents_turn (reports.run limit earlier) limit c name
    have last : turns = s.turns limit earlier ++ [(s.run limit earlier).turn limit c] :=
      s.turns_concat limit earlier c
    subst counted
    rw [run_concat, step, last, List.any_append, List.any_cons, List.any_nil, Bool.or_false,
      List.rtakeWhile_concat]
    cases ((s.run limit earlier).turn limit c).dropped with
    | true =>
      rw [Bool.or_true]
      rfl
    | false =>
      rw [Bool.or_false, Bool.not_false, if_pos rfl, List.map_append, List.sum_append,
        List.map_singleton, List.sum_singleton, ← add_assoc, ← ih]
      rfl

/-- What was inserted before a drop does not count: of the two documents inserted after it, one is
left when one is deleted. -/
theorem run_conserves_documents_of_drop :
    let cs : List Command :=
      [⟨.collection "c", "insertOne", "\x7b\x7d"⟩, ⟨.database, "dropDatabase", ""⟩,
        ⟨.collection "c", "insertOne", "\x7b\"a\": 1\x7d"⟩,
        ⟨.collection "c", "insertOne", "\x7b\x7d"⟩, ⟨.collection "c", "deleteOne", "\x7b\x7d"⟩]
    ({} : Store).ReportsWrites ∧ ((({} : Store).run 5 cs).documents "c").length = 1 := by
  intro cs
  have reports : ({} : Store).ReportsWrites := List.forall_mem_nil _
  refine ⟨reports, Int.ofNat.inj ?_⟩
  refine (run_conserves_documents 5 {} reports cs "c").trans ?_
  decide +kernel

end Store

end QueryDesk
