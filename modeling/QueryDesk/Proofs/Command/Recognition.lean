import QueryDesk.Command.Basic
import QueryDesk.Proofs.Command.Balanced
import QueryDesk.Proofs.Text.Trim

/-!
# The language of commands

`Command.WellFormed` says which commands have a text: their names are runs of word characters and
their arguments are balanced. Recognition is the inverse of rendering on them
(`ofText?_eq_some_iff`):

* **names** end where the word characters end, so a text splits at a name in one way
  (`word?_eq_some_iff`, `IsName.split`);
* **arguments** end at the last character, and a balanced text followed by a closing parenthesis
  starts no other balanced text (`BalancedText.not_append_close`);
* **heads**: what follows the first name is a parenthesis in one shape and a dot in the other, so
  a text has one head at most (`WellFormed.head_split`), and no text of a command starts another
  (`WellFormed.render_prefix_free`).
-/

namespace QueryDesk.Command

/-! ## Names -/

/-- A name: one word character or more. -/
structure IsName (name : Text) : Prop where
  nonempty : name.toList ≠ []
  word : ∀ c ∈ name.toList, Text.isWord c = true

theorem IsName.of_all {name : Text} (nonempty : name.toList ≠ [])
    (word : name.toList.all Text.isWord = true) : IsName name :=
  ⟨nonempty, List.all_eq_true.mp word⟩

theorem IsName.takeWhile {name : Text} (isName : IsName name) {c : Letter}
    (ends : Text.isWord c = false) (rest : List Letter) :
    (name.toList ++ c :: rest).takeWhile Text.isWord = name.toList := by
  rw [List.takeWhile_append_of_pos isName.word, List.takeWhile_cons_of_neg (by simp [ends]),
    List.append_nil]

theorem IsName.dropWhile {name : Text} (isName : IsName name) {c : Letter}
    (ends : Text.isWord c = false) (rest : List Letter) :
    (name.toList ++ c :: rest).dropWhile Text.isWord = c :: rest := by
  rw [List.dropWhile_append_of_pos isName.word, List.dropWhile_cons_of_neg (by simp [ends])]

/-- Two names that start one text, each before a character that ends it, are the same. -/
theorem IsName.split {name other : Text} (isName : IsName name) (isOther : IsName other)
    {c d : Letter} (ends : Text.isWord c = false) (ends' : Text.isWord d = false)
    {rest rest' : List Letter} (same : name.toList ++ c :: rest = other.toList ++ d :: rest') :
    name = other ∧ c = d ∧ rest = rest' := by
  have names := congrArg (List.takeWhile Text.isWord) same
  have follows := congrArg (List.dropWhile Text.isWord) same
  rw [isName.takeWhile ends, isOther.takeWhile ends'] at names
  rw [isName.dropWhile ends, isOther.dropWhile ends'] at follows
  cases follows
  exact ⟨Text.toList_inj.mp names, rfl, rfl⟩

/-- A name at the start of a text before a character that ends it is found. -/
theorem IsName.word? {name : Text} (isName : IsName name) {c : Letter}
    (ends : Text.isWord c = false) (rest : List Letter) :
    Command.word? (name.toList ++ c :: rest) = some (name, c :: rest) := by
  rw [Command.word?, isName.takeWhile ends, isName.dropWhile ends]
  split
  case h_1 empty => exact absurd empty isName.nonempty
  case h_2 => rw [Text.ofList_toList]

/-- What is found at the start of a text is a name, and the text is the name and what follows. -/
theorem isName_of_word? {s rest : List Letter} {name : Text}
    (found : word? s = some (name, rest)) : IsName name ∧ s = name.toList ++ rest := by
  rw [word?] at found
  split at found
  case h_1 => cases found
  case h_2 nonempty =>
    cases found
    refine ⟨⟨by rwa [Text.toList_ofList], ?_⟩, ?_⟩
    · intro c member
      rw [Text.toList_ofList] at member
      exact List.all_eq_true.mp List.all_takeWhile c member
    · rw [Text.toList_ofList, List.takeWhile_append_dropWhile]

/-! ## Arguments -/

/-- A balanced text followed by a closing parenthesis starts no balanced text: the scan of the
longer text fails at that parenthesis, whatever comes after it. -/
theorem BalancedText.not_append_close {s : List Letter} (balanced : BalancedText s)
    (t : List Letter) :
    ¬ BalancedText (s ++ .char ')' :: t) := by
  intro longer
  have scan := Balance.after_balancedText longer 0 []
  rw [List.append_nil, Balance.after_balancedText balanced] at scan
  cases scan

/-- The arguments of a call are balanced text before a parenthesis at the very end. -/
theorem arguments?_eq_some_iff {s : List Letter} {arguments : Text} :
    arguments? s = some arguments ↔
      s = arguments.toList ++ [.char ')'] ∧ BalancedText arguments.toList := by
  rw [arguments?]
  constructor
  · intro found
    split at found
    case isTrue closed =>
      cases found
      rw [Bool.and_eq_true, decide_eq_true_eq, isBalanced_iff] at closed
      obtain ⟨whole, last⟩ := List.getLast?_eq_some_iff.mp closed.1
      rw [Text.toList_ofList, last, List.dropLast_concat]
      rw [last, List.dropLast_concat] at closed
      exact ⟨rfl, closed.2⟩
    case isFalse => cases found
  · rintro ⟨rfl, balanced⟩
    rw [List.getLast?_concat, List.dropLast_concat, isBalanced_iff.mpr balanced]
    simp

/-! ## Heads -/

/-- The text of a command up to its opening parenthesis, with the parenthesis. -/
def callHead (target : Target) (operation : Text) : List Letter :=
  match target with
  | .database => ("db." : Text).toList ++ operation.toList ++ [.char '(']
  | .collection name =>
    ("db." : Text).toList ++ name.toList ++ .char '.' :: operation.toList ++ [.char '(']

theorem callHead_database_append (operation : Text) (u : List Letter) :
    callHead .database operation ++ u =
      ("db." : Text).toList ++ (operation.toList ++ .char '(' :: u) := by
  simp [callHead]

theorem callHead_collection_append (name operation : Text) (u : List Letter) :
    callHead (.collection name) operation ++ u =
      ("db." : Text).toList ++
        (name.toList ++ .char '.' :: (operation.toList ++ .char '(' :: u)) := by
  simp [callHead]

/-- The text of a command is its head, its arguments and the closing parenthesis. -/
theorem render_eq (m : Command) :
    m.render = callHead m.target m.operation ++ (m.arguments.toList ++ [.char ')']) := by
  obtain ⟨target, operation, arguments⟩ := m
  cases target <;> simp [render, callHead]

/-- A command that has a text. -/
structure WellFormed (m : Command) : Prop where
  target : ∀ name, m.target = .collection name → IsName name
  operation : IsName m.operation
  arguments : BalancedText m.arguments.toList

theorem not_isWord_paren : Text.isWord '(' = false := by decide

theorem not_isWord_dot : Text.isWord '.' = false := by decide

/-- A text that starts with the heads of two commands has one head. -/
theorem WellFormed.head_split {m m' : Command} (first : m.WellFormed) (second : m'.WellFormed)
    {u v : List Letter}
    (same : callHead m.target m.operation ++ u = callHead m'.target m'.operation ++ v) :
    m.target = m'.target ∧ m.operation = m'.operation ∧ u = v := by
  obtain ⟨target, operation, arguments⟩ := m
  obtain ⟨target', operation', arguments'⟩ := m'
  cases target with
  | database =>
    cases target' with
    | database =>
      -- after the first name a parenthesis follows in both
      rw [callHead_database_append, callHead_database_append] at same
      obtain ⟨rfl, -, rfl⟩ := first.operation.split second.operation not_isWord_paren
        not_isWord_paren (List.append_cancel_left same)
      exact ⟨rfl, rfl, rfl⟩
    | collection name' =>
      -- here a parenthesis, there a dot
      rw [callHead_database_append, callHead_collection_append] at same
      obtain ⟨-, impossible, -⟩ := first.operation.split (second.target name' rfl)
        not_isWord_paren not_isWord_dot (List.append_cancel_left same)
      cases impossible
  | collection name =>
    cases target' with
    | database =>
      rw [callHead_collection_append, callHead_database_append] at same
      obtain ⟨-, impossible, -⟩ := (first.target name rfl).split second.operation
        not_isWord_dot not_isWord_paren (List.append_cancel_left same)
      cases impossible
    | collection name' =>
      rw [callHead_collection_append, callHead_collection_append] at same
      obtain ⟨rfl, -, same⟩ := (first.target name rfl).split (second.target name' rfl)
        not_isWord_dot not_isWord_dot (List.append_cancel_left same)
      obtain ⟨rfl, -, rfl⟩ :=
        first.operation.split second.operation not_isWord_paren not_isWord_paren same
      exact ⟨rfl, rfl, rfl⟩

/-- **No text of a command starts another.** Where the heads agree, the first closing parenthesis
that no argument opened ends both texts. -/
theorem WellFormed.render_prefix_free {m m' : Command} (first : m.WellFormed)
    (second : m'.WellFormed) {rest : List Letter} (starts : m.render ++ rest = m'.render) :
    m = m' ∧ rest = [] := by
  rw [render_eq, render_eq, List.append_assoc] at starts
  obtain ⟨targets, operations, starts⟩ := first.head_split second starts
  rw [List.append_assoc, List.singleton_append] at starts
  -- the last character of what follows would be the closing parenthesis of the second command
  cases rest using List.reverseRecOn with
  | nil =>
    have arguments : m.arguments.toList = m'.arguments.toList := List.append_cancel_right starts
    obtain ⟨target, operation, text⟩ := m
    obtain ⟨target', operation', text'⟩ := m'
    cases targets
    cases operations
    cases Text.toList_inj.mp arguments
    exact ⟨rfl, rfl⟩
  | append_singleton init last =>
    rw [← List.cons_append, ← List.append_assoc] at starts
    obtain ⟨longer, -⟩ := List.append_inj' starts rfl
    exact absurd (longer ▸ second.arguments) (first.arguments.not_append_close init)

/-! ## Commands -/

/-- A command after `db.` is well-formed, and the text is its rendering. -/
theorem of_afterDatabase? {s : List Letter} {m : Command} (found : afterDatabase? s = some m) :
    m.WellFormed ∧ m.render = ("db." : Text).toList ++ s := by
  rw [afterDatabase?] at found
  split at found
  case h_1 name rest first =>
    obtain ⟨isName, rfl⟩ := isName_of_word? first
    obtain ⟨arguments, inside, rfl⟩ := Option.map_eq_some_iff.mp found
    obtain ⟨rfl, balanced⟩ := arguments?_eq_some_iff.mp inside
    exact ⟨⟨(fun _ absent => nomatch absent), isName, balanced⟩, by simp [render]⟩
  case h_2 name rest first =>
    obtain ⟨isName, rfl⟩ := isName_of_word? first
    split at found
    case h_1 operation rest second =>
      obtain ⟨isOperation, rfl⟩ := isName_of_word? second
      obtain ⟨arguments, inside, rfl⟩ := Option.map_eq_some_iff.mp found
      obtain ⟨rfl, balanced⟩ := arguments?_eq_some_iff.mp inside
      refine ⟨⟨?_, isOperation, balanced⟩, ?_⟩
      · rintro _ ⟨rfl⟩
        exact isName
      · simp [render]
    case h_2 => cases found
  case h_3 => cases found

/-- A well-formed command after `db.` is found. -/
theorem WellFormed.afterDatabase? {m : Command} (wellFormed : m.WellFormed) {s : List Letter}
    (rendered : m.render = ("db." : Text).toList ++ s) : Command.afterDatabase? s = some m := by
  obtain ⟨target, operation, arguments⟩ := m
  have inside : arguments? (arguments.toList ++ [.char ')']) = some arguments :=
    arguments?_eq_some_iff.mpr ⟨rfl, wellFormed.arguments⟩
  rw [render_eq] at rendered
  cases target with
  | database =>
    rw [callHead_database_append] at rendered
    rw [← List.append_cancel_left rendered, Command.afterDatabase?,
      wellFormed.operation.word? not_isWord_paren]
    simp only [inside, Option.map_some]
  | collection name =>
    have isName := wellFormed.target name rfl
    rw [callHead_collection_append] at rendered
    rw [← List.append_cancel_left rendered, Command.afterDatabase?, isName.word? not_isWord_dot]
    simp only [wellFormed.operation.word? not_isWord_paren, inside, Option.map_some]

/-- The text of every command starts with `db.`. -/
theorem exists_render_eq (m : Command) : ∃ rest, m.render = ("db." : Text).toList ++ rest := by
  obtain ⟨target, operation, arguments⟩ := m
  cases target with
  | database => exact ⟨_, rfl⟩
  | collection name => exact ⟨_, List.append_assoc ..⟩

/-- Around the text of a command there is nothing of a class without its two ends. -/
theorem bare_render (m : Command) {p : Letter → Bool} (first : p 'd' = false)
    (last : p ')' = false) : Text.Bare p m.render := by
  obtain ⟨rest, starts⟩ := m.exists_render_eq
  refine ⟨?_, ?_⟩
  · intro c found
    rw [starts] at found
    cases found
    exact first
  · intro c found
    rw [render_eq, ← List.append_assoc, List.getLast?_concat] at found
    cases found
    exact last

theorem trim_render (m : Command) : Text.trim m.render = m.render :=
  Text.strip_eq_self (m.bare_render (by decide) (by decide))

/-- **Recognition.** A text is a command exactly if the command is well-formed and the text without
the blanks around it is its rendering. -/
theorem ofText?_eq_some_iff {t : List Letter} {m : Command} :
    ofText? t = some m ↔ m.WellFormed ∧ m.render = Text.trim t := by
  rw [ofText?]
  constructor
  · intro found
    split at found
    case h_1 rest text =>
      rw [text]
      exact of_afterDatabase? found
    case h_2 => cases found
  · rintro ⟨wellFormed, rendered⟩
    obtain ⟨rest, starts⟩ := m.exists_render_eq
    rw [← rendered, starts]
    exact wellFormed.afterDatabase? starts

/-- Recognising the text of a well-formed command gives the command back. -/
theorem WellFormed.ofText?_render {m : Command} (wellFormed : m.WellFormed) :
    ofText? m.render = some m :=
  ofText?_eq_some_iff.mpr ⟨wellFormed, m.trim_render.symm⟩

end QueryDesk.Command
