import QueryDesk.Proofs.Command.Recognition

/-!
# The language of commands

The two shapes of commands written out as texts, and what recognition has to do with them.

* `recognition_inverts_rendering`: the texts that are commands are exactly those that have one of
  the two shapes apart from blanks around them; a text has at most one shape, in one way; a command
  carries exactly the parts of its text, and its rendering is that text again.
* `no_command_extends_a_command`: the language is prefix-free, so nothing but blanks may follow the
  text of a command.
-/

namespace QueryDesk.Command

/-! ## The two shapes -/

/-- The text `db.operation(arguments)`, with a name and balanced arguments. -/
structure IsDatabaseCall (s : List Letter) (operation arguments : Text) : Prop where
  isOperation : IsName operation
  balanced : BalancedText arguments.toList
  text : s =
    ("db." : Text).toList ++ operation.toList ++ .char '(' :: arguments.toList ++ [.char ')']

/-- The text `db.collection.operation(arguments)`, with two names and balanced arguments. -/
structure IsCollectionCall (s : List Letter) (collection operation arguments : Text) : Prop where
  isCollection : IsName collection
  isOperation : IsName operation
  balanced : BalancedText arguments.toList
  text : s = ("db." : Text).toList ++ collection.toList ++ .char '.' :: operation.toList ++
    .char '(' :: arguments.toList ++ [.char ')']

/-- The first shape is the text of a well-formed command on the database. -/
theorem isDatabaseCall_iff {s : List Letter} {operation arguments : Text} :
    IsDatabaseCall s operation arguments ↔
      WellFormed ⟨.database, operation, arguments⟩ ∧
        render ⟨.database, operation, arguments⟩ = s := by
  constructor
  · rintro ⟨isOperation, balanced, rfl⟩
    exact ⟨⟨(fun _ absent => nomatch absent), isOperation, balanced⟩, by simp [render]⟩
  · rintro ⟨wellFormed, rfl⟩
    exact ⟨wellFormed.operation, wellFormed.arguments, by simp [render]⟩

/-- The second shape is the text of a well-formed command on a collection. -/
theorem isCollectionCall_iff {s : List Letter} {collection operation arguments : Text} :
    IsCollectionCall s collection operation arguments ↔
      WellFormed ⟨.collection collection, operation, arguments⟩ ∧
        render ⟨.collection collection, operation, arguments⟩ = s := by
  constructor
  · rintro ⟨isCollection, isOperation, balanced, rfl⟩
    refine ⟨⟨?_, isOperation, balanced⟩, by simp [render]⟩
    rintro _ ⟨rfl⟩
    exact isCollection
  · rintro ⟨wellFormed, rfl⟩
    exact ⟨wellFormed.target collection rfl, wellFormed.operation, wellFormed.arguments,
      by simp [render]⟩

/-- Well-formed commands with the same text are the same. -/
theorem WellFormed.render_injective {m m' : Command} (first : m.WellFormed)
    (second : m'.WellFormed) (same : m.render = m'.render) : m = m' := by
  have starts : m.render ++ [] = m'.render := by rw [List.append_nil, same]
  exact (first.render_prefix_free second starts).1

theorem ofParts_eq_self (m : Command) :
    ofParts m.target.kindName m.operation m.arguments m.target.collection? = .ok m := by
  obtain ⟨target, operation, arguments⟩ := m
  cases target <;> rfl

theorem collection?_isSome_iff (target : Target) :
    target.collection?.isSome = true ↔ target.kindName = "collection_level" := by
  cases target <;> simp [Target.collection?, Target.kindName]

/-! ## Main statements -/

/-- **Recognition accepts exactly the two shapes and inverts rendering.** -/
theorem recognition_inverts_rendering (t : List Letter) :
    -- a text is a command exactly if it has one of the shapes, and the command holds its parts
    (∀ m, ofText? t = some m ↔
      (∃ operation arguments, IsDatabaseCall (Text.trim t) operation arguments ∧
        m = ⟨.database, operation, arguments⟩) ∨
      (∃ collection operation arguments,
        IsCollectionCall (Text.trim t) collection operation arguments ∧
          m = ⟨.collection collection, operation, arguments⟩)) ∧
    -- a text has one shape at most, and splits in one way
    (∀ operation arguments collection operation' arguments',
      IsDatabaseCall (Text.trim t) operation arguments →
        ¬ IsCollectionCall (Text.trim t) collection operation' arguments') ∧
    (∀ operation arguments operation' arguments',
      IsDatabaseCall (Text.trim t) operation arguments →
        IsDatabaseCall (Text.trim t) operation' arguments' →
          operation = operation' ∧ arguments = arguments') ∧
    (∀ collection operation arguments collection' operation' arguments',
      IsCollectionCall (Text.trim t) collection operation arguments →
        IsCollectionCall (Text.trim t) collection' operation' arguments' →
          collection = collection' ∧ operation = operation' ∧ arguments = arguments') ∧
    -- a recognised command fits its kind, and its rendering is the text
    (∀ m, ofText? t = some m →
      (m.target.collection?.isSome = true ↔ m.target.kindName = "collection_level") ∧
        ofParts m.target.kindName m.operation m.arguments m.target.collection? = .ok m ∧
          m.render = Text.trim t) ∧
    -- and every command with such parts is recognised in its rendering
    (∀ operation arguments, IsName operation → BalancedText arguments.toList →
      ofText? (render ⟨.database, operation, arguments⟩) =
        some ⟨.database, operation, arguments⟩) ∧
    (∀ collection operation arguments, IsName collection → IsName operation →
      BalancedText arguments.toList →
        ofText? (render ⟨.collection collection, operation, arguments⟩) =
          some ⟨.collection collection, operation, arguments⟩) := by
  refine ⟨?_, ?_, ?_, ?_, ?_, ?_, ?_⟩
  · intro m
    rw [ofText?_eq_some_iff]
    constructor
    · intro accepted
      obtain ⟨target, operation, arguments⟩ := m
      cases target with
      | database => exact .inl ⟨operation, arguments, isDatabaseCall_iff.mpr accepted, rfl⟩
      | collection name =>
        exact .inr ⟨name, operation, arguments, isCollectionCall_iff.mpr accepted, rfl⟩
    · rintro (⟨operation, arguments, call, rfl⟩ | ⟨name, operation, arguments, call, rfl⟩)
      · exact isDatabaseCall_iff.mp call
      · exact isCollectionCall_iff.mp call
  · intro operation arguments collection operation' arguments' first second
    obtain ⟨wellFormed, rendered⟩ := isDatabaseCall_iff.mp first
    obtain ⟨wellFormed', rendered'⟩ := isCollectionCall_iff.mp second
    cases wellFormed.render_injective wellFormed' (rendered.trans rendered'.symm)
  · intro operation arguments operation' arguments' first second
    obtain ⟨wellFormed, rendered⟩ := isDatabaseCall_iff.mp first
    obtain ⟨wellFormed', rendered'⟩ := isDatabaseCall_iff.mp second
    cases wellFormed.render_injective wellFormed' (rendered.trans rendered'.symm)
    exact ⟨rfl, rfl⟩
  · intro collection operation arguments collection' operation' arguments' first second
    obtain ⟨wellFormed, rendered⟩ := isCollectionCall_iff.mp first
    obtain ⟨wellFormed', rendered'⟩ := isCollectionCall_iff.mp second
    cases wellFormed.render_injective wellFormed' (rendered.trans rendered'.symm)
    exact ⟨rfl, rfl, rfl⟩
  · intro m accepted
    exact ⟨collection?_isSome_iff m.target, m.ofParts_eq_self, (ofText?_eq_some_iff.mp accepted).2⟩
  · intro operation arguments isOperation balanced
    exact (isDatabaseCall_iff.mp ⟨isOperation, balanced, rfl⟩).1.ofText?_render
  · intro collection operation arguments isCollection isOperation balanced
    exact (isCollectionCall_iff.mp ⟨isCollection, isOperation, balanced, rfl⟩).1.ofText?_render

/-- **Nothing follows a command.** A text that continues the text of a command with anything but
blanks is no command, whatever quotes and parentheses it holds. -/
theorem no_command_extends_a_command {t x : List Letter} {m : Command}
    (accepted : ofText? t = some m)
    (more : x.all Text.isBlank = false) : ofText? (Text.trim t ++ x) = none := by
  obtain ⟨wellFormed, rendered⟩ := ofText?_eq_some_iff.mp accepted
  have nonempty : m.render ≠ [] := by
    obtain ⟨rest, starts⟩ := m.exists_render_eq
    rw [starts]
    exact List.cons_ne_nil _ _
  obtain ⟨c, member, visible⟩ := List.all_eq_false.mp more
  -- the longer text is trimmed behind the first command only, where something stays
  obtain ⟨rest, stays, trimmed⟩ := Text.exists_strip_append nonempty
    (m.bare_render (p := Text.isBlank) (by decide) (by decide)).first
    ⟨c, member, Bool.eq_false_iff.mpr visible⟩
  rw [← rendered]
  by_contra recognised
  obtain ⟨m', recognised⟩ := Option.ne_none_iff_exists'.mp recognised
  obtain ⟨wellFormed', rendered'⟩ := ofText?_eq_some_iff.mp recognised
  rw [Text.trim, trimmed] at rendered'
  exact stays (wellFormed.render_prefix_free wellFormed' rendered'.symm).2

/-- A second statement, hidden behind a parenthesis and a quote that the first one holds as data. -/
theorem no_command_extends_a_quoted_parenthesis :
    ofText? (" db.c.find(\x7b\"a\": \"')\"\x7d)\n" : Text).toList =
        some ⟨.collection "c", "find", "\x7b\"a\": \"')\"\x7d"⟩ ∧
      (";\ndb.dropDatabase(')')" : Text).toList.all Text.isBlank = false ∧
      ofText? (Text.trim (" db.c.find(\x7b\"a\": \"')\"\x7d)\n" : Text).toList ++
        (";\ndb.dropDatabase(')')" : Text).toList) = none := by
  have accepted : ofText? (" db.c.find(\x7b\"a\": \"')\"\x7d)\n" : Text).toList =
      some ⟨.collection "c", "find", "\x7b\"a\": \"')\"\x7d"⟩ := by decide
  have more : (";\ndb.dropDatabase(')')" : Text).toList.all Text.isBlank = false := by decide
  exact ⟨accepted, more, no_command_extends_a_command accepted more⟩

end QueryDesk.Command
