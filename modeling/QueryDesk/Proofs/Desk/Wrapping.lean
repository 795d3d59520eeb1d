import QueryDesk.Proofs.Desk.Peeling

/-!
# Taking a wrapping off

A generator may wrap a command in markdown, and put the answer marker before it and a call that
drains a cursor and a semicolon behind it. Where all of these stand inside the markdown, cleaning
gives the command back (`wrappings_are_undone`).

* Markdown is taken off first: whatever stands in it starts with a letter and ends in a parenthesis
  or a semicolon (`Solid`), and it does not start with a line that could name a language
  (`Untagged`), so neither fence nor backticks reach into it (`untick_unfence_of_wrapped`).
* Each of the other parts is then at the end where its step looks for it (`Lead.dropMarker_append`,
  `Tail.dropSuffix_append`).

Where the marker stands before the markdown, the text does not start with a fence or a backtick.
Then the steps find the marks at its end only, and the opening ones stay before the command, which
is no command any more (`marks_behind_the_marker_stay`).
-/

namespace QueryDesk.Draft

open Command

/-! ## Commands in markdown -/

/-- A command between the answer marker, a call that drains a cursor and a semicolon, each of which
may be absent. -/
inductive Body (c : List Letter) : List Letter → Prop
  | parts {lead call semicolon : List Letter} (isLead : Lead lead) (drains : Tail drain call)
      (ends : Tail [.char ';'] semicolon) : Body c (lead ++ c ++ call ++ semicolon)

/-- What stands at either end of a piece of markdown. -/
inductive Markdown : List Letter → List Letter → Prop
  | inline : Markdown [.char '\x60'] [.char '\x60']
  | block : Markdown fence fence
  | tagged {tag : List Letter} (isTag : IsTag tag) : Markdown (fence ++ tag ++ [.char '\n']) fence

/-- A text, or the piece of markdown that holds it and blanks around it. -/
inductive Wrapped (s : List Letter) : List Letter → Prop
  | bare : Wrapped s s
  | marked {opening closing before after : List Letter} (markdown : Markdown opening closing)
      (blank : IsBlanks before) (blank' : IsBlanks after) :
      Wrapped s (opening ++ (before ++ s ++ after) ++ closing)

variable {s : List Letter}

/-! ## The marker -/

/-- Small letters are made of capital ones, 32 code points before them, and of nothing else. -/
theorem toLower_cases (c : Letter) :
    c.toLower = c ∨ c.isAlphanum = true ∧ c.toLower.toNat = c.toNat + 32 := by
  cases c with
  | half _ => exact .inl rfl
  | char c =>
    by_cases capital : c.val ≥ 'A'.val ∧ c.val ≤ 'Z'.val
    · have isUpper : c.isUpper = true := decide_eq_true capital
      have isAlpha : c.isAlpha = true := Bool.or_eq_true_iff.mpr (.inl isUpper)
      have shifted : c.toLower.val = c.val + 32 := congrArg Char.val (dif_pos capital)
      have bound : c.toNat ≤ 90 := UInt32.le_iff_toNat_le.mp capital.2
      refine .inr ⟨Bool.or_eq_true_iff.mpr (.inl isAlpha), ?_⟩
      change c.toLower.val.toNat = c.toNat + 32
      rw [shifted, UInt32.toNat_add]
      change (c.toNat + 32) % 2 ^ 32 = c.toNat + 32
      omega
    · exact .inl (congrArg Letter.char (dif_neg capital))

/-- The marker is a line of its own up to its colon, and starts with a letter. -/
theorem IsMarker.exists_eq {mark : List Letter} (isMarker : IsMarker mark) :
    ∃ first name, mark = first :: name ++ [.char ':'] ∧ first.isAlphanum = true ∧
      .char '\n' ∉ first :: name := by
  have parts : mark.map Letter.toLower =
      (.char 'm' :: ("ongo-ai" : Text).toList) ++ [.char ':'] := isMarker
  obtain ⟨front, last, rfl, word, single⟩ := List.map_eq_append_iff.mp parts
  obtain ⟨c, rfl, isColon⟩ := List.map_eq_singleton_iff.mp single
  obtain ⟨first, name, rfl, isFirst, -⟩ := List.map_eq_cons_iff.mp word
  have colon : c = ':' := by
    rcases toLower_cases c with same | ⟨letter, shifted⟩
    · exact same.symm.trans isColon
    · rw [isColon] at shifted
      have bound := (Text.toNat_of_isAlphanum letter).1
      change 58 = c.toNat + 32 at shifted
      omega
  refine ⟨first, name, by rw [colon], ?_, ?_⟩
  · rcases toLower_cases first with same | ⟨letter, -⟩
    · rw [← same, isFirst]
      decide
    · exact letter
  · intro line
    have lowered := List.mem_map_of_mem (f := Letter.toLower) line
    rw [word] at lowered
    exact absurd lowered (by decide)

/-! ## What markdown may hold -/

/-- A text that starts with a letter or digit and ends in neither a blank nor a backtick. -/
structure Solid (s : List Letter) : Prop where
  first : ∃ c ∈ s.head?, c.isAlphanum = true
  last : ∀ c ∈ s.getLast?, Text.isBlank c = false ∧ c ≠ '\x60'

/-- A text that does not start with a line that could name a language, whatever follows it. -/
def Untagged (s : List Letter) : Prop :=
  ∀ t, ((s ++ t).dropWhile isTagChar).head? ≠ some (.char '\n')

theorem Solid.nonempty (solid : Solid s) : s ≠ [] := by
  rintro rfl
  obtain ⟨c, found, -⟩ := solid.first
  cases found

theorem Solid.head (solid : Solid s) : ∀ c ∈ s.head?, c.isAlphanum = true := by
  obtain ⟨d, first, letter⟩ := solid.first
  intro c found
  cases first.symm.trans found
  exact letter

theorem Solid.trimmed (solid : Solid s) : Text.Bare Text.isBlank s where
  first c found := Text.isBlank_of_isAlphanum (solid.head c found)
  last c found := (solid.last c found).1

theorem ne_tick_of_isAlphanum {c : Letter} (letter : c.isAlphanum = true) : c ≠ '\x60' := by
  rintro rfl
  exact absurd letter (by decide)

theorem Solid.unticked (solid : Solid s) : Text.Bare (· = .char '\x60') s where
  first c found := decide_eq_false (ne_tick_of_isAlphanum (solid.head c found))
  last c found := decide_eq_false (solid.last c found).2

theorem Solid.head_ne_tick (solid : Solid s) : s.head? ≠ some (.char '\x60') :=
  fun found => ne_tick_of_isAlphanum (solid.head _ found) rfl

theorem ne_tick_of_isBlank {c : Letter} (blank : Text.isBlank c = true) : c ≠ '\x60' := by
  rintro rfl
  exact absurd blank (by decide)

/-- A text with a character that no name of a language has before its first line ends. -/
theorem untagged_append {word rest : List Letter} {c : Letter} (line : .char '\n' ∉ word)
    (ends : isTagChar c = false) (other : c ≠ '\n') : Untagged (word ++ c :: rest) := by
  intro t found
  rw [List.append_assoc, List.cons_append, List.dropWhile_append,
    List.dropWhile_cons_of_neg (by simp [ends])] at found
  split at found
  case isTrue => exact other (Option.some.inj found)
  case isFalse stays =>
    cases kept : word.dropWhile isTagChar with
    | nil => exact stays (by rw [kept]; rfl)
    | cons d more =>
      rw [kept] at found
      cases found
      exact line ((List.dropWhile_suffix _).subset (kept ▸ List.mem_cons_self))

/-! ## The ends of markdown -/

/-- A piece of markdown starts and ends with a backtick. -/
theorem Markdown.exists_eq {opening closing : List Letter} (markdown : Markdown opening closing)
    (s : List Letter) :
    ∃ inside, opening ++ s ++ closing = .char '\x60' :: inside ++ [.char '\x60'] := by
  cases markdown with
  | inline => exact ⟨s, rfl⟩
  | block =>
    exact ⟨[.char '\x60', .char '\x60'] ++ s ++ [.char '\x60', .char '\x60'], by simp [fence]⟩
  | @tagged tag =>
    exact ⟨[.char '\x60', .char '\x60'] ++ tag ++ [.char '\n'] ++ s ++
      [.char '\x60', .char '\x60'], by simp [fence]⟩

theorem Markdown.head?_append {opening closing : List Letter} (markdown : Markdown opening closing)
    (s : List Letter) : (opening ++ s).head? = some (.char '\x60') := by
  cases markdown <;> rfl

theorem Markdown.opening_ne_nil {opening closing : List Letter}
    (markdown : Markdown opening closing) : opening ≠ [] := by
  rintro rfl
  cases markdown.head?_append []

theorem Markdown.closing_ticks {opening closing : List Letter}
    (markdown : Markdown opening closing) :
    closing ≠ [] ∧ ∀ c ∈ closing, c = '\x60' := by
  cases markdown with
  | inline => exact ⟨List.cons_ne_nil _ _, List.forall_mem_singleton.mpr rfl⟩
  | block => exact ⟨List.cons_ne_nil _ _, fun _ => eq_tick_of_mem_fence⟩
  | tagged => exact ⟨List.cons_ne_nil _ _, fun _ => eq_tick_of_mem_fence⟩

/-- Trimming finds what was wrapped. -/
theorem Wrapped.trimmed {wrapped : List Letter} (solid : Solid s) (isWrapped : Wrapped s wrapped) :
    wrapped ≠ [] ∧ Text.Bare Text.isBlank wrapped := by
  cases isWrapped with
  | bare => exact ⟨solid.nonempty, solid.trimmed⟩
  | marked markdown =>
    obtain ⟨inside, whole⟩ := markdown.exists_eq _
    rw [whole]
    exact ⟨List.cons_ne_nil _ _, .between (by decide) (by decide) _⟩

/-! ## What is left of it -/

theorem trim_around {before after : List Letter} (solid : Solid s) (blank : IsBlanks before)
    (blank' : IsBlanks after) : Text.trim (before ++ s ++ after) = s := by
  rw [List.append_assoc]
  exact Text.strip_between solid.nonempty solid.trimmed blank blank'

theorem Solid.unticked_around {before after : List Letter} (solid : Solid s)
    (blank : IsBlanks before) (blank' : IsBlanks after) :
    Text.Bare (· = .char '\x60') (before ++ s ++ after) :=
  solid.unticked.around (fun c member => decide_eq_false (ne_tick_of_isBlank (blank c member)))
    fun c member => decide_eq_false (ne_tick_of_isBlank (blank' c member))

/-- The backticks are found at the ends of a text, and the blanks that then are there. -/
theorem untick_around {ticks before after ticks' : List Letter} (solid : Solid s)
    (isTick : ∀ c ∈ ticks, c = '\x60') (isTick' : ∀ c ∈ ticks', c = '\x60')
    (blank : IsBlanks before) (blank' : IsBlanks after)
    (trimmed : Text.Bare Text.isBlank (ticks ++ (before ++ s ++ after) ++ ticks')) :
    untick (ticks ++ (before ++ s ++ after) ++ ticks') = s := by
  have inside := solid.unticked_around blank blank'
  have stripped : Text.strip (· = .char '\x60') (ticks ++ (before ++ s ++ after) ++ ticks') =
      before ++ s ++ after := by
    rw [List.append_assoc]
    exact Text.strip_between (by simp [solid.nonempty]) inside
      (fun c member => decide_eq_true (isTick c member))
      fun c member => decide_eq_true (isTick' c member)
  rw [untick, Text.trim_eq_self trimmed, stripped, trim_around solid blank blank']

theorem untick_eq_self (solid : Solid s) : untick s = s := by
  rw [untick, Text.trim_eq_self solid.trimmed, Text.strip_eq_self solid.unticked,
    Text.trim_eq_self solid.trimmed]

theorem unfence_eq_self (other : ¬ fence <+: s) : unfence s = s := by
  have none : fenced? s = none := by
    rw [Option.eq_none_iff_forall_ne_some]
    intro inside found
    refine other ?_
    rw [fenced?_eq_some_iff.mp found, List.append_assoc]
    exact List.prefix_append _ _
  rw [unfence, none]

/-- A text that starts otherwise is in no fence. -/
theorem not_opens_of_first (first : s.head? ≠ some (.char '\x60')) : ¬ fence <+: s := by
  rintro ⟨rest, rfl⟩
  exact first rfl

theorem dropTag_append {tag : List Letter} (isTag : IsTag tag) (rest : List Letter) :
    dropTag (tag ++ .char '\n' :: rest) = rest := by
  rw [dropTag, List.dropWhile_append_of_pos isTag, List.dropWhile_cons_of_neg (by decide)]
  rfl

/-- At most blanks are taken from the inside of a fence, where nothing names a language. -/
theorem trim_dropTag {before after : List Letter} (solid : Solid s) (untagged : Untagged s)
    (blank : IsBlanks before) (blank' : IsBlanks after) :
    Text.trim (dropTag (before ++ s ++ after)) = s := by
  rw [dropTag]
  split
  case h_1 rest ends =>
    rw [List.append_assoc, List.dropWhile_append] at ends
    split at ends
    case isTrue => exact absurd (congrArg List.head? ends) (untagged after)
    case isFalse stays =>
      -- the line that is taken ends among the blanks
      cases kept : before.dropWhile isTagChar with
      | nil => exact absurd (by rw [kept]; rfl) stays
      | cons c blanks =>
        rw [kept] at ends
        cases ends
        have within : blanks ⊆ before := fun d member =>
          (List.dropWhile_suffix _).subset (kept ▸ List.mem_cons_of_mem _ member)
        change Text.trim (blanks ++ (s ++ after)) = s
        rw [← List.append_assoc]
        exact trim_around solid (fun d member => blank d (within member)) blank'
  case h_2 => exact trim_around solid blank blank'

/-- Without markdown a text is what was wrapped. -/
theorem untick_unfence_of_wrapped {wrapped : List Letter} (solid : Solid s) (untagged : Untagged s)
    (isWrapped : Wrapped s wrapped) : untick (unfence wrapped) = s := by
  cases isWrapped with
  | bare => rw [unfence_eq_self (not_opens_of_first solid.head_ne_tick), untick_eq_self solid]
  | @marked opening closing before after markdown blank blank' =>
    cases markdown with
    | inline =>
      have other : ¬ fence <+: [.char '\x60'] ++ (before ++ s ++ after) ++ [.char '\x60'] := by
        -- the second character would be a backtick as well
        intro opens
        obtain ⟨rest, second⟩ :
            [.char '\x60', .char '\x60'] <+: before ++ s ++ after ++ [.char '\x60'] :=
          (List.cons_prefix_cons.mp opens).2
        have first := congrArg List.head? second
        have nonempty : before ++ s ++ after ≠ [] := by simp [solid.nonempty]
        rw [List.head?_append_of_ne_nil _ nonempty] at first
        have outside := (solid.unticked_around blank blank').first _ first.symm
        exact absurd outside (by decide)
      rw [unfence_eq_self other]
      exact untick_around solid (by simp) (by simp) blank blank'
        (.between (by decide) (by decide) _)
    | block =>
      rw [unfence, fenced?_eq_some_iff.mpr rfl]
      simp only []
      rw [trim_dropTag solid untagged blank blank', untick_eq_self solid]
    | @tagged tag isTag =>
      have inside : fence ++ tag ++ [.char '\n'] ++ (before ++ s ++ after) ++ fence =
          fence ++ (tag ++ .char '\n' :: (before ++ s ++ after)) ++ fence := by simp
      rw [unfence, fenced?_eq_some_iff.mpr inside]
      simp only []
      rw [dropTag_append isTag, trim_around solid blank blank', untick_eq_self solid]

/-- At the end of a text that starts with a letter, backticks are found even if none are at its
start. -/
theorem untick_unfence_of_closed {after closing : List Letter} (solid : Solid s)
    (blank : IsBlanks after) (closes : closing ≠ []) (isTick : ∀ c ∈ closing, c = '\x60') :
    untick (unfence (Text.trim (s ++ after ++ closing))) = s := by
  have first : (s ++ after ++ closing).head? = s.head? := by
    rw [List.append_assoc, List.head?_append_of_ne_nil _ solid.nonempty]
  have trimmed : Text.Bare Text.isBlank (s ++ after ++ closing) := by
    refine ⟨?_, ?_⟩
    · rw [first]
      exact solid.trimmed.first
    · intro c found
      rw [List.getLast?_append_of_ne_nil _ closes] at found
      rw [isTick c (List.mem_of_getLast? found)]
      decide
  have other : ¬ fence <+: s ++ after ++ closing := by
    refine not_opens_of_first ?_
    rw [first]
    exact solid.head_ne_tick
  have shape : s ++ after ++ closing = [] ++ ([] ++ s ++ after) ++ closing := by simp
  rw [Text.trim_eq_self trimmed, unfence_eq_self other]
  rw [shape] at trimmed ⊢
  exact untick_around solid (List.forall_mem_nil _) isTick (List.forall_mem_nil _) blank trimmed

/-! ## The marker and the endings -/

/-- A text that does not start as the marker does has no marker. -/
theorem dropMarker_eq_self (first : ∀ c ∈ s.head?, c.toLower ≠ 'm') : dropMarker s = s := by
  rw [dropMarker, if_neg]
  intro marked
  cases s with
  | nil => cases marked
  | cons c rest => exact first c rfl (Option.some.inj (congrArg List.head? marked))

/-- A marker before a text is taken off with the blanks between them. -/
theorem IsMarker.dropMarker_append {mark blanks : List Letter} (isMarker : IsMarker mark)
    (blank : IsBlanks blanks) (first : ∀ c ∈ s.head?, Text.isBlank c = false) :
    dropMarker (mark ++ blanks ++ s) = s := by
  have length : mark.length = marker.length := by rw [← isMarker, List.length_map]
  have lowered : mark.map Letter.toLower = marker := isMarker
  rw [dropMarker, List.append_assoc, List.take_left' length, if_pos lowered,
    List.drop_left' length, List.dropWhile_append_of_pos blank, Text.dropWhile_eq_self first]

/-- A marker before a text makes it start with a letter. -/
theorem IsMarker.solid_append {mark : List Letter} (isMarker : IsMarker mark) (nonempty : s ≠ [])
    (last : ∀ c ∈ s.getLast?, Text.isBlank c = false ∧ c ≠ '\x60') : Solid (mark ++ s) := by
  obtain ⟨first, name, rfl, letter, -⟩ := isMarker.exists_eq
  refine ⟨⟨first, rfl, letter⟩, ?_⟩
  rw [List.getLast?_append_of_ne_nil _ nonempty]
  exact last

theorem Lead.dropMarker_append {lead : List Letter} (isLead : Lead lead)
    (first : ∀ c ∈ s.head?, Text.isBlank c = false ∧ c.toLower ≠ 'm') :
    dropMarker (lead ++ s) = s := by
  cases isLead with
  | absent => exact dropMarker_eq_self fun c found => (first c found).2
  | marked isMarker blank => exact isMarker.dropMarker_append blank fun c found => (first c found).1

/-- An ending behind a text is taken off with the blanks between them. -/
theorem Tail.dropSuffix_append {ending tail : List Letter} (isTail : Tail ending tail)
    (last : ∀ c ∈ s.getLast?, Text.isBlank c = false) (other : ¬ ending <:+ s) :
    dropSuffix ending (s ++ tail) = s := by
  cases isTail with
  | absent => rw [List.append_nil, dropSuffix_eq_self other]
  | ended blank => rw [← List.append_assoc, Draft.dropSuffix_append, Text.dropEnd_append last blank]

/-- With an ending behind it a text ends as before or as the ending does. -/
theorem Tail.getLast?_append {ending tail : List Letter} (isTail : Tail ending tail)
    (nonempty : ending ≠ []) (s : List Letter) :
    (s ++ tail).getLast? = s.getLast? ∨ (s ++ tail).getLast? = ending.getLast? := by
  cases isTail with
  | absent => exact .inl (by rw [List.append_nil])
  | ended blank =>
    rw [← List.append_assoc, List.getLast?_append_of_ne_nil _ nonempty]
    exact .inr rfl

/-! ## The body -/

/-- With or without a call that drains a cursor behind it, a command ends in a parenthesis. -/
theorem getLast?_append_call {call : List Letter} (m : Command) (drains : Tail drain call)
    (front : List Letter) : (front ++ m.render ++ call).getLast? = some (.char ')') := by
  rcases drains.getLast?_append (by decide) (front ++ m.render) with last | last
  · rw [last, render_eq, ← List.append_assoc, ← List.append_assoc, List.getLast?_concat]
  · exact last

theorem getLast?_append_render (m : Command) (front : List Letter) :
    (front ++ m.render).getLast? = some (.char ')') := by
  simpa using getLast?_append_call m .absent front

/-- The parenthesis is neither blank nor a backtick. -/
theorem visible_of_closed (closed : s.getLast? = some (.char ')')) :
    ∀ c ∈ s.getLast?, Text.isBlank c = false ∧ c ≠ '\x60' := by
  rw [closed]
  rintro c ⟨⟩
  decide

/-- A command that is no call that drains a cursor does not end in one, whatever stands before
it. -/
theorem not_drain_suffix_append {m : Command} (wellFormed : m.WellFormed) (other : ¬ m.IsDrain)
    (front : List Letter) : ¬ drain <:+ front ++ m.render := by
  intro found
  have ends : m.render <:+ front ++ m.render := List.suffix_append _ _
  rcases List.suffix_or_suffix_of_suffix found ends with within | around
  · exact other ((drain_suffix_render_iff wellFormed).mp within)
  · -- the call would hold the first letter of the command
    obtain ⟨rest, starts⟩ := m.exists_render_eq
    have letter : .char 'd' ∈ m.render := by
      rw [starts]
      exact List.mem_cons_self
    exact absurd (around.subset letter) (by decide)

/-- Both endings are taken off, and nothing else. -/
theorem dropSuffix_dropSuffix {m : Command} {call semicolon : List Letter}
    (wellFormed : m.WellFormed) (other : ¬ m.IsDrain) (drains : Tail drain call)
    (ends : Tail [.char ';'] semicolon) (front : List Letter) :
    dropSuffix drain (dropSuffix [.char ';'] (front ++ m.render ++ call ++ semicolon)) =
      front ++ m.render := by
  have closed := getLast?_append_call m drains front
  have noSemicolon : ¬ [.char ';'] <:+ front ++ m.render ++ call := by
    rintro ⟨before, whole⟩
    rw [← whole, List.getLast?_concat] at closed
    exact absurd closed (by decide)
  have visible := visible_of_closed (getLast?_append_render m front)
  rw [ends.dropSuffix_append (fun c found => (visible_of_closed closed c found).1) noSemicolon,
    drains.dropSuffix_append (fun c found => (visible c found).1)
      (not_drain_suffix_append wellFormed other front)]

/-- A body starts with a word and a character that ends it before its first line does. -/
theorem exists_start {lead : List Letter} (isLead : Lead lead) (m : Command) (t : List Letter) :
    ∃ first word c rest, lead ++ m.render ++ t = first :: word ++ c :: rest ∧
      first.isAlphanum = true ∧ .char '\n' ∉ first :: word ∧ isTagChar c = false ∧ c ≠ '\n' := by
  cases isLead with
  | absent =>
    obtain ⟨rest, starts⟩ := m.exists_render_eq
    refine ⟨'d', [.char 'b'], '.', rest ++ t, ?_, by decide, by decide, by decide, by decide⟩
    rw [starts]
    rfl
  | @marked mark blanks isMarker blank =>
    obtain ⟨first, name, rfl, letter, line⟩ := isMarker.exists_eq
    exact ⟨first, name, ':', blanks ++ m.render ++ t, by simp, letter, line, by decide, by decide⟩

theorem Body.solid {m : Command} {body : List Letter} (isBody : Body m.render body) :
    Solid body := by
  obtain @⟨lead, call, semicolon, isLead, drains, ends⟩ := isBody
  refine ⟨?_, ?_⟩
  · obtain ⟨first, word, c, rest, whole, letter, -⟩ := exists_start isLead m (call ++ semicolon)
    rw [List.append_assoc _ call, whole]
    exact ⟨first, rfl, letter⟩
  · rcases ends.getLast?_append (by decide) (lead ++ m.render ++ call) with last | last
    · rw [last]
      exact visible_of_closed (getLast?_append_call m drains lead)
    · rw [last]
      rintro c ⟨⟩
      decide

theorem Body.untagged {m : Command} {body : List Letter} (isBody : Body m.render body) :
    Untagged body := by
  obtain @⟨lead, call, semicolon, isLead, drains, ends⟩ := isBody
  obtain ⟨first, word, c, rest, whole, -, line, ends, other⟩ :=
    exists_start isLead m (call ++ semicolon)
  rw [List.append_assoc _ call, whole]
  exact untagged_append line ends other

/-- Of a body the command is left. -/
theorem Body.clean_eq {m : Command} {body : List Letter} (wellFormed : m.WellFormed)
    (other : ¬ m.IsDrain) (isBody : Body m.render body) :
    dropSuffix drain (dropSuffix [.char ';'] (dropMarker body)) = m.render := by
  obtain @⟨lead, call, semicolon, isLead, drains, ends⟩ := isBody
  have marked : dropMarker (lead ++ (m.render ++ call ++ semicolon)) =
      m.render ++ call ++ semicolon := by
    refine isLead.dropMarker_append ?_
    obtain ⟨rest, starts⟩ := m.exists_render_eq
    rw [starts]
    rintro c ⟨⟩
    decide
  have whole : lead ++ m.render ++ call ++ semicolon =
      lead ++ (m.render ++ call ++ semicolon) := by simp
  rw [whole, marked]
  exact dropSuffix_dropSuffix wellFormed other drains ends []

/-- A trimmed text that does not start with the first letter of a command is none. -/
theorem ofText?_eq_none (bare : Text.Bare Text.isBlank s) (first : s.head? ≠ some (.char 'd')) :
    ofText? s = none := by
  by_contra recognised
  obtain ⟨m, recognised⟩ := Option.ne_none_iff_exists'.mp recognised
  obtain ⟨-, rendered⟩ := ofText?_eq_some_iff.mp recognised
  obtain ⟨rest, starts⟩ := m.exists_render_eq
  rw [Text.trim_eq_self bare, starts] at rendered
  exact first (by rw [← rendered]; rfl)

/-! ## Main statements -/

/-- **Cleaning undoes every wrapping.** A command that is no call that drains a cursor, with or
without the answer marker before it, such a call and a semicolon behind it, and markdown around all
of these, is given back whatever blanks stand between the parts and around the whole. -/
theorem wrappings_are_undone {c body wrapped before after : List Letter} {m : Command}
    (accepted : ofText? c = some m) (trimmed : Text.trim c = c) (other : ¬ m.IsDrain)
    (isBody : Body c body) (isWrapped : Wrapped body wrapped) (blank : IsBlanks before)
    (blank' : IsBlanks after) : clean (before ++ wrapped ++ after) = c := by
  obtain ⟨wellFormed, rendered⟩ := ofText?_eq_some_iff.mp accepted
  rw [trimmed] at rendered
  subst rendered
  have solid := isBody.solid
  obtain ⟨nonempty, bare⟩ := isWrapped.trimmed solid
  have found : Text.trim (before ++ wrapped ++ after) = wrapped := by
    rw [List.append_assoc]
    exact Text.strip_between nonempty bare blank blank'
  rw [clean, found, untick_unfence_of_wrapped solid isBody.untagged isWrapped]
  exact isBody.clean_eq wellFormed other

/-- Every part at once, around a command that holds the same marks as data. -/
theorem quoted_wrappings_stay :
    let c := ("db.c.find(\x7b\"a\": \"\x60\x60\x60js\\n.toArray();\"\x7d)" : Text).toList
    clean (("\n\x60\x60\x60c++\n\tMONGO-Ai:\n" : Text).toList ++ c ++
      (" .toArray()\n; \x60\x60\x60\n" : Text).toList) = c := by
  intro c
  let body := ("MONGO-Ai:" : Text).toList ++ [.char '\n'] ++ c ++ ([.char ' '] ++ drain) ++
    [.char '\n', .char ';']
  have accepted : ofText? c =
      some ⟨.collection "c", "find", "\x7b\"a\": \"\x60\x60\x60js\\n.toArray();\"\x7d"⟩ := by
    decide
  have space : IsBlanks [.char ' '] := by decide
  have line : IsBlanks [.char '\n'] := by decide
  have isBody : Body c body := .parts (.marked (by decide) line) (.ended space) (.ended line)
  have isTag : IsTag ("c++" : Text).toList := by decide
  have isWrapped : Wrapped body
      (fence ++ ("c++" : Text).toList ++ [.char '\n'] ++
        ([.char '\t'] ++ body ++ [.char ' ']) ++ fence) :=
    .marked (.tagged isTag) (by decide) space
  have undone := wrappings_are_undone accepted (by decide) (by decide) isBody isWrapped line line
  exact undone

/-- **Behind the marker, markdown stays open.** Where the answer marker stands before the markdown
around a command, the marks at the end of the text are taken off and those before the command are
not. What is left is no command. -/
theorem marks_behind_the_marker_stay
    {c mark blanks opening closing after : List Letter} {m : Command}
    (accepted : ofText? c = some m) (trimmed : Text.trim c = c) (other : ¬ m.IsDrain)
    (isMarker : IsMarker mark) (blank : IsBlanks blanks) (markdown : Markdown opening closing)
    (blank' : IsBlanks after) :
    clean (mark ++ blanks ++ (opening ++ c ++ after ++ closing)) = opening ++ c ∧
      ofText? (opening ++ c) = none := by
  obtain ⟨wellFormed, rendered⟩ := ofText?_eq_some_iff.mp accepted
  rw [trimmed] at rendered
  subst rendered
  have first := markdown.head?_append m.render
  have closed := getLast?_append_render m opening
  have visible : ∀ c ∈ (opening ++ m.render).head?, Text.isBlank c = false := by
    rw [first]
    rintro c ⟨⟩
    decide
  refine ⟨?_, ?_⟩
  · have solid : Solid (mark ++ (blanks ++ (opening ++ m.render))) := by
      refine isMarker.solid_append (by simp [markdown.opening_ne_nil]) (visible_of_closed ?_)
      rw [← List.append_assoc]
      exact getLast?_append_render m (blanks ++ opening)
    obtain ⟨closes, isTick⟩ := markdown.closing_ticks
    have whole : mark ++ blanks ++ (opening ++ m.render ++ after ++ closing) =
        mark ++ (blanks ++ (opening ++ m.render)) ++ after ++ closing := by simp
    have ends := dropSuffix_dropSuffix wellFormed other .absent .absent opening
    rw [List.append_nil, List.append_nil] at ends
    rw [clean, whole, untick_unfence_of_closed solid blank' closes isTick, ← List.append_assoc,
      isMarker.dropMarker_append blank visible, ends]
  · refine ofText?_eq_none ⟨visible, fun c found => (visible_of_closed closed c found).1⟩ ?_
    rw [first]
    decide

/-- The fence around a command on a line of its own loses its last mark only. -/
theorem fence_behind_the_marker_stays :
    clean ("mongo-ai: \x60\x60\x60js\ndb.c.find()\n\x60\x60\x60" : Text).toList =
      ("\x60\x60\x60js\ndb.c.find()" : Text).toList := by
  have accepted : ofText? ("db.c.find()" : Text).toList =
      some ⟨.collection "c", "find", ""⟩ := by decide
  have isMarker : IsMarker ("mongo-ai:" : Text).toList := by decide
  have space : IsBlanks [.char ' '] := by decide
  have line : IsBlanks [.char '\n'] := by decide
  have isTag : IsTag ("js" : Text).toList := by decide
  have left := marks_behind_the_marker_stay accepted (by decide) (by decide) isMarker space
    (.tagged isTag) line
  exact left.1

/-- So a command in backticks is not given back if the marker stands before them. -/
theorem backticks_behind_the_marker_stay :
    let c := ("db.users.find(\x7b\x7d)" : Text).toList
    let m : Command := ⟨.collection "users", "find", "\x7b\x7d"⟩
    let draft := ("mongo-ai:" : Text).toList ++ [.char ' '] ++ (.char '\x60' :: c ++ [.char '\x60'])
    ofText? c = some m ∧ Text.trim c = c ∧ ¬ m.IsDrain ∧ clean draft = .char '\x60' :: c ∧
      clean draft ≠ c := by
  decide

end QueryDesk.Draft
