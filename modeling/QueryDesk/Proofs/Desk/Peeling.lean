import QueryDesk.Proofs.Desk.Answer
import QueryDesk.Proofs.Desk.Draft

/-!
# What cleaning takes off

Whatever a generator writes, its text is what cleaning leaves between an opening and a closing
(`cleaning_only_peels`). So the command of an answer stands in the draft as it is, in one piece.

* The opening (`Opening`) is blanks and backticks, one line that names a language behind a fence at
  most, and one answer marker at most.
* The closing (`Closing`) is one call that drains a cursor at most, one semicolon at most, and
  blanks and backticks.

Each step of `clean` says what it takes off (`exists_unfence`, `Padded.untick`, `exists_dropMarker`,
`exists_dropSuffix`), and the later ones keep a text trimmed.
-/

namespace QueryDesk.Draft

variable {s t u : List Letter}

/-! ## The parts of an opening and a closing -/

/-- Nothing but blanks. -/
def IsBlanks (s : List Letter) : Prop :=
  ∀ c ∈ s, Text.isBlank c = true

/-- Nothing but blanks and backticks. -/
def IsFilling (s : List Letter) : Prop :=
  ∀ c ∈ s, Text.isBlank c = true ∨ c = '\x60'

/-- The name of a language. -/
def IsTag (s : List Letter) : Prop :=
  ∀ c ∈ s, isTagChar c = true

/-- The answer marker in some letter case. -/
def IsMarker (s : List Letter) : Prop :=
  s.map Letter.toLower = marker

instance (s : List Letter) : Decidable (IsBlanks s) :=
  List.decidableBAll _ s

instance (s : List Letter) : Decidable (IsTag s) :=
  List.decidableBAll _ s

instance (s : List Letter) : Decidable (IsMarker s) :=
  inferInstanceAs (Decidable (_ = _))

/-- Nothing, or behind a fence the line that names a language. -/
inductive TagLine (before : List Letter) : List Letter → Prop
  | absent : TagLine before []
  | named {tag : List Letter} (behind : fence <:+ before) (isTag : IsTag tag) :
      TagLine before (tag ++ [.char '\n'])

/-- Nothing, or the answer marker and blanks. -/
inductive Lead : List Letter → Prop
  | absent : Lead []
  | marked {mark blanks : List Letter} (isMarker : IsMarker mark) (blank : IsBlanks blanks) :
      Lead (mark ++ blanks)

/-- Nothing, or blanks and an ending. -/
inductive Tail (ending : List Letter) : List Letter → Prop
  | absent : Tail ending []
  | ended {blanks : List Letter} (blank : IsBlanks blanks) : Tail ending (blanks ++ ending)

/-- What may stand before a command. -/
inductive Opening : List Letter → Prop
  | parts {outside line inside lead : List Letter} (outer : IsFilling outside)
      (tagLine : TagLine outside line) (inner : IsFilling inside) (isLead : Lead lead) :
      Opening (outside ++ line ++ inside ++ lead)

/-- What may stand behind a command. -/
inductive Closing : List Letter → Prop
  | parts {call semicolon filling : List Letter} (drains : Tail drain call)
      (ends : Tail [.char ';'] semicolon) (outer : IsFilling filling) :
      Closing (call ++ semicolon ++ filling)

theorem IsFilling.nil : IsFilling [] :=
  List.forall_mem_nil _

theorem IsFilling.append (first : IsFilling s) (second : IsFilling t) : IsFilling (s ++ t) :=
  List.forall_mem_append.mpr ⟨first, second⟩

theorem eq_tick_of_mem_fence {c : Letter} (member : c ∈ fence) : c = '\x60' :=
  List.eq_of_mem_replicate (n := 3) member

theorem isFilling_fence : IsFilling fence :=
  fun _ member => .inr (eq_tick_of_mem_fence member)

theorem TagLine.prepend {before line : List Letter} (tagLine : TagLine before line)
    (s : List Letter) : TagLine (s ++ before) line := by
  cases tagLine with
  | absent => exact .absent
  | named behind isTag => exact .named (behind.trans (List.suffix_append _ _)) isTag

/-! ## Blanks and backticks -/

/-- The first text is the second between blanks and backticks. -/
def Padded (s t : List Letter) : Prop :=
  ∃ pre post, s = pre ++ t ++ post ∧ IsFilling pre ∧ IsFilling post

theorem Padded.trans (outer : Padded s t) (inner : Padded t u) : Padded s u := by
  obtain ⟨pre, post, rfl, filling, filling'⟩ := outer
  obtain ⟨pre', post', rfl, filling'', filling'''⟩ := inner
  exact ⟨pre ++ pre', post' ++ post, by simp, filling.append filling'', filling'''.append filling'⟩

theorem Padded.strip {p : Letter → Bool}
    (filling : ∀ c, p c = true → Text.isBlank c = true ∨ c = '\x60') (s : List Letter) :
    Padded s (Text.strip p s) := by
  obtain ⟨pre, post, whole, before, after⟩ := Text.exists_eq_append_strip_append p s
  exact ⟨pre, post, whole, fun c member => filling c (before c member),
    fun c member => filling c (after c member)⟩

theorem Padded.trim (s : List Letter) : Padded s (Text.trim s) :=
  .strip (fun _ blank => .inl blank) s

theorem Padded.untick (s : List Letter) : Padded s (untick s) :=
  (Padded.trim s).trans ((Padded.strip (fun _ tick => .inr (of_decide_eq_true tick)) _).trans
    (Padded.trim _))

/-! ## What the other steps take off -/

/-- The inside of a fence is what stands between its marks. -/
theorem fenced?_eq_some_iff {s inside : List Letter} :
    fenced? s = some inside ↔ s = fence ++ inside ++ fence := by
  have three : fence.length = 3 := rfl
  rw [fenced?]
  constructor
  · intro found
    split at found
    case isTrue marks =>
      rw [Bool.and_eq_true, List.isPrefixOf_iff_prefix, List.isSuffixOf_iff_suffix] at marks
      obtain ⟨⟨rest, rfl⟩, closes⟩ := marks
      rw [List.drop_left' three] at closes found
      obtain ⟨between, rfl⟩ := closes
      rw [List.length_append, three, Nat.add_sub_cancel, List.take_left] at found
      cases found
      rw [List.append_assoc]
    case isFalse => cases found
  · rintro rfl
    have rest : (fence ++ inside ++ fence).drop 3 = inside ++ fence := by
      rw [List.append_assoc, List.drop_left' three]
    have opens : fence.isPrefixOf (fence ++ inside ++ fence) = true := by
      rw [List.isPrefixOf_iff_prefix, List.append_assoc]
      exact List.prefix_append _ _
    have closes : fence.isSuffixOf (inside ++ fence) = true :=
      List.isSuffixOf_iff_suffix.mpr (List.suffix_append _ _)
    rw [rest, opens, closes, List.length_append, three, Nat.add_sub_cancel, List.take_left]
    rfl

/-- From the inside of a fence at most the line that names a language is taken. -/
theorem exists_dropTag {before : List Letter} (behind : fence <:+ before) (s : List Letter) :
    ∃ line, s = line ++ dropTag s ∧ TagLine before line := by
  rw [dropTag]
  split
  case h_1 rest ends =>
    refine ⟨s.takeWhile isTagChar ++ [.char '\n'], ?_, .named behind ?_⟩
    · rw [List.append_assoc, List.singleton_append, ← ends, List.takeWhile_append_dropWhile]
    · exact fun c member => List.all_eq_true.mp List.all_takeWhile c member
  case h_2 => exact ⟨[], rfl, .absent⟩

/-- Around a text in a fence there is nothing but filling and the line that names a language. -/
theorem exists_unfence (s : List Letter) :
    ∃ outside line inside post, s = outside ++ line ++ inside ++ unfence s ++ post ∧
      IsFilling outside ∧ TagLine outside line ∧ IsFilling inside ∧ IsFilling post := by
  cases found : fenced? s with
  | none =>
    rw [unfence, found]
    exact ⟨[], [], [], [], by simp, .nil, .absent, .nil, .nil⟩
  | some inside =>
    obtain ⟨line, whole, tagLine⟩ := exists_dropTag (List.suffix_refl fence) inside
    obtain ⟨before, after, trimmed, filling, filling'⟩ := Padded.trim (dropTag inside)
    rw [unfence, found]
    refine ⟨fence, line, before, after ++ fence, ?_, isFilling_fence, tagLine, filling,
      filling'.append isFilling_fence⟩
    calc s
        = fence ++ inside ++ fence := fenced?_eq_some_iff.mp found
      _ = fence ++ (line ++ (before ++ Text.trim (dropTag inside) ++ after)) ++ fence := by
          rw [← trimmed, ← whole]
      _ = fence ++ line ++ before ++ Text.trim (dropTag inside) ++ (after ++ fence) := by
          simp only [List.append_assoc]

theorem exists_dropMarker (s : List Letter) : ∃ lead, s = lead ++ dropMarker s ∧ Lead lead := by
  rw [dropMarker]
  split
  case isTrue marked =>
    refine ⟨s.take marker.length ++ (s.drop marker.length).takeWhile Text.isBlank, ?_,
      .marked marked ?_⟩
    · rw [List.append_assoc, List.takeWhile_append_dropWhile, List.take_append_drop]
    · exact fun c member => List.all_eq_true.mp List.all_takeWhile c member
  case isFalse => exact ⟨[], rfl, .absent⟩

theorem exists_dropSuffix (ending s : List Letter) :
    ∃ tail, s = dropSuffix ending s ++ tail ∧ Tail ending tail := by
  by_cases found : ending <:+ s
  · obtain ⟨front, rfl⟩ := found
    obtain ⟨blanks, whole, blank⟩ := Text.exists_eq_dropEnd_append Text.isBlank front
    refine ⟨blanks ++ ending, ?_, .ended blank⟩
    rw [dropSuffix_append, ← List.append_assoc, ← whole]
  · refine ⟨[], ?_, .absent⟩
    rw [dropSuffix_eq_self found, List.append_nil]

/-! ## Trimmed texts stay trimmed -/

theorem bare_dropMarker (bare : Text.Bare Text.isBlank s) :
    Text.Bare Text.isBlank (dropMarker s) := by
  rw [dropMarker]
  split
  case isTrue =>
    refine bare.of_suffix ?_ (Text.head?_dropWhile _ _)
    exact (List.dropWhile_suffix _).trans (List.drop_suffix _ _)
  case isFalse => exact bare

theorem bare_dropSuffix (bare : Text.Bare Text.isBlank s) (ending : List Letter) :
    Text.Bare Text.isBlank (dropSuffix ending s) := by
  by_cases found : ending <:+ s
  · obtain ⟨front, rfl⟩ := found
    rw [dropSuffix_append]
    refine bare.of_prefix ?_ (Text.getLast?_dropEnd _ _)
    obtain ⟨blanks, whole, -⟩ := Text.exists_eq_dropEnd_append Text.isBlank front
    refine ⟨blanks ++ ending, ?_⟩
    rw [← List.append_assoc, ← whole]
  · rw [dropSuffix_eq_self found]
    exact bare

theorem bare_clean (t : List Letter) : Text.Bare Text.isBlank (clean t) :=
  bare_dropSuffix (bare_dropSuffix (bare_dropMarker (Text.bare_strip ..)) _) _

/-- Every text is what cleaning leaves of it between an opening and a closing. -/
theorem exists_clean (t : List Letter) :
    ∃ pre post, t = pre ++ clean t ++ post ∧ Opening pre ∧ Closing post := by
  -- the text after each step
  let trimmed := Text.trim t
  let unfenced := unfence trimmed
  let unticked := untick unfenced
  let unmarked := dropMarker unticked
  let ended := dropSuffix [.char ';'] unmarked
  obtain ⟨b, b', whole, blank, blank'⟩ := Padded.trim t
  obtain ⟨outside, line, inside, post, fenced, outer, tagLine, inner, outer'⟩ :=
    exists_unfence trimmed
  obtain ⟨f, f', ticked, filling, filling'⟩ := Padded.untick unfenced
  obtain ⟨lead, marked, isLead⟩ := exists_dropMarker unticked
  obtain ⟨semicolon, closed, ends⟩ := exists_dropSuffix [.char ';'] unmarked
  obtain ⟨call, drained, drains⟩ := exists_dropSuffix drain ended
  have core : unticked = lead ++ (clean t ++ call ++ semicolon) := by
    rw [show clean t ++ call = ended from drained.symm, ← closed, ← marked]
  refine ⟨b ++ outside ++ line ++ (inside ++ f) ++ lead,
    call ++ semicolon ++ (f' ++ (post ++ b')), ?_,
    .parts (blank.append outer) (tagLine.prepend b) (inner.append filling) isLead,
    .parts drains ends (filling'.append (outer'.append blank'))⟩
  calc t
      = b ++ trimmed ++ b' := whole
    _ = b ++ (outside ++ line ++ inside ++ unfenced ++ post) ++ b' := by rw [← fenced]
    _ = b ++ (outside ++ line ++ inside ++ (f ++ unticked ++ f') ++ post) ++ b' := by rw [← ticked]
    _ = b ++ outside ++ line ++ (inside ++ f) ++ lead ++ clean t ++
          (call ++ semicolon ++ (f' ++ (post ++ b'))) := by
        rw [core]
        simp only [List.append_assoc]

/-! ## Main statement -/

/-- **Cleaning only peels.** The command in a draft is a part of its text as it stands there,
between an opening and a closing, and has no blanks at its ends. An answer to the draft is about
this command and no other: it is the one that is carried out and the one that the answer names. -/
theorem cleaning_only_peels (text : Text) :
    let command := Draft.command (some text)
    (∃ pre post, text.toList = pre ++ command.toList ++ post ∧ Opening pre ∧ Closing post) ∧
      Text.Bare Text.isBlank command.toList ∧
      ∀ (desk : Desk) (s : Store) (query : Text),
        let q := desk.answerDraft s query (some text)
        q.store = (desk.carryOut s command).1 ∧
          ∀ e, q.result = .ok e → e.generatedCommand = command := by
  intro command
  have cleaned : command.toList = clean text.toList := Text.toList_ofList _
  refine ⟨?_, ?_, ?_⟩
  · rw [cleaned]
    exact exists_clean text.toList
  · rw [cleaned]
    exact bare_clean text.toList
  · intro desk s query q
    rcases carried : desk.carryOut s command with ⟨s', fault | result, events⟩
    · obtain ⟨store, refused⟩ := Desk.answerDraft_of_carryOut_error query carried
      refine ⟨store, fun e answered => ?_⟩
      cases refused.symm.trans answered
    · obtain ⟨store, given⟩ := Desk.answerDraft_of_carryOut query carried
      refine ⟨store, fun e answered => ?_⟩
      cases given.symm.trans answered
      rfl

/-- The answer to a draft with every part of an opening and of a closing names the command alone. -/
theorem every_part_is_peeled :
    let text := "```js\n`Mongo-AI: db.c.find(\x7b\x7d).toArray() ;\n` ```"
    ∃ e, (({} : Desk).answerDraft {} "all" (some text)).result = .ok e ∧
      e.generatedCommand = "db.c.find(\x7b\x7d)" := by
  intro text
  have faults : ({} : Store).FaultsReported :=
    ⟨(fun _ raised => nomatch raised), fun _ member => absurd member List.not_mem_nil⟩
  obtain ⟨s', result, events, carried, -⟩ :=
    Desk.exists_carryOut faults {} (Draft.command (some text))
  have answered := (Desk.answerDraft_of_carryOut "all" carried).2
  have named := ((cleaning_only_peels text).2.2 {} {} "all").2 _ answered
  have alone : Draft.command (some text) = "db.c.find(\x7b\x7d)" := by decide +kernel
  exact ⟨_, answered, named.trans alone⟩

end QueryDesk.Draft
