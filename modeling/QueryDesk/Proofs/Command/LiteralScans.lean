import QueryDesk.Proofs.Command.Cuts

/-!
# Two scans, the same literals

Argument text is scanned twice: for its parentheses when a command is recognised (`Balance`), and
for its top-level commas when the arguments are cut (`Nesting`). Each scan keeps its own place with
respect to string literals, beside a count of its own. `StandsAt` says without a scan which place
that should be: a text stands outside of literals if it is made of complete ones and of characters
that are no quotes (`ClosedText`), and within one if an unfinished literal follows such a text.

* **One place.** A text stands at exactly one place (`standsAt_iff`), and both scans are there, as
  long as the scan for parentheses goes on (`Balance.standsAt_of_after`, `Nesting.standsAt_after`).
* **Cuts.** A text that ends outside of literals is cut into pieces that do, each scanned on its own
  (`closed_of_mem_pieces`): a cut is where the scan is back at the top.
* **Blanks.** A blank ends no literal and protects no quote, so trimming keeps this
  (`ClosedText.trim`).

Since the arguments of a command are balanced, none of their segments ends within a literal
(`scans_agree_on_literals`).
-/

namespace QueryDesk.Command

/-! ## Places -/

/-- Text whose literals are complete: what else it has is no quote. -/
inductive ClosedText : List Letter → Prop
  | nil : ClosedText []
  | other {s : List Letter} {c : Letter} (before : ClosedText s) (noQuote : isQuote c = false) :
      ClosedText (s ++ [c])
  | literal {s body : List Letter} {quote : Letter} (before : ClosedText s)
      (opens : isQuote quote = true) (within : Quoting.Body quote body) :
      ClosedText (s ++ (quote :: body ++ [quote]))

/-- Where the end of a text stands with respect to its literals. -/
inductive StandsAt : List Letter → Quoting → Prop
  | outside {s : List Letter} (closed : ClosedText s) : StandsAt s .outside
  | inside {s body : List Letter} {quote : Letter} (before : ClosedText s)
      (opens : isQuote quote = true) (within : Quoting.Body quote body) :
      StandsAt (s ++ quote :: body) (.inside quote)
  | escaped {s body : List Letter} {quote : Letter} (before : ClosedText s)
      (opens : isQuote quote = true) (within : Quoting.Body quote body) :
      StandsAt (s ++ quote :: (body ++ [.char '\\'])) (.escaped quote)

theorem isQuote_eq_false_of_isOrdinary {c : Letter} (plain : isOrdinary c = true) :
    isQuote c = false := by
  rw [isOrdinary, Bool.and_eq_true, Bool.not_eq_true'] at plain
  exact plain.2

/-- Where openers are counted, every literal is complete. -/
theorem Unmatched.closed {s opened : List Letter} (unmatched : Unmatched s opened) :
    ClosedText s := by
  induction unmatched with
  | nil => exact .nil
  | other _ noQuote _ _ ih => exact ih.other noQuote
  | opener _ opens ih =>
    exact ih.other (isQuote_eq_false_of_isOrdinary (NestedText.isOrdinary_of_isOpener opens))
  | closer _ closes ih =>
    exact ih.other (isQuote_eq_false_of_isOrdinary (NestedText.isOrdinary_of_isCloser closes))
  | stray _ closes ih =>
    exact ih.other (isQuote_eq_false_of_isOrdinary (NestedText.isOrdinary_of_isCloser closes))
  | literal _ opens within ih => exact ih.literal opens within

namespace Quoting

/-- Closed text leads a scan for literals back outside. -/
theorem after_closedText {s : List Letter} (closed : ClosedText s) : outside.after s = outside := by
  induction closed with
  | nil => rfl
  | other _ noQuote ih =>
    rw [after_append, ih]
    simp [after, step, noQuote]
  | literal _ opens within ih => rw [after_append, ih, after_literal opens within]

/-- Behind closed text, an unfinished literal leads inside. -/
theorem after_unfinished {s body : List Letter} {quote : Letter} (before : ClosedText s)
    (opens : isQuote quote = true) (within : Body quote body) :
    outside.after (s ++ quote :: body) = inside quote := by
  have entered : outside.step quote = inside quote := if_pos opens
  calc outside.after (s ++ quote :: body)
      = outside.after (quote :: body) := by rw [after_append, after_closedText before]
    _ = (inside quote).after body := by rw [after, List.foldl_cons, entered, ← after]
    _ = inside quote := after_body within

end Quoting

/-- After every text, the scan for commas is where the text stands. -/
theorem Nesting.standsAt_after (s : List Letter) : StandsAt s (top.after s).quoting := by
  have tracks := tracks_after s
  generalize top.after s = n at tracks
  obtain ⟨quoting, depth⟩ := n
  cases quoting with
  | outside =>
    obtain ⟨opened, unmatched, -⟩ := tracks
    exact .outside unmatched.closed
  | inside quote =>
    obtain ⟨p, opened, body, rfl, opens, within, unmatched, -⟩ := tracks
    exact .inside unmatched.closed opens within
  | escaped quote =>
    obtain ⟨p, opened, body, rfl, opens, within, unmatched, -⟩ := tracks
    exact .escaped unmatched.closed opens within

/-- A text stands at one place, and it is where a scan for literals alone is. -/
theorem standsAt_iff {s : List Letter} {q : Quoting} :
    StandsAt s q ↔ Quoting.outside.after s = q := by
  constructor
  · intro stands
    cases stands with
    | outside closed => exact Quoting.after_closedText closed
    | inside before opens within => exact Quoting.after_unfinished before opens within
    | escaped before opens within =>
      rw [← List.cons_append, ← List.append_assoc, Quoting.after_append,
        Quoting.after_unfinished before opens within]
      rfl
  · rintro rfl
    have stands := Nesting.standsAt_after s
    rwa [Nesting.quoting_after] at stands

theorem closedText_iff {s : List Letter} : ClosedText s ↔ Quoting.outside.after s = .outside := by
  refine ⟨Quoting.after_closedText, fun ends => ?_⟩
  cases standsAt_iff.mpr ends with
  | outside closed => exact closed

/-- As long as the scan for parentheses goes on, it is where the text stands. -/
theorem Balance.standsAt_of_after {b : Balance} {s : List Letter} (goes : level.after s = some b) :
    StandsAt s b.quoting :=
  standsAt_iff.mpr (quoting_after goes).symm

theorem StandsAt.unique {s : List Letter} {q q' : Quoting} (first : StandsAt s q)
    (second : StandsAt s q') : q = q' :=
  (standsAt_iff.mp first).symm.trans (standsAt_iff.mp second)

/-- Balanced text is closed. -/
theorem BalancedText.closed {s : List Letter} (balanced : BalancedText s) : ClosedText s := by
  have scanned : Balance.level.after s = some .level :=
    of_decide_eq_true (isBalanced_iff.mpr balanced)
  exact closedText_iff.mpr (Balance.quoting_after scanned).symm

/-! ## Cuts -/

/-- If a text leads a scan for commas outside of literals, its first piece does from the same place,
and each other piece does from outside. -/
theorem exists_pieces_eq_cons {n : Nesting} {s : List Letter}
    (ends : n.quoting.after s = .outside) :
    ∃ first rest, pieces n s = first :: rest ∧ n.quoting.after first = .outside ∧
      ∀ piece ∈ rest, Quoting.outside.after piece = .outside := by
  induction s generalizing n with
  | nil => exact ⟨[], [], rfl, ends, by simp⟩
  | cons c s ih =>
    have later : (n.step c).quoting.after s = .outside := by
      rw [Nesting.quoting_step]
      exact ends
    obtain ⟨first, rest, found, firstEnds, restEnds⟩ := ih later
    rw [pieces, found]
    split
    case isTrue cut =>
      -- the scan is at the top on both sides of the comma
      simp only [Nesting.cuts, Bool.and_eq_true, decide_eq_true_eq] at cut
      obtain ⟨rfl, rfl⟩ := cut
      exact ⟨[], first :: rest, rfl, rfl, List.forall_mem_cons.mpr ⟨firstEnds, restEnds⟩⟩
    case isFalse =>
      rw [Nesting.quoting_step] at firstEnds
      exact ⟨c :: first, rest, rfl, firstEnds, restEnds⟩

/-- The pieces of a closed text are closed. -/
theorem closed_of_mem_pieces {s piece : List Letter} (closed : ClosedText s)
    (member : piece ∈ pieces .top s) : ClosedText piece := by
  have ends : Nesting.top.quoting.after s = .outside := closedText_iff.mp closed
  obtain ⟨first, rest, found, firstEnds, restEnds⟩ := exists_pieces_eq_cons ends
  rw [found] at member
  rcases List.mem_cons.mp member with rfl | later
  · exact closedText_iff.mpr firstEnds
  · exact closedText_iff.mpr (restEnds piece later)

/-! ## Blanks -/

theorem isQuote_eq_false_of_isBlank {c : Letter} (blank : Text.isBlank c = true) :
    isQuote c = false := by
  refine Bool.eq_false_iff.mpr fun mark => ?_
  simp only [isQuote, Bool.or_eq_true, decide_eq_true_eq] at mark
  rcases mark with rfl | rfl <;> exact absurd blank (by decide)

/-- Blanks at the start of a text are outside of literals. -/
theorem closedText_of_blank {s : List Letter} (blank : ∀ c ∈ s, Text.isBlank c = true) :
    ClosedText s := by
  induction s using List.reverseRecOn with
  | nil => exact .nil
  | append_singleton s c ih =>
    rw [List.forall_mem_append, List.forall_mem_singleton] at blank
    exact (ih blank.1).other (isQuote_eq_false_of_isBlank blank.2)

/-- In a literal, blanks are nothing but its body. -/
theorem body_of_blank {quote : Letter} (opens : isQuote quote = true) {s : List Letter}
    (blank : ∀ c ∈ s, Text.isBlank c = true) : Quoting.Body quote s := by
  induction s with
  | nil => exact .nil
  | cons c s ih =>
    obtain ⟨first, rest⟩ := List.forall_mem_cons.mp blank
    have notQuote : c ≠ quote := by
      rintro rfl
      rw [isQuote_eq_false_of_isBlank first] at opens
      cases opens
    have notEscape : c ≠ '\\' := by
      rintro rfl
      exact absurd first (by decide)
    exact .plain notQuote notEscape (ih rest)

/-- A text that closes with blanks behind it is closed without them. -/
theorem ClosedText.of_append_blank {s blanks : List Letter} (closed : ClosedText (s ++ blanks))
    (blank : ∀ c ∈ blanks, Text.isBlank c = true) : ClosedText s := by
  have ends := closedText_iff.mp closed
  rw [Quoting.after_append] at ends
  have stands := standsAt_iff.mpr (rfl : Quoting.outside.after s = _)
  generalize Quoting.outside.after s = q at ends stands
  cases stands with
  | outside closed => exact closed
  | inside before opens within =>
    rw [Quoting.after_body (body_of_blank opens blank)] at ends
    cases ends
  | @escaped _ _ quote before opens within =>
    cases blanks with
    | nil => cases ends
    | cons c blanks =>
      -- the backslash protects the first blank, and the others are within the literal
      change (Quoting.inside quote).after blanks = .outside at ends
      rw [Quoting.after_body (body_of_blank opens (List.forall_mem_cons.mp blank).2)] at ends
      cases ends

/-- Trimming keeps a text closed. -/
theorem ClosedText.trim {s : List Letter} (closed : ClosedText s) : ClosedText (Text.trim s) := by
  obtain ⟨before, after, whole, blankBefore, blankAfter⟩ :=
    Text.exists_eq_append_strip_append Text.isBlank s
  have ends := closedText_iff.mp closed
  rw [whole, List.append_assoc, Quoting.after_append,
    closedText_iff.mp (closedText_of_blank blankBefore)] at ends
  exact (closedText_iff.mpr ends).of_append_blank blankAfter

/-- The segments of a closed text are closed. -/
theorem closed_of_mem_segments {s segment : List Letter} (closed : ClosedText s)
    (member : segment ∈ segments s) : ClosedText segment := by
  rw [segments] at member
  split at member
  case isTrue => cases member
  case isFalse =>
    obtain ⟨piece, cut, rfl⟩ := List.mem_map.mp member
    exact (closed_of_mem_pieces closed cut).trim

/-! ## Main statement -/

/-- **The scans agree on literals.** After any number of characters of any text, the scan for
parentheses, if it has not failed by then, is at the same place as the scan for commas, and this is
where the text so far stands. So every segment of the arguments of a command, scanned on its own,
ends outside of literals, and all its literals are complete. -/
theorem scans_agree_on_literals :
    (∀ (s : List Letter) (i : Nat) (b : Balance), Balance.level.after (s.take i) = some b →
      (Nesting.top.after (s.take i)).quoting = b.quoting ∧ StandsAt (s.take i) b.quoting) ∧
    ∀ (t : List Letter) (m : Command), ofText? t = some m →
      ∀ segment ∈ segments m.arguments.toList,
        (Nesting.top.after segment).quoting = .outside ∧
        (∀ b, Balance.level.after segment = some b → b.quoting = .outside) ∧
        ClosedText segment := by
  constructor
  · intro s i b goes
    have stands := Balance.standsAt_of_after goes
    have same := (Nesting.standsAt_after (s.take i)).unique stands
    exact ⟨same, stands⟩
  · intro t m accepted segment member
    have balanced : BalancedText m.arguments.toList := (ofText?_eq_some_iff.mp accepted).1.arguments
    have closed : ClosedText segment := closed_of_mem_segments balanced.closed member
    have stands : StandsAt segment .outside := .outside closed
    refine ⟨(Nesting.standsAt_after segment).unique stands, ?_, closed⟩
    intro b goes
    exact (Balance.standsAt_of_after goes).unique stands

/-- A literal with an escaped quote, a comma and a parenthesis: just behind the backslash both scans
are within the literal and protect the quote. The arguments are cut in the middle of a group, and
neither part has an open literal. -/
theorem escaped_quotes_do_not_part_the_scans :
    let arguments : Text := "(\"a\\\",)\" , 'b\\'' )"
    Balance.level.after (arguments.toList.take 4) = some ⟨.escaped '\x22', 1⟩ ∧
      (Nesting.top.after (arguments.toList.take 4)).quoting = .escaped '\x22' ∧
      ofText? ("db.c.f(" ++ arguments ++ ")").toList = some ⟨.collection "c", "f", arguments⟩ ∧
      segments arguments.toList = [("(\"a\\\",)\"" : Text).toList, ("'b\\'' )" : Text).toList] ∧
      ∀ segment ∈ segments arguments.toList, (Nesting.top.after segment).quoting = .outside ∧
        (∀ b, Balance.level.after segment = some b → b.quoting = .outside) ∧
        ClosedText segment := by
  intro arguments
  have goes : Balance.level.after (arguments.toList.take 4) = some ⟨.escaped '\x22', 1⟩ := by
    decide
  have accepted : ofText? ("db.c.f(" ++ arguments ++ ")").toList =
      some ⟨.collection "c", "f", arguments⟩ := by decide
  have cut : segments arguments.toList =
      [("(\"a\\\",)\"" : Text).toList, ("'b\\'' )" : Text).toList] := by decide
  have same := (scans_agree_on_literals.1 arguments.toList 4 _ goes).1
  exact ⟨goes, same, accepted, cut, scans_agree_on_literals.2 _ _ accepted⟩

end QueryDesk.Command
