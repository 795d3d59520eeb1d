import QueryDesk.Proofs.Command.Literal

/-!
# Where an argument list is cut

`Unmatched s opened` says which openers of a text are unmatched at its end, the most recent one
first, if the text ends outside of every string literal. It has one rule for each way in which a
text goes on: a closer matches the most recent opener, whichever kind it is of, and a closer that
finds none is ignored; a literal counts as a whole. The scan for commas keeps no more than a number
and its place with respect to literals. That this is enough, for malformed text too, is its
invariant:

* `Nesting.Tracks` says what the scan knows of the text behind it; one character keeps it
  (`Nesting.Tracks.step`), so it holds after every text (`Nesting.tracks_after`);
* a scan is back at the top exactly where no opener is unmatched (`after_eq_top_iff`).

So the pieces are what lies between the top-level commas, and nothing is lost
(`cuts_are_top_level_commas`).
-/

namespace QueryDesk.Command

/-! ## Unmatched openers -/

/-- The openers of a text that are unmatched at its end, the most recent first. -/
inductive Unmatched : List Letter → List Letter → Prop
  | nil : Unmatched [] []
  | other {s opened : List Letter} {c : Letter} (before : Unmatched s opened)
      (noQuote : isQuote c = false) (noOpener : Nesting.isOpener c = false)
      (noCloser : Nesting.isCloser c = false) : Unmatched (s ++ [c]) opened
  | opener {s opened : List Letter} {c : Letter} (before : Unmatched s opened)
      (opens : Nesting.isOpener c = true) : Unmatched (s ++ [c]) (c :: opened)
  | closer {s opened : List Letter} {c o : Letter} (before : Unmatched s (o :: opened))
      (closes : Nesting.isCloser c = true) : Unmatched (s ++ [c]) opened
  | stray {s : List Letter} {c : Letter} (before : Unmatched s [])
      (closes : Nesting.isCloser c = true) : Unmatched (s ++ [c]) []
  | literal {s opened body : List Letter} {quote : Letter} (before : Unmatched s opened)
      (opens : isQuote quote = true) (within : Quoting.Body quote body) :
      Unmatched (s ++ (quote :: body ++ [quote])) opened

namespace Quoting.Body

variable {quote : Letter} {s t : List Letter}

theorem append (first : Body quote s) (second : Body quote t) : Body quote (s ++ t) := by
  induction first with
  | nil => exact second
  | plain notQuote notEscape _ ih => exact .plain notQuote notEscape ih
  | escape c _ ih => exact .escape c ih

end Quoting.Body

/-! ## The invariant of the scan -/

namespace Nesting

/-- What a scan knows of the text behind it: the number of unmatched openers, and the literal that
it stands in. -/
def Tracks (n : Nesting) (s : List Letter) : Prop :=
  match n.quoting with
  | .outside => ∃ opened, Unmatched s opened ∧ opened.length = n.depth
  | .inside quote => ∃ p opened body, s = p ++ quote :: body ∧ isQuote quote = true ∧
      Quoting.Body quote body ∧ Unmatched p opened ∧ opened.length = n.depth
  | .escaped quote => ∃ p opened body,
      s = p ++ quote :: (body ++ [.char '\\']) ∧ isQuote quote = true ∧
      Quoting.Body quote body ∧ Unmatched p opened ∧ opened.length = n.depth

/-- One character more keeps what the scan knows. -/
theorem Tracks.step {n : Nesting} {s : List Letter} (tracks : n.Tracks s) (c : Letter) :
    (n.step c).Tracks (s ++ [c]) := by
  obtain ⟨quoting, depth⟩ := n
  cases quoting with
  | outside =>
    obtain ⟨opened, unmatched, rfl⟩ := tracks
    by_cases opens : isOpener c = true
    · have stepped : (Nesting.mk .outside opened.length).step c =
          ⟨.outside, opened.length + 1⟩ := by
        simp [Nesting.step, opens]
      rw [stepped]
      exact ⟨c :: opened, unmatched.opener opens, rfl⟩
    by_cases closes : isCloser c = true
    · have stepped : (Nesting.mk .outside opened.length).step c =
          ⟨.outside, opened.length - 1⟩ := by
        simp [Nesting.step, opens, closes]
      rw [stepped]
      -- a closer takes back an opener if there is one
      cases opened with
      | nil => exact ⟨[], unmatched.stray closes, rfl⟩
      | cons o opened => exact ⟨opened, unmatched.closer closes, rfl⟩
    by_cases quotes : isQuote c = true
    · have stepped : (Nesting.mk .outside opened.length).step c = ⟨.inside c, opened.length⟩ := by
        simp [Nesting.step, opens, closes, Quoting.step, quotes]
      rw [stepped]
      exact ⟨s, opened, [], rfl, quotes, .nil, unmatched, rfl⟩
    · have stepped : (Nesting.mk .outside opened.length).step c = ⟨.outside, opened.length⟩ := by
        simp [Nesting.step, opens, closes, Quoting.step, quotes]
      rw [stepped]
      rw [Bool.not_eq_true] at opens closes quotes
      exact ⟨opened, unmatched.other quotes opens closes, rfl⟩
  | inside quote =>
    obtain ⟨p, opened, body, rfl, quotes, within, unmatched, rfl⟩ := tracks
    have stepped : (Nesting.mk (.inside quote) opened.length).step c =
        ⟨(Quoting.inside quote).step c, opened.length⟩ := rfl
    rw [stepped]
    by_cases escapes : c = '\\'
    · have next : (Quoting.inside quote).step c = .escaped quote := if_pos escapes
      rw [next, escapes]
      exact ⟨p, opened, body, by simp, quotes, within, unmatched, rfl⟩
    by_cases ends : c = quote
    · subst ends
      have next : (Quoting.inside c).step c = .outside := by simp [Quoting.step, escapes]
      rw [next]
      refine ⟨opened, ?_, rfl⟩
      simpa using unmatched.literal quotes within
    · have next : (Quoting.inside quote).step c = .inside quote := by
        simp [Quoting.step, escapes, ends]
      rw [next]
      exact ⟨p, opened, body ++ [c], by simp, quotes,
        within.append (.plain ends escapes .nil), unmatched, rfl⟩
  | escaped quote =>
    obtain ⟨p, opened, body, rfl, quotes, within, unmatched, rfl⟩ := tracks
    refine ⟨p, opened, body ++ [.char '\\', c], by simp, quotes, ?_, unmatched, rfl⟩
    exact within.append (.escape c .nil)

/-- After every text, the scan knows the text. -/
theorem tracks_after (s : List Letter) : (top.after s).Tracks s := by
  induction s using List.reverseRecOn with
  | nil => exact ⟨[], .nil, rfl⟩
  | append_singleton s c ih =>
    rw [after_append]
    exact ih.step c

/-- Within a literal nothing is opened or closed. -/
theorem after_body {quote : Letter} {body : List Letter} (within : Quoting.Body quote body)
    (depth : Nat) : (Nesting.mk (.inside quote) depth).after body = ⟨.inside quote, depth⟩ := by
  induction within with
  | nil => rfl
  | @plain c s notQuote notEscape _ ih =>
    have stays : (Nesting.mk (.inside quote) depth).step c = ⟨.inside quote, depth⟩ := by
      simp [Nesting.step, Quoting.step, notQuote, notEscape]
    show ((Nesting.mk (.inside quote) depth).step c).after s = _
    rw [stays, ih]
  | escape c _ ih => exact ih

/-- A scan counts the unmatched openers. -/
theorem after_of_unmatched {s opened : List Letter} (unmatched : Unmatched s opened) :
    top.after s = ⟨.outside, opened.length⟩ := by
  induction unmatched with
  | nil => rfl
  | other _ noQuote noOpener noCloser ih =>
    rw [after_append, ih]
    simp [after, Nesting.step, Quoting.step, noQuote, noOpener, noCloser]
  | opener _ opens ih =>
    rw [after_append, ih]
    simp [after, Nesting.step, opens]
  | @closer s opened c o _ closes ih =>
    have noOpener : isOpener c = false := by
      simp only [isCloser, Bool.or_eq_true, decide_eq_true_eq] at closes
      rcases closes with rfl | rfl <;> rfl
    rw [after_append, ih]
    simp [after, Nesting.step, noOpener, closes]
  | @stray s c _ closes ih =>
    have noOpener : isOpener c = false := by
      simp only [isCloser, Bool.or_eq_true, decide_eq_true_eq] at closes
      rcases closes with rfl | rfl <;> rfl
    rw [after_append, ih]
    simp [after, Nesting.step, noOpener, closes]
  | @literal s opened body quote _ opens within ih =>
    have entered : (Nesting.mk .outside opened.length).step quote =
        ⟨.inside quote, opened.length⟩ := by
      simp only [isQuote, Bool.or_eq_true, decide_eq_true_eq] at opens
      rcases opens with rfl | rfl <;> rfl
    have left : (Nesting.mk (.inside quote) opened.length).step quote =
        ⟨.outside, opened.length⟩ := by
      simp [Nesting.step, Quoting.step, Balance.ne_backslash_of_isQuote opens]
    rw [after_append, ih]
    show (((Nesting.mk .outside opened.length).step quote).after (body ++ [quote])) = _
    rw [entered, after_append, after_body within]
    exact left

/-- The scan is back at the top exactly where every opener is matched. -/
theorem after_eq_top_iff {s : List Letter} : top.after s = top ↔ Unmatched s [] := by
  refine ⟨fun back => ?_, after_of_unmatched⟩
  have tracks := tracks_after s
  rw [back] at tracks
  obtain ⟨opened, unmatched, none⟩ := tracks
  exact List.length_eq_zero_iff.mp none ▸ unmatched

end Nesting

/-! ## Cuts -/

/-- The pieces are cut behind `before`: it is what some of them, from the first one on, make up, and
others follow. -/
def IsCut (parts : List (List Letter)) (before : List Letter) : Prop :=
  ∃ front back, parts = front ++ back ∧ front ≠ [] ∧ back ≠ [] ∧
    before = [.char ','].intercalate front

/-- Behind a cut the scan is back at the top. -/
theorem after_of_isCut {n : Nesting} {s before : List Letter} (cut : IsCut (pieces n s) before) :
    n.after before = .top := by
  obtain ⟨front, back, split, nonempty, more, rfl⟩ := cut
  induction s generalizing n front with
  | nil =>
    -- the one piece cannot be shared out
    have one := congrArg List.length split
    rw [pieces, List.length_singleton, List.length_append] at one
    have := List.length_pos_iff.mpr nonempty
    have := List.length_pos_iff.mpr more
    omega
  | cons c rest ih =>
    obtain ⟨first, front, rfl⟩ := List.exists_cons_of_ne_nil nonempty
    rw [pieces] at split
    split at split
    case isTrue here =>
      obtain ⟨rfl, later⟩ := List.cons.inj split
      simp only [Nesting.cuts, Bool.and_eq_true, decide_eq_true_eq] at here
      obtain ⟨rfl, rfl⟩ := here
      cases front with
      | nil => rfl
      | cons second front =>
        have joined : [.char ','].intercalate ([] :: second :: front) =
            .char ',' :: [.char ','].intercalate (second :: front) := by
          simp [List.intercalate, List.intersperse]
        rw [joined]
        exact ih _ later (List.cons_ne_nil _ _)
    case isFalse =>
      obtain ⟨piece, others, found⟩ := List.exists_cons_of_ne_nil (pieces_ne_nil (n.step c) rest)
      rw [found, consPiece] at split
      obtain ⟨rfl, later⟩ := List.cons.inj split
      have joined := join_consPiece c (List.cons_ne_nil piece front)
      rw [consPiece] at joined
      rw [joined]
      refine ih (piece :: front) ?_ (List.cons_ne_nil piece front)
      rw [found, later]
      rfl

/-- At a comma where the scan is back at the top there is a cut. -/
theorem isCut_of_after {n : Nesting} {before : List Letter} (back : n.after before = .top)
    (after : List Letter) : IsCut (pieces n (before ++ .char ',' :: after)) before := by
  obtain ⟨front, last, split⟩ := exists_pieces_append n before
  have whole := split []
  have cut := split (.char ',' :: after)
  have comma : pieces .top (.char ',' :: after) = [] :: pieces .top after := rfl
  rw [List.append_nil, pieces, Uncut.foldr_consPiece, List.append_nil] at whole
  rw [back, comma, Uncut.foldr_consPiece, List.append_nil] at cut
  refine ⟨front ++ [last], pieces .top after, ?_, by simp, pieces_ne_nil _ _, ?_⟩
  · rw [cut, List.append_assoc, List.singleton_append]
  · rw [← whole, join_pieces]

/-- **The cuts are the top-level commas.** An argument list that is not blank has pieces that make
it up when they are joined by commas, and whose trimmed forms are the segments in order; and a comma
of the list is a cut exactly if it stands outside of every literal where no opener is unmatched. -/
theorem cuts_are_top_level_commas {s : List Letter} (visible : s.all Text.isBlank = false) :
    ∃ parts, [.char ','].intercalate parts = s ∧ segments s = parts.map Text.trim ∧
      ∀ before after, s = before ++ .char ',' :: after →
        (IsCut parts before ↔ Unmatched before []) := by
  refine ⟨pieces .top s, join_pieces .top s, if_neg (by simp [visible]), ?_⟩
  rintro before after rfl
  rw [← Nesting.after_eq_top_iff]
  exact ⟨after_of_isCut, fun back => isCut_of_after back after⟩

/-- Closers that match the wrong kind or nothing, and a literal that does not end. -/
theorem stray_closers_do_not_hide_commas :
    let s := ("\x7b],a]],[,'" : Text).toList
    s.all Text.isBlank = false ∧
      ∃ parts, [.char ','].intercalate parts = s ∧ segments s = parts.map Text.trim ∧
        ∀ before after, s = before ++ .char ',' :: after →
          (IsCut parts before ↔ Unmatched before []) := by
  intro s
  have visible : s.all Text.isBlank = false := by decide
  exact ⟨visible, cuts_are_top_level_commas visible⟩

end QueryDesk.Command
