import QueryDesk.Command.Segments
import QueryDesk.Proofs.Command.Balanced
import QueryDesk.Proofs.Text.Trim

/-!
# Texts that no scan cuts

`NestedText inside s` says that the quotes, braces and brackets of `s` belong together, and that no
comma is outside of them unless `inside` allows it. The two scans of argument text agree on where
such a text ends:

* the scan for parentheses accepts it (`NestedText.balanced`);
* the scan for top-level commas passes it without a cut, at any depth that the commas need
  (`NestedText.uncut`).

So a nested text is its own only segment (`NestedText.segments_eq`), and two of them with a comma
between are two segments (`NestedText.segments_append_comma`).
-/

namespace QueryDesk.Command

/-- The characters that move one of the scans. -/
def marks : List Letter :=
  [.char '\x27', .char '\x22', .char '(', .char ')', .char '\x7b', .char '\x7d', .char '[',
    .char ']']

/-- A text whose quotes, braces and brackets belong together. -/
inductive NestedText : Bool → List Letter → Prop
  | nil {inside : Bool} : NestedText inside []
  | plain {inside : Bool} {c : Letter} {s : List Letter} (unmarked : c ∉ marks)
      (comma : c = ',' → inside = true) (rest : NestedText inside s) : NestedText inside (c :: s)
  | literal {inside : Bool} {quote : Letter} {body s : List Letter} (opens : isQuote quote = true)
      (within : Quoting.Body quote body) (rest : NestedText inside s) :
      NestedText inside (quote :: body ++ quote :: s)
  | group {inside : Bool} {opener closer : Letter} {inner s : List Letter}
      (opens : Nesting.isOpener opener = true) (closes : Nesting.isCloser closer = true)
      (within : NestedText true inner) (rest : NestedText inside s) :
      NestedText inside (opener :: inner ++ closer :: s)

namespace NestedText

variable {inside : Bool} {s t : List Letter}

theorem append (first : NestedText inside s) (second : NestedText inside t) :
    NestedText inside (s ++ t) := by
  induction first with
  | nil => exact second
  | plain unmarked comma _ ih => exact .plain unmarked comma (ih second)
  | literal opens within _ ih =>
    rw [List.append_assoc, List.cons_append]
    exact .literal opens within (ih second)
  | group opens closes within _ _ ih =>
    rw [List.append_assoc, List.cons_append]
    exact .group opens closes within (ih second)

/-- Where commas are allowed, a text without them is as good. -/
theorem allow (nested : NestedText false s) : NestedText inside s := by
  -- the index has to be a variable for the induction
  generalize none : false = outer at nested
  induction nested with
  | nil => exact .nil
  | plain unmarked comma _ ih =>
    refine .plain unmarked (fun isComma => ?_) (ih none)
    rw [← none] at comma
    cases comma isComma
  | literal opens within _ ih => exact .literal opens within (ih none)
  | group opens closes within _ _ ih => exact .group opens closes within (ih none)

/-- A text of a class of characters that has no marks and no comma is nested. -/
theorem of_class {p : Letter → Bool} (avoids : (.char ',' :: marks).all (fun c => !p c) = true)
    (all : ∀ c ∈ s, p c = true) : NestedText inside s := by
  induction s with
  | nil => exact .nil
  | cons c s ih =>
    rw [List.forall_mem_cons] at all
    have other : c ∉ .char ',' :: marks := by
      intro member
      have outside := List.all_eq_true.mp avoids c member
      rw [all.1] at outside
      cases outside
    rw [List.mem_cons, not_or] at other
    exact .plain other.2 (fun isComma => absurd isComma other.1) (ih all.2)

/-! ## Parentheses -/

/-- What is no mark is an ordinary character. -/
theorem isOrdinary_of_unmarked {c : Letter} (unmarked : c ∉ marks) : isOrdinary c = true := by
  simp only [marks, List.mem_cons, List.not_mem_nil, or_false, not_or] at unmarked
  simp [isOrdinary, isQuote, unmarked]

theorem isOrdinary_of_isOpener {c : Letter} (opens : Nesting.isOpener c = true) :
    isOrdinary c = true := by
  simp only [Nesting.isOpener, Bool.or_eq_true, decide_eq_true_eq] at opens
  rcases opens with rfl | rfl <;> decide

theorem isOrdinary_of_isCloser {c : Letter} (closes : Nesting.isCloser c = true) :
    isOrdinary c = true := by
  simp only [Nesting.isCloser, Bool.or_eq_true, decide_eq_true_eq] at closes
  rcases closes with rfl | rfl <;> decide

/-- The scan for parentheses accepts a nested text. -/
theorem balanced (nested : NestedText inside s) : BalancedText s := by
  induction nested with
  | nil => exact .nil
  | plain unmarked _ _ ih => exact .ordinary (isOrdinary_of_unmarked unmarked) ih
  | literal opens within _ ih => exact .literal opens within ih
  | group opens closes _ _ ihWithin ihRest =>
    -- to this scan a group is its inside with one more character at either end
    have tail := BalancedText.ordinary (isOrdinary_of_isCloser closes) ihRest
    exact .ordinary (isOrdinary_of_isOpener opens) (ihWithin.append tail)

end NestedText

/-! ## Commas -/

/-- The scan for top-level commas goes through a text from `n` to `m` without a cut. -/
def Uncut (n m : Nesting) (s : List Letter) : Prop :=
  ∀ rest, pieces n (s ++ rest) = s.foldr consPiece (pieces m rest)

namespace Uncut

variable {n m k : Nesting} {s t : List Letter}

theorem nil : Uncut n n [] := fun _ => rfl

/-- One character that is no cut, and what follows it. -/
theorem cons {c : Letter} (stays : n.cuts c = false) (rest : Uncut (n.step c) m s) :
    Uncut n m (c :: s) := by
  intro more
  rw [List.cons_append, pieces, if_neg (by simp [stays]), rest more]
  rfl

theorem append (first : Uncut n m s) (second : Uncut m k t) : Uncut n k (s ++ t) := by
  intro more
  rw [List.append_assoc, first, second, List.foldr_append]

theorem foldr_consPiece (s piece : List Letter) (more : List (List Letter)) :
    s.foldr consPiece (piece :: more) = (s ++ piece) :: more := by
  induction s with
  | nil => rfl
  | cons c s ih =>
    rw [List.foldr_cons, ih]
    rfl

theorem pieces_eq (uncut : Uncut n m s) : pieces n s = [s] := by
  have whole := uncut []
  rw [List.append_nil, pieces, foldr_consPiece, List.append_nil] at whole
  exact whole

/-- At a top-level comma a new piece starts. -/
theorem pieces_append_comma (uncut : Uncut n .top s) (t : List Letter) :
    pieces n (s ++ .char ',' :: t) = s :: pieces .top t := by
  have cut : Nesting.top.cuts ',' = true := rfl
  rw [uncut, pieces, if_pos cut, foldr_consPiece, List.append_nil]
  rfl

/-- The body of a literal and its closing quote are passed at any depth. -/
theorem body {quote : Letter} {body : List Letter} (notEscape : quote ≠ '\\')
    (within : Quoting.Body quote body) (depth : Nat) :
    Uncut ⟨.inside quote, depth⟩ ⟨.outside, depth⟩ (body ++ [quote]) := by
  induction within with
  | nil =>
    refine cons rfl ?_
    have closed : (Nesting.mk (.inside quote) depth).step quote = ⟨.outside, depth⟩ := by
      simp [Nesting.step, Quoting.step, notEscape]
    rw [closed]
    exact nil
  | @plain c s notQuote notEscape' _ ih =>
    refine cons rfl ?_
    have stays : (Nesting.mk (.inside quote) depth).step c = ⟨.inside quote, depth⟩ := by
      simp [Nesting.step, Quoting.step, notQuote, notEscape']
    rw [stays]
    exact ih
  | escape c _ ih =>
    refine cons rfl (cons rfl ?_)
    exact ih

/-- A complete literal is passed at any depth. -/
theorem literal {quote : Letter} {body : List Letter} (opens : isQuote quote = true)
    (within : Quoting.Body quote body) (depth : Nat) :
    Uncut ⟨.outside, depth⟩ ⟨.outside, depth⟩ (quote :: body ++ [quote]) := by
  have passed := Uncut.body (Balance.ne_backslash_of_isQuote opens) within depth
  simp only [isQuote, Bool.or_eq_true, decide_eq_true_eq] at opens
  rcases opens with rfl | rfl
  · exact cons (by simp [Nesting.cuts]) passed
  · exact cons (by simp [Nesting.cuts]) passed

end Uncut

namespace NestedText

variable {inside : Bool} {s t : List Letter}

/-- The scan for commas passes a nested text at any depth that its commas need. -/
theorem uncut (nested : NestedText inside s) {depth : Nat} (deep : inside = true → 0 < depth) :
    Uncut ⟨.outside, depth⟩ ⟨.outside, depth⟩ s := by
  induction nested generalizing depth with
  | nil => exact .nil
  | @plain inside c s unmarked comma _ ih =>
    refine Uncut.cons ?_ ?_
    · by_cases isComma : c = ','
      · -- a comma of the text is below the top level
        have positive := deep (comma isComma)
        simp [Nesting.cuts, Nesting.top, positive.ne']
      · simp [Nesting.cuts, isComma]
    · have stays : (Nesting.mk .outside depth).step c = ⟨.outside, depth⟩ := by
        simp only [marks, List.mem_cons, List.not_mem_nil, or_false, not_or] at unmarked
        simp [Nesting.step, Nesting.isOpener, Nesting.isCloser, Quoting.step, isQuote, unmarked]
      rw [stays]
      exact ih deep
  | @literal inside quote body s opens within _ ih =>
    have passed := (Uncut.literal opens within depth).append (ih deep)
    rw [List.append_assoc] at passed
    exact passed
  | @group inside opener closer inner s opens closes _ _ ihWithin ihRest =>
    have opened : (Nesting.mk .outside depth).step opener = ⟨.outside, depth + 1⟩ := by
      simp [Nesting.step, opens]
    have closed : (Nesting.mk .outside (depth + 1)).step closer = ⟨.outside, depth⟩ := by
      simp only [Nesting.isCloser, Bool.or_eq_true, decide_eq_true_eq] at closes
      rcases closes with rfl | rfl <;> rfl
    refine Uncut.cons ?_ ?_
    · simp only [Nesting.isOpener, Bool.or_eq_true, decide_eq_true_eq] at opens
      rcases opens with rfl | rfl <;> simp [Nesting.cuts]
    · rw [opened]
      -- the inside is one level deeper, so its commas are no cuts
      refine (ihWithin fun _ => Nat.succ_pos depth).append (Uncut.cons ?_ ?_)
      · simp [Nesting.cuts, Nesting.top]
      · rw [closed]
        exact ihRest deep

theorem uncut_top (nested : NestedText false s) : Uncut .top .top s :=
  nested.uncut (fun impossible => nomatch impossible)

/-- A nested text without commas outside is its own only segment, unless it is blank. -/
theorem segments_eq (nested : NestedText false s) (visible : s.all Text.isBlank = false) :
    segments s = [Text.trim s] := by
  rw [segments, if_neg (by simp [visible]), nested.uncut_top.pieces_eq]
  rfl

/-- Two nested texts with a comma between them are two segments. -/
theorem segments_append_comma (first : NestedText false s) (second : NestedText false t) :
    segments (s ++ .char ',' :: t) = [Text.trim s, Text.trim t] := by
  have visible : (s ++ .char ',' :: t).all Text.isBlank = false := by
    have comma : Text.isBlank ',' = false := by decide
    simp [comma]
  rw [segments, if_neg (by simp [visible]), first.uncut_top.pieces_append_comma,
    second.uncut_top.pieces_eq]
  rfl

end NestedText

end QueryDesk.Command
