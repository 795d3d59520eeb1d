import QueryDesk.Command.Quoting
import QueryDesk.Text.Blank

/-!
# Segments of an argument list

An argument list is cut at its top-level commas: those outside every string literal, brace and
bracket. A closer takes back the last opener of either kind, and one without an opener is ignored.
The pieces joined by commas are the list again (`join_pieces`), so nothing is lost; the segments are
the pieces without the blanks around them.
-/

namespace QueryDesk.Command

/-- A scan for top-level commas: where it stands, and how many braces and brackets are open. -/
structure Nesting where
  quoting : Quoting
  /-- Braces and brackets opened and not yet closed. -/
  depth : Nat
  deriving DecidableEq, Repr

namespace Nesting

/-- The scan before the first character. -/
def top : Nesting := ⟨.outside, 0⟩

def isOpener (c : Letter) : Bool :=
  c = '\x7b' || c = '['

def isCloser (c : Letter) : Bool :=
  c = '\x7d' || c = ']'

/-- The scan one character later. -/
def step (n : Nesting) (c : Letter) : Nesting :=
  match n.quoting with
  | .outside =>
    if isOpener c then { n with depth := n.depth + 1 }
    else if isCloser c then { n with depth := n.depth - 1 }
    else { n with quoting := n.quoting.step c }
  | _ => { n with quoting := n.quoting.step c }

def after (n : Nesting) (s : List Letter) : Nesting :=
  s.foldl step n

theorem after_append (n : Nesting) (s t : List Letter) : n.after (s ++ t) = (n.after s).after t :=
  List.foldl_append ..

/-- The scan stands where a scan for literals alone would. -/
theorem quoting_step (n : Nesting) (c : Letter) : (n.step c).quoting = n.quoting.step c := by
  unfold step
  split
  case h_1 outside =>
    split
    case isTrue opens =>
      rw [outside]
      have : isQuote c = false := by
        simp only [isOpener, Bool.or_eq_true, decide_eq_true_eq] at opens
        rcases opens with rfl | rfl <;> decide
      simp [Quoting.step, this]
    case isFalse =>
      split
      case isTrue closes =>
        rw [outside]
        have : isQuote c = false := by
          simp only [isCloser, Bool.or_eq_true, decide_eq_true_eq] at closes
          rcases closes with rfl | rfl <;> decide
        simp [Quoting.step, this]
      case isFalse => rfl
  case h_2 => rfl

/-- Whether the list is cut at this character. -/
def cuts (n : Nesting) (c : Letter) : Bool :=
  n = top && c = ','

end Nesting

/-- A character in front of the first piece. -/
def consPiece (c : Letter) : List (List Letter) → List (List Letter)
  | [] => [[c]]
  | piece :: rest => (c :: piece) :: rest

/-- The pieces between top-level commas. -/
def pieces (n : Nesting) : List Letter → List (List Letter)
  | [] => [[]]
  | c :: rest =>
    if n.cuts c then [] :: pieces (n.step c) rest else consPiece c (pieces (n.step c) rest)

/-- The segments of an argument list; a blank list has none. -/
def segments (s : List Letter) : List (List Letter) :=
  if s.all Text.isBlank then [] else (pieces .top s).map Text.trim

/-- The first segment, or nothing in a blank list. -/
def firstSegment (s : List Letter) : List Letter :=
  (segments s).headD []

/-- There is a piece before the first comma. -/
theorem pieces_ne_nil (n : Nesting) (s : List Letter) : pieces n s ≠ [] := by
  cases s with
  | nil => simp [pieces]
  | cons c rest =>
    simp only [pieces]
    split
    · simp
    · cases pieces (n.step c) rest <;> simp [consPiece]

/-- A character in front of the first piece is a character in front of the list. -/
theorem join_consPiece (c : Letter) {ps : List (List Letter)} (h : ps ≠ []) :
    [.char ','].intercalate (consPiece c ps) = c :: [.char ','].intercalate ps := by
  match ps with
  | [] => exact absurd rfl h
  | [piece] => simp [consPiece, List.intercalate, List.intersperse]
  | piece :: next :: rest => simp [consPiece, List.intercalate, List.intersperse]

/-- The pieces joined by commas are the argument list. -/
theorem join_pieces (n : Nesting) (s : List Letter) : [.char ','].intercalate (pieces n s) = s := by
  induction s generalizing n with
  | nil => simp [pieces, List.intercalate]
  | cons c rest ih =>
    have ne := pieces_ne_nil (n.step c) rest
    simp only [pieces]
    split
    case isTrue cut =>
      have comma : c = ',' := by
        simp only [Nesting.cuts, Bool.and_eq_true, decide_eq_true_eq] at cut
        exact cut.2
      have joined := ih (n.step c)
      match whole : pieces (n.step c) rest, ne, joined with
      | piece :: more, _, joined =>
        rw [comma]
        simpa [List.intercalate, List.intersperse] using joined
    case isFalse => rw [join_consPiece c ne, ih]

end QueryDesk.Command
