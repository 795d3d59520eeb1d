import QueryDesk.Command.Quoting

/-!
# Balanced argument text

The argument text of a command is what stands between its outer parentheses. It is balanced if every
closing parenthesis closes one that was opened inside it, every opened one is closed, and every
string literal ends; parentheses in literals do not count. Without this test the text between the
first and the last parenthesis of two statements in a row would pass for one argument.
-/

namespace QueryDesk.Command

/-- A scan for balance: where it stands, and how many parentheses are open. -/
structure Balance where
  quoting : Quoting
  /-- Parentheses opened and not yet closed. -/
  depth : Nat
  deriving DecidableEq, Repr

namespace Balance

/-- The scan before the first character, and after a balanced text. -/
def level : Balance := ⟨.outside, 0⟩

/-- The scan one character later; nothing if a parenthesis closes that was never opened. -/
def step (b : Balance) (c : Letter) : Option Balance :=
  match b.quoting with
  | .outside =>
    if c = '(' then some { b with depth := b.depth + 1 }
    else if c = ')' then
      match b.depth with
      | 0 => none
      | depth + 1 => some { b with depth }
    else some { b with quoting := b.quoting.step c }
  | _ => some { b with quoting := b.quoting.step c }

/-- The scan after a text. -/
def after (b : Balance) (s : List Letter) : Option Balance :=
  s.foldlM step b

theorem after_append (b : Balance) (s t : List Letter) :
    b.after (s ++ t) = (b.after s).bind (·.after t) :=
  List.foldlM_append ..

/-- As long as the scan goes on, it stands where a scan for literals alone would. -/
theorem quoting_step {b b' : Balance} {c : Letter} (h : b.step c = some b') :
    b'.quoting = b.quoting.step c := by
  unfold step at h
  split at h
  case h_1 outside =>
    split at h
    case isTrue opens => cases h; simp [outside, opens, Quoting.step, isQuote]
    case isFalse =>
      split at h
      case isTrue closes =>
        split at h
        · cases h
        · cases h; simp [outside, closes, Quoting.step, isQuote]
      case isFalse => cases h; rfl
  case h_2 => cases h; rfl

end Balance

/-- Whether argument text is balanced. -/
def isBalanced (s : List Letter) : Bool :=
  Balance.level.after s = some Balance.level

end QueryDesk.Command
