import QueryDesk.Text.Basic

/-!
# Text literals in command text

A scan of command text from left to right is outside every string literal, inside one, or inside one
just after a backslash. A literal starts at an apostrophe or a double quote and ends at the next
quote of the same kind that no backslash protects. `Quoting.after_append` lets a scan be cut
anywhere, and `Quoting.after_literal` says that a complete literal leads back outside.
-/

namespace QueryDesk.Command

/-- The quotes that start a literal. -/
def isQuote (c : Letter) : Bool :=
  c = '\x27' || c = '\x22'

/-- Where a scan stands with respect to string literals. -/
inductive Quoting
  | outside
  | inside (quote : Letter)
  | escaped (quote : Letter)
  deriving DecidableEq, Repr

namespace Quoting

/-- Where the scan stands one character later. -/
def step : Quoting → Letter → Quoting
  | outside, c => if isQuote c then inside c else outside
  | inside quote, c =>
    if c = '\\' then escaped quote else if c = quote then outside else inside quote
  | escaped quote, _ => inside quote

/-- Where the scan stands after a text. -/
def after (q : Quoting) (s : List Letter) : Quoting :=
  s.foldl step q

theorem after_append (q : Quoting) (s t : List Letter) : q.after (s ++ t) = (q.after s).after t :=
  List.foldl_append ..

/-- The text between the quotes of a literal: no backslash and no quote of its own kind is bare. -/
inductive Body (quote : Letter) : List Letter → Prop
  | nil : Body quote []
  | plain {c : Letter} {s : List Letter} (notQuote : c ≠ quote) (notEscape : c ≠ '\\')
      (rest : Body quote s) : Body quote (c :: s)
  | escape (c : Letter) {s : List Letter} (rest : Body quote s) : Body quote (.char '\\' :: c :: s)

/-- Inside a literal its body leads nowhere else. -/
theorem after_body {quote : Letter} {s : List Letter} (h : Body quote s) :
    (inside quote).after s = inside quote := by
  induction h with
  | nil => rfl
  | plain notQuote notEscape _ ih =>
    simpa [after, step, notQuote, notEscape] using ih
  | escape c _ ih => simpa [after, step] using ih

/-- A complete literal leads from outside to outside. -/
theorem after_literal {quote : Letter} {s : List Letter} (isQuote' : isQuote quote = true)
    (h : Body quote s) : outside.after (quote :: s ++ [quote]) = outside := by
  have notEscape : quote ≠ '\\' := by
    rintro rfl
    simp [isQuote] at isQuote'
  rw [List.cons_append, after, List.foldl_cons]
  simp only [step, isQuote', if_true]
  rw [← after, after_append, after_body h]
  simp [after, step, notEscape]

end Quoting

end QueryDesk.Command
