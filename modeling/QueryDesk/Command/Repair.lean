import QueryDesk.Text.Basic

/-!
# Repair of shell-style literals

Replies often write documents the way a shell takes them, with bare or single-quoted names and
single-quoted strings. The repair works on the text alone, in two passes: it puts double quotes
around every name that stands before a colon, and then turns every pair of apostrophes with
something between them into double quotes. It knows nothing of nesting or of literals, so a colon
or an apostrophe inside a string can mislead it.
-/

namespace QueryDesk.Command.Repair

/-- The characters of a name. -/
def isNameChar (c : Letter) : Bool :=
  c.isAlphanum || c = '_' || c = '$'

/-- The text without the quote that it may start with. -/
def dropQuote : List Letter → List Letter
  | c :: rest => if c = '\x27' || c = '\x22' then rest else c :: rest
  | [] => []

/-- A name at the start of the text, between quotes of either kind or bare on either side, with a
colon after it: the name, and the text after the colon. -/
def name? (s : List Letter) : Option (List Letter × List Letter) :=
  let start := dropQuote s
  let name := start.takeWhile isNameChar
  match name, dropQuote (start.dropWhile isNameChar) with
  | _ :: _, .char ':' :: rest => some (name, rest)
  | _, _ => none

theorem length_dropQuote_le (s : List Letter) : (dropQuote s).length ≤ s.length := by
  cases s with
  | nil => simp [dropQuote]
  | cons c rest => simp only [dropQuote]; split <;> simp

theorem length_lt_of_name? {s name rest : List Letter} (h : name? s = some (name, rest)) :
    rest.length < s.length := by
  unfold name? at h
  dsimp only at h
  split at h
  case h_1 colon =>
    cases h
    have first := length_dropQuote_le s
    have second := (List.dropWhile_sublist (l := dropQuote s) isNameChar).length_le
    have third := length_dropQuote_le ((dropQuote s).dropWhile isNameChar)
    rw [colon, List.length_cons] at third
    omega
  case h_2 => cases h

/-- Puts double quotes around every name before a colon, from left to right. -/
def quoteNames (s : List Letter) : List Letter :=
  match h : name? s with
  | some (name, rest) =>
    have := length_lt_of_name? h
    .char '\x22' :: name ++ .char '\x22' :: .char ':' :: quoteNames rest
  | none =>
    match s with
    | [] => []
    | c :: rest => c :: quoteNames rest
termination_by s.length

/-- The text up to the next apostrophe, which must not come at once, and the text after it. -/
def apostropheBody? (s : List Letter) : Option (List Letter × List Letter) :=
  match s.takeWhile (· ≠ .char '\x27'), s.dropWhile (· ≠ .char '\x27') with
  | c :: body, _ :: rest => some (c :: body, rest)
  | _, _ => none

theorem length_lt_of_apostropheBody? {s body rest : List Letter}
    (h : apostropheBody? s = some (body, rest)) : rest.length < s.length := by
  unfold apostropheBody? at h
  split at h
  case h_1 found =>
    cases h
    have := (List.dropWhile_sublist (l := s) (· ≠ .char '\x27')).length_le
    rw [found, List.length_cons] at this
    omega
  case h_2 => cases h

/-- Turns pairs of apostrophes into double quotes, from left to right. -/
def requote (s : List Letter) : List Letter :=
  match s with
  | [] => []
  | c :: rest =>
    if c = '\x27' then
      match h : apostropheBody? rest with
      | some (body, after) =>
        have := length_lt_of_apostropheBody? h
        .char '\x22' :: body ++ .char '\x22' :: requote after
      | none => c :: requote rest
    else c :: requote rest
termination_by s.length

/-- The repaired text. -/
def repair (s : List Letter) : List Letter :=
  requote (quoteNames s)

end QueryDesk.Command.Repair
