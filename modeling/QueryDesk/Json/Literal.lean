import QueryDesk.Json.Basic
import QueryDesk.Json.Fault
import QueryDesk.Number.Numeral
import QueryDesk.Text.Hex

/-!
# Strings, numbers and names in JSON text

The parts of JSON text that hold no other value, each read at the start of a text and returned with
what follows. A fault is located by the number of characters that are left at its place. The lemmas
`length_lt_of_…` say that reading something uses up characters; the reader of whole values rests on
them.
-/

namespace QueryDesk.Json

/-- Why a reading ends early; `left` counts the characters from the place to the end. -/
inductive Stop
  | syntaxWith (fault : SyntaxFault) (left : Nat)
  | tooManyDigits (count : Nat)
  | nonFinite (name : Text)
  deriving DecidableEq, Repr

/-- Whether the names of non-finite numbers count as values. -/
inductive NonFinite
  | refused
  | accepted
  deriving DecidableEq

/-- The blanks between the tokens of JSON. -/
def isSpace (c : Letter) : Bool :=
  c = ' ' || c = '\t' || c = '\n' || c = '\r'

/-- The text from its first token on. -/
def skipSpace (s : List Letter) : List Letter :=
  s.dropWhile isSpace

theorem length_skipSpace_le (s : List Letter) : (skipSpace s).length ≤ s.length :=
  (List.dropWhile_sublist isSpace).length_le

/-! ## Strings -/

/-- One item of a string: a letter, or a UTF-16 unit from a numeric escape. -/
inductive Piece
  | letter (c : Letter)
  | unit (code : Nat)

/-- The character that a letter after a backslash stands for. -/
def escaped? : Letter → Option Letter
  | .char '\x22' => some (.char '\x22')
  | .char '\\' => some (.char '\\')
  | .char '/' => some (.char '/')
  | .char 'b' => some (.char '\x08')
  | .char 'f' => some (.char '\x0c')
  | .char 'n' => some (.char '\n')
  | .char 'r' => some (.char '\r')
  | .char 't' => some (.char '\t')
  | _ => none

/-- The number of a numeric escape, by its four digits. -/
def unitCode? (a b c d : Letter) : Option Nat :=
  Text.Hex.value? [a, b, c, d]

/-- The items of a string up to its closing quote, and what follows it. `opening` is what was left
at the opening quote. A numeric escape needs four digits and one more character after them. -/
def pieces (opening : Nat) : List Letter → Except Stop (List Piece × List Letter)
  | [] => .error (.syntaxWith .unterminatedString opening)
  | c :: rest =>
    if c = '\x22' then .ok ([], rest)
    else if c = '\\' then
      match rest with
      | [] => .error (.syntaxWith .unterminatedString opening)
      | e :: more =>
        if e = 'u' then
          match more with
          | a :: b :: c :: d :: next :: after =>
            match unitCode? a b c d with
            | some code =>
              match pieces opening (next :: after) with
              | .ok (items, follow) => .ok (.unit code :: items, follow)
              | .error stop => .error stop
            | none => .error (.syntaxWith .numericEscape rest.length)
          | _ => .error (.syntaxWith .numericEscape rest.length)
        else
          match escaped? e with
          | some plain =>
            match pieces opening more with
            | .ok (items, follow) => .ok (.letter plain :: items, follow)
            | .error stop => .error stop
          | none => .error (.syntaxWith .escape (c :: rest).length)
    else if c.toNat < 0x20 then .error (.syntaxWith .controlCharacter (c :: rest).length)
    else
      match pieces opening rest with
      | .ok (items, follow) => .ok (.letter c :: items, follow)
      | .error stop => .error stop

/-- A string that was read has used up characters. -/
theorem length_lt_of_pieces {opening : Nat} {s follow : List Letter} {items : List Piece}
    (h : pieces opening s = .ok (items, follow)) : follow.length < s.length := by
  fun_induction pieces opening s generalizing items follow <;> simp_all <;> grind

/-- Whether a UTF-16 unit is the first half of a pair. -/
def isHighSurrogate (code : Nat) : Bool :=
  0xD800 ≤ code && code ≤ 0xDBFF

def isLowSurrogate (code : Nat) : Bool :=
  0xDC00 ≤ code && code ≤ 0xDFFF

/-- The letters of a string. Two neighbouring halves of a pair make one character if both were
written as escapes; any other half stays alone. -/
def pieceText : List Piece → List Letter
  | [] => []
  | .letter c :: rest => c :: pieceText rest
  | .unit code :: .unit next :: rest =>
    if isHighSurrogate code && isLowSurrogate next then
      .ofNat (0x10000 + (code - 0xD800) * 0x400 + (next - 0xDC00)) :: pieceText rest
    else .ofNat code :: pieceText (.unit next :: rest)
  | .unit code :: rest => .ofNat code :: pieceText rest

/-! ## Numbers -/

/-- The parts of a number as it is written. -/
structure NumberText where
  negative : Bool
  /-- The digits before the point. -/
  whole : List Letter
  /-- The digits after the point. -/
  fraction : List Letter
  /-- The exponent, if there is one. -/
  exponent : Option Int

/-- The digits before the point: a single zero, or a run of digits that starts with another one. -/
def wholePart? : List Letter → Option (List Letter × List Letter)
  | [] => none
  | c :: rest =>
    if c = '0' then some ([.char '0'], rest)
    else if c.isDigit then some (c :: rest.takeWhile Letter.isDigit, rest.dropWhile Letter.isDigit)
    else none

/-- The digits after a point; without a digit there the point is left alone. -/
def fractionPart : List Letter → List Letter × List Letter
  | [] => ([], [])
  | c :: rest =>
    if c = '.' && !(rest.takeWhile Letter.isDigit).isEmpty then
      (rest.takeWhile Letter.isDigit, rest.dropWhile Letter.isDigit)
    else ([], c :: rest)

/-- The exponent after an `e`; without a digit there the `e` is left alone. -/
def exponentPart : List Letter → Option Int × List Letter
  | [] => (none, [])
  | c :: rest =>
    let (negative, digits) := Numeral.sign rest
    let run := digits.takeWhile Letter.isDigit
    if (c = 'e' || c = 'E') && !run.isEmpty then
      let size : Int := Numeral.ofDigits run
      (some (if negative then -size else size), digits.dropWhile Letter.isDigit)
    else (none, c :: rest)

/-- An optional minus at the start: whether it is there, and the rest. -/
def minus : List Letter → Bool × List Letter
  | .char '-' :: rest => (true, rest)
  | s => (false, s)

/-- The longest number at the start of a text. -/
def number? (s : List Letter) : Option (NumberText × List Letter) :=
  match wholePart? (minus s).2 with
  | none => none
  | some (whole, afterWhole) =>
    let (fraction, afterFraction) := fractionPart afterWhole
    let (exponent, after) := exponentPart afterFraction
    some (⟨(minus s).1, whole, fraction, exponent⟩, after)

/-- The value of a number: whole if it has neither a fraction nor an exponent, and the nearest
double otherwise. -/
def NumberText.value (n : NumberText) : Except Stop Json :=
  match n.fraction, n.exponent with
  | [], none =>
    if digitLimit < n.whole.length then .error (.tooManyDigits n.whole.length)
    else
      let size : Int := Numeral.ofDigits n.whole
      .ok (.int (if n.negative then -size else size))
  | fraction, exponent =>
    .ok (.double (Double.ofDecimal n.negative (Numeral.ofDigits (n.whole ++ fraction))
      (exponent.getD 0 - fraction.length)))

theorem length_lt_of_wholePart? {s rest digits : List Letter}
    (h : wholePart? s = some (digits, rest)) : rest.length < s.length := by
  cases s with
  | nil => simp [wholePart?] at h
  | cons c tail =>
    have shorter := (List.dropWhile_sublist (l := tail) Letter.isDigit).length_le
    simp only [wholePart?] at h
    split at h
    · cases h; simp
    · split at h
      · cases h; simp only [List.length_cons]; omega
      · cases h

theorem length_fractionPart_le (s : List Letter) : (fractionPart s).2.length ≤ s.length := by
  cases s with
  | nil => simp [fractionPart]
  | cons c tail =>
    have shorter := (List.dropWhile_sublist (l := tail) Letter.isDigit).length_le
    simp only [fractionPart]
    split
    · simp only [List.length_cons]; omega
    · simp

theorem length_sign_le (s : List Letter) : (Numeral.sign s).2.length ≤ s.length := by
  fun_cases Numeral.sign s <;> simp

theorem length_exponentPart_le (s : List Letter) : (exponentPart s).2.length ≤ s.length := by
  cases s with
  | nil => simp [exponentPart]
  | cons c tail =>
    have shorter :=
      (List.dropWhile_sublist (l := (Numeral.sign tail).2) Letter.isDigit).length_le
    have unsigned := length_sign_le tail
    simp only [exponentPart]
    split
    · simp only [List.length_cons]; omega
    · simp

theorem length_minus_le (s : List Letter) : (minus s).2.length ≤ s.length := by
  fun_cases minus s <;> simp

theorem length_lt_of_number? {s rest : List Letter} {n : NumberText}
    (h : number? s = some (n, rest)) : rest.length < s.length := by
  unfold number? at h
  split at h
  · cases h
  case h_2 whole afterWhole found =>
    have equal := congrArg Prod.snd (Option.some.inj h)
    replace equal : (exponentPart (fractionPart afterWhole).2).2 = rest := equal
    have start := length_minus_le s
    have first := length_lt_of_wholePart? found
    have second := length_fractionPart_le afterWhole
    have third := length_exponentPart_le (fractionPart afterWhole).2
    rw [equal] at third
    omega

/-! ## Names -/

/-- The names that count as values. -/
def names : List (Text × Json) :=
  [("null", .null), ("true", .bool true), ("false", .bool false)]

def nonFiniteNames : List (Text × Double) :=
  [("NaN", .nan), ("Infinity", .infinite false), ("-Infinity", .infinite true)]

/-- The first entry of a table whose name the text starts with, and what follows the name. -/
def named? {α : Type} (table : List (Text × α)) (s : List Letter) :
    Option ((Text × α) × List Letter) :=
  table.findSome? fun entry =>
    if entry.1.toList.isPrefixOf s then some (entry, s.drop entry.1.length) else none

/-- A value that holds no others and is no string: a name or a number. -/
def scalar (policy : NonFinite) (s : List Letter) : Except Stop (Json × List Letter) :=
  match named? names s with
  | some ((_, value), rest) => .ok (value, rest)
  | none =>
    match named? nonFiniteNames s with
    | some ((name, value), rest) =>
      match policy with
      | .accepted => .ok (.double value, rest)
      | .refused => .error (.nonFinite name)
    | none =>
      match number? s with
      | some (n, rest) => n.value.map fun value => (value, rest)
      | none => .error (.syntaxWith .value s.length)

theorem length_lt_of_named? {α : Type} {table : List (Text × α)} {s rest : List Letter}
    {entry : Text × α} (nonempty : ∀ e ∈ table, 0 < e.1.length)
    (h : named? table s = some (entry, rest)) : rest.length < s.length := by
  obtain ⟨e, member, found⟩ := List.exists_of_findSome?_eq_some h
  split at found
  case isTrue isPrefix =>
    cases found
    have enough := (List.isPrefixOf_iff_prefix.mp isPrefix).length_le
    have := nonempty _ member
    simp only [Text.length_toList] at enough
    rw [List.length_drop]
    omega
  case isFalse => cases found

theorem length_lt_of_scalar {policy : NonFinite} {s rest : List Letter} {value : Json}
    (h : scalar policy s = .ok (value, rest)) : rest.length < s.length := by
  unfold scalar at h
  split at h
  case h_1 found =>
    cases h
    exact length_lt_of_named? (by decide) found
  case h_2 =>
    split at h
    case h_1 found =>
      cases policy with
      | accepted => cases h; exact length_lt_of_named? (by decide) found
      | refused => cases h
    case h_2 =>
      split at h
      case h_1 n tail found =>
        cases whole : n.value with
        | ok v => rw [whole] at h; cases h; exact length_lt_of_number? found
        | error stop => rw [whole] at h; cases h
      case h_2 => cases h

end QueryDesk.Json
