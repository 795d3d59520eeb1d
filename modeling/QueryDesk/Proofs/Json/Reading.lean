import QueryDesk.Proofs.Json.Layout
import QueryDesk.Proofs.Json.Scalar

/-!
# What the reader makes of a text

The grammar is complete: a text that spells a value is read as that value (`readUnmarked_eq_ok_iff`,
with `spells_of_readUnmarked` for the other direction). The proof is one induction over the layout
(`Laid.isRead`), for every spelling whose parts the reader either reads or refuses. Where it may
refuse parts it may refuse the whole, but it never reads anything else. So a spelling that strict
JSON does not know cannot be mistaken for one that it does.
-/

namespace QueryDesk.Json

variable {policy : NonFinite}

/-! ## A scalar before other text -/

/-- A text that does not go on with a character of a scalar. -/
def EndsScalar (s : List Letter) : Prop :=
  ∀ c ∈ s.head?, isScalarChar c = false

theorem EndsValue.endsScalar {s : List Letter} (ends : EndsValue s) : EndsScalar s := by
  intro c first
  have follows := ends c first
  simp only [isFollower, isSpace, Bool.or_eq_true, decide_eq_true_eq, List.contains_iff_mem,
    List.mem_cons, List.not_mem_nil, or_false] at follows
  rcases follows with (((rfl | rfl) | rfl) | rfl) | rfl | rfl | rfl <;> decide

theorem EndsScalar.ne {s : List Letter} (ends : EndsScalar s) {d : Letter}
    (scalar : isScalarChar d = true) : ∀ c ∈ s.head?, c ≠ d := by
  rintro c first rfl
  rw [ends c first] at scalar
  cases scalar

theorem EndsScalar.endsDigits {s : List Letter} (ends : EndsScalar s) : EndsDigits s := by
  intro c first
  refine Bool.eq_false_iff.mpr fun digit => ?_
  have scalar := isScalarChar_of_isDigit digit
  rw [ends c first] at scalar
  cases scalar

/-- A run of digits goes as far before another text as on its own. -/
theorem takeWhile_digits_append {t : List Letter} (ends : EndsDigits t) (s : List Letter) :
    (s ++ t).takeWhile Letter.isDigit = s.takeWhile Letter.isDigit := by
  induction s with
  | nil =>
    cases t with
    | nil => rfl
    | cons c t => exact List.takeWhile_cons_of_neg (by simp [ends c rfl])
  | cons c s ih =>
    rw [List.cons_append, List.takeWhile_cons, List.takeWhile_cons, ih]

theorem dropWhile_digits_append {t : List Letter} (ends : EndsDigits t) (s : List Letter) :
    (s ++ t).dropWhile Letter.isDigit = s.dropWhile Letter.isDigit ++ t := by
  induction s with
  | nil =>
    cases t with
    | nil => rfl
    | cons c t => exact List.dropWhile_cons_of_neg (by simp [ends c rfl])
  | cons c s ih =>
    rw [List.cons_append, List.dropWhile_cons, List.dropWhile_cons, ih]
    split <;> rfl

section Extend

variable {t : List Letter} (ends : EndsScalar t)
include ends

theorem wholePart?_extend {s rest digits : List Letter}
    (found : wholePart? s = some (digits, rest)) :
    wholePart? (s ++ t) = some (digits, rest ++ t) := by
  cases s with
  | nil => cases found
  | cons c tail =>
    rw [wholePart?] at found
    rw [List.cons_append, wholePart?, takeWhile_digits_append ends.endsDigits,
      dropWhile_digits_append ends.endsDigits]
    split at found
    case isTrue zero =>
      cases found
      rw [if_pos zero]
    case isFalse zero =>
      rw [if_neg zero]
      split at found
      case isTrue digit =>
        cases found
        rw [if_pos digit]
      case isFalse => cases found

theorem fractionPart_extend (s : List Letter) :
    fractionPart (s ++ t) = ((fractionPart s).1, (fractionPart s).2 ++ t) := by
  cases s with
  | nil =>
    cases t with
    | nil => rfl
    | cons c t =>
      have noPoint : c ≠ '.' := ends.ne rfl c rfl
      simp [fractionPart, noPoint]
  | cons c tail =>
    rw [List.cons_append, fractionPart, fractionPart, takeWhile_digits_append ends.endsDigits,
      dropWhile_digits_append ends.endsDigits]
    split <;> rfl

theorem sign_extend (s : List Letter) :
    Numeral.sign (s ++ t) = ((Numeral.sign s).1, (Numeral.sign s).2 ++ t) := by
  cases s with
  | nil =>
    cases t with
    | nil => rfl
    | cons c t =>
      have noMinus : c ≠ '-' := ends.ne rfl c rfl
      have noPlus : c ≠ '+' := ends.ne rfl c rfl
      simp [Numeral.sign, noMinus, noPlus]
  | cons c tail =>
    by_cases isMinus : c = '-'
    · rw [isMinus]
      rfl
    by_cases isPlus : c = '+'
    · rw [isPlus]
      rfl
    · simp [Numeral.sign, isMinus, isPlus]

theorem exponentPart_extend (s : List Letter) :
    exponentPart (s ++ t) = ((exponentPart s).1, (exponentPart s).2 ++ t) := by
  cases s with
  | nil =>
    cases t with
    | nil => rfl
    | cons c t =>
      have lower : c ≠ 'e' := ends.ne rfl c rfl
      have upper : c ≠ 'E' := ends.ne rfl c rfl
      simp [exponentPart, lower, upper]
  | cons c tail =>
    rw [List.cons_append, exponentPart, exponentPart, sign_extend ends]
    simp only [takeWhile_digits_append ends.endsDigits, dropWhile_digits_append ends.endsDigits]
    split <;> rfl

theorem minus_extend (s : List Letter) : minus (s ++ t) = ((minus s).1, (minus s).2 ++ t) := by
  cases s with
  | nil =>
    cases t with
    | nil => rfl
    | cons c t =>
      have noMinus : c ≠ '-' := ends.ne rfl c rfl
      simp [minus, noMinus]
  | cons c tail =>
    by_cases isMinus : c = '-'
    · rw [isMinus]
      rfl
    · simp [minus, isMinus]

/-- A number is the same before a text that does not go on with it. -/
theorem number?_extend {s rest : List Letter} {n : NumberText}
    (found : number? s = some (n, rest)) :
    number? (s ++ t) = some (n, rest ++ t) := by
  rw [number?] at found
  split at found
  case h_1 => cases found
  case h_2 whole afterWhole foundWhole =>
    have number : n = ⟨(minus s).1, whole, (fractionPart afterWhole).1,
        (exponentPart (fractionPart afterWhole).2).1⟩ ∧
          (exponentPart (fractionPart afterWhole).2).2 = rest := by
      cases found
      exact ⟨rfl, rfl⟩
    obtain ⟨rfl, rfl⟩ := number
    rw [number?, minus_extend ends]
    simp only [wholePart?_extend ends foundWhole, fractionPart_extend ends,
      exponentPart_extend ends]

/-- So is a name of a table whose names are made of such characters. -/
theorem named?_extend {α : Type} {table : List (Text × α)}
    (scalar : ∀ entry ∈ table, ∀ c ∈ entry.1.toList, isScalarChar c = true) (s : List Letter) :
    named? table (s ++ t) = (named? table s).map fun found => (found.1, found.2 ++ t) := by
  -- a name that starts the longer text ends before `t` does start
  have starts : ∀ entry ∈ table,
      entry.1.toList.isPrefixOf (s ++ t) = entry.1.toList.isPrefixOf s := by
    intro entry member
    rw [Bool.eq_iff_iff, List.isPrefixOf_iff_prefix, List.isPrefixOf_iff_prefix]
    refine ⟨?_, fun short => short.trans (List.prefix_append ..)⟩
    rintro ⟨after, whole⟩
    rcases List.append_eq_append_iff.mp whole with ⟨more, split, -⟩ | ⟨more, split, later⟩
    · exact ⟨more, split.symm⟩
    · cases more with
      | nil => exact ⟨[], by rw [split, List.append_nil, List.append_nil]⟩
      | cons c more =>
        have inName := scalar entry member c (by rw [split]; simp)
        rw [ends c (by rw [later]; rfl)] at inName
        cases inName
  induction table with
  | nil => rfl
  | cons entry table ih =>
    rw [List.forall_mem_cons] at scalar starts
    simp only [named?, List.findSome?_cons, starts.1]
    by_cases found : entry.1.toList.isPrefixOf s = true
    · have enough := (List.isPrefixOf_iff_prefix.mp found).length_le
      rw [Text.length_toList] at enough
      simp [found, List.drop_append_of_le_length enough]
    · simp only [found]
      exact ih scalar.2 starts.2

/-- A scalar is the same before a text that does not go on with it. -/
theorem scalar_extend {s rest : List Letter} {v : Json} (found : scalar policy s = .ok (v, rest)) :
    scalar policy (s ++ t) = .ok (v, rest ++ t) := by
  have inNames : ∀ entry ∈ names, entry.1.toList.all isScalarChar = true := by decide
  have inNonFinite : ∀ entry ∈ nonFiniteNames, entry.1.toList.all isScalarChar = true := by decide
  rw [scalar] at found
  rw [scalar, named?_extend ends fun entry member => List.all_eq_true.mp (inNames entry member),
    named?_extend ends fun entry member => List.all_eq_true.mp (inNonFinite entry member)]
  split at found
  case h_1 name value follow named =>
    cases found
    simp [named]
  case h_2 noName =>
    simp only [noName, Option.map_none]
    split at found
    case h_1 name value follow named =>
      simp only [named, Option.map_some]
      cases policy with
      | refused => cases found
      | accepted => cases found; rfl
    case h_2 noNonFinite =>
      simp only [noNonFinite, Option.map_none]
      split at found
      case h_1 n follow number =>
        simp only [number?_extend ends number]
        cases valued : n.value with
        | error stop => rw [valued] at found; cases found
        | ok value => rw [valued] at found; cases found; rfl
      case h_2 => cases found

end Extend

/-! ## Outcomes -/

/-- The reader reads `v` and leaves `rest`, or it refuses where it may. -/
def Reads {α : Type} {s : List Letter} (mayRefuse : Prop) (outcome : Except Stop (Read s α)) (v : α)
    (rest : List Letter) : Prop :=
  match outcome with
  | .ok r => r.value = v ∧ r.rest = rest
  | .error _ => mayRefuse

variable {mayRefuse : Prop}

theorem reads_atom {s rest : List Letter} {v : Json} (found : scalar policy s = .ok (v, rest)) :
    Reads mayRefuse (atom policy s) v rest := by
  rw [atom]
  split
  case h_1 stop refused =>
    rw [found] at refused
    cases refused
  case h_2 w more read =>
    rw [found] at read
    cases read
    exact ⟨rfl, rfl⟩

/-- What starts like no other value is a scalar, if it is a value. -/
theorem value_eq_atom {c : Letter} (scalar : isScalarChar c = true ∨ c = '\x27') (s : List Letter) :
    value policy (c :: s) = atom policy (c :: s) := by
  have other : c ≠ '\x22' ∧ c ≠ '[' ∧ c ≠ '\x7b' := by
    refine ⟨?_, ?_, ?_⟩ <;> rintro rfl <;> exact absurd scalar (by decide)
  rw [value]
  · rintro rest ⟨⟩
    exact other.1 rfl
  · rintro rest ⟨⟩
    exact other.2.1 rfl
  · rintro rest ⟨⟩
    exact other.2.2 rfl

/-- A scalar that is a whole text is read where a value ends before other text. -/
theorem reads_scalar {text : List Letter} {v : Json} (whole : scalar policy text = .ok (v, []))
    {rest : List Letter} (ends : EndsValue rest) :
    Reads mayRefuse (value policy (text ++ rest)) v rest := by
  obtain ⟨nonempty, chars⟩ := isScalarChar_of_scalar whole
  obtain ⟨c, more, rfl⟩ := List.exists_cons_of_ne_nil nonempty
  rw [List.cons_append, value_eq_atom (.inl (chars c (List.mem_cons_self ..)))]
  exact reads_atom (scalar_extend ends.endsScalar whole)

/-- The value of a number, however many digits it has. -/
def NumberText.unboundedValue (n : NumberText) : Json :=
  match n.fraction, n.exponent with
  | [], none =>
    let size : Int := Numeral.ofDigits n.whole
    .int (if n.negative then -size else size)
  | fraction, exponent =>
    .double (Double.ofDecimal n.negative (Numeral.ofDigits (n.whole ++ fraction))
      (exponent.getD 0 - fraction.length))

/-- A number is read as its value, or refused for its length. -/
theorem NumberText.value_eq_or (n : NumberText) :
    n.value = .ok n.unboundedValue ∨ ∃ stop, n.value = .error stop := by
  obtain ⟨negative, whole, fraction, exponent⟩ := n
  cases fraction with
  | cons d fraction => exact .inl rfl
  | nil =>
    cases exponent with
    | some exponent => exact .inl rfl
    | none =>
      by_cases long : digitLimit < whole.length
      · exact .inr ⟨_, if_pos long⟩
      · exact .inl (if_neg long)

/-- No number starts with a name, not even the name that starts with a minus. -/
theorem named?_eq_none_of_number? {s rest : List Letter} {n : NumberText}
    (found : number? s = some (n, rest)) :
    named? names s = none ∧ named? nonFiniteNames s = none := by
  constructor
  · refine Option.eq_none_iff_forall_ne_some.mpr fun entry named => ?_
    obtain ⟨member, rfl⟩ := mem_of_named? named
    simp only [names, List.mem_cons, List.not_mem_nil, or_false] at member
    rcases member with same | same | same <;>
    · rw [same] at found
      cases found
  · refine Option.eq_none_iff_forall_ne_some.mpr fun entry named => ?_
    obtain ⟨member, rfl⟩ := mem_of_named? named
    simp only [nonFiniteNames, List.mem_cons, List.not_mem_nil, or_false] at member
    rcases member with same | same | same <;>
    · rw [same] at found
      cases found

/-- A number that is a whole text is read where a value ends before other text, or it is refused for
its length. -/
theorem reads_number {text : List Letter} {n : NumberText} (whole : number? text = some (n, []))
    (may : mayRefuse) {rest : List Letter} (ends : EndsValue rest) :
    Reads mayRefuse (value policy (text ++ rest)) n.unboundedValue rest := by
  have found := number?_extend ends.endsScalar whole
  obtain ⟨noName, noNonFinite⟩ := named?_eq_none_of_number? found
  have same : scalar policy (text ++ rest) = n.value.map fun v => (v, rest) := by
    rw [scalar, noName, noNonFinite, found]
    rfl
  obtain ⟨used, split, chars, -⟩ := exists_text_of_number? whole
  rw [List.append_nil] at split
  obtain ⟨c, more, rfl⟩ : ∃ c more, text = c :: more :=
    List.exists_cons_of_length_pos (length_lt_of_number? whole)
  rw [List.cons_append, value_eq_atom (.inl (chars c (split ▸ List.mem_cons_self ..))),
    ← List.cons_append]
  rcases n.value_eq_or with value | ⟨stop, refused⟩
  · rw [value] at same
    exact reads_atom same
  · rw [refused] at same
    rw [atom]
    split
    case h_1 => exact may
    case h_2 read =>
      rw [same] at read
      cases read

/-- No value starts with an apostrophe. -/
theorem not_scalar_apostrophe (s : List Letter) (found : Json × List Letter) :
    scalar policy (.char '\x27' :: s) ≠ .ok found := by
  intro read
  obtain ⟨text, split, chars, same⟩ := exists_text_of_scalar read
  obtain ⟨c, more, rfl⟩ := List.exists_cons_of_ne_nil (isScalarChar_of_scalar same).1
  cases split
  exact absurd (chars '\x27' (List.mem_cons_self ..)) (by decide)

theorem reads_apostrophe (may : mayRefuse) (s : List Letter) (v : Json) (rest : List Letter) :
    Reads mayRefuse (value policy (.char '\x27' :: s)) v rest := by
  rw [value_eq_atom (.inr rfl), atom]
  split
  case h_1 => exact may
  case h_2 read => exact absurd read (not_scalar_apostrophe s _)

/-! ## Strings -/

/-- The items of a string are found again up to its closing quote. -/
theorem pieces_of_stringBody {items : List Piece} {body : List Letter}
    (inside : StringBody items body) (opening : Nat) (rest : List Letter) :
    pieces opening (body ++ .char '\x22' :: rest) = .ok (items, rest) := by
  induction inside with
  | nil =>
    rw [List.nil_append, pieces.eq_def]
    exact if_pos rfl
  | @plain c items body notQuote notEscape visible _ ih =>
    have visible' : ¬ c.toNat < 0x20 := by omega
    rw [List.cons_append, pieces.eq_def]
    simp only [if_neg notQuote, if_neg notEscape, if_neg visible', ih]
  | @escape e c items body letter _ ih =>
    have notUnit : e ≠ 'u' := by
      rintro rfl
      cases letter
    have notQuote : Letter.char '\\' ≠ .char '\x22' := by decide
    rw [List.cons_append, List.cons_append, pieces.eq_def]
    simp only [if_neg notQuote, if_true, if_neg notUnit, letter, ih]
  | @unit a b c d code items body digits _ ih =>
    -- the quote, if nothing else, is the one more character that a numeric escape needs
    obtain ⟨next, after, follow⟩ :
        ∃ next after, body ++ .char '\x22' :: rest = next :: after :=
      List.exists_cons_of_ne_nil (by simp)
    have notQuote : Letter.char '\\' ≠ .char '\x22' := by decide
    rw [follow] at ih
    simp only [List.cons_append, follow]
    rw [pieces.eq_def]
    simp only [if_neg notQuote, if_true, digits, ih]

theorem reads_string {items : List Piece} {body : List Letter} (inside : StringBody items body)
    (rest : List Letter) :
    Reads mayRefuse (string (body ++ .char '\x22' :: rest)) (textOf items) rest := by
  rw [string]
  split
  case h_1 stop refused =>
    rw [pieces_of_stringBody inside] at refused
    cases refused
  case h_2 items' rest' read =>
    rw [pieces_of_stringBody inside] at read
    cases read
    exact ⟨rfl, rfl⟩

theorem reads_stringText {s : Text} {text : List Letter} (quoted : IsStringText s text)
    (rest : List Letter) : Reads mayRefuse (value policy (text ++ rest)) (.str s) rest := by
  obtain ⟨items, body, inside, rfl, rfl⟩ := quoted
  have read : Reads mayRefuse _ _ _ := reads_string inside rest
  rw [List.append_assoc, List.cons_append, List.singleton_append, value]
  cases outcome : string (body ++ .char '\x22' :: rest) with
  | error stop =>
    rw [outcome] at read
    exact read
  | ok found =>
    rw [outcome] at read
    exact ⟨congrArg Json.str read.1, read.2⟩

/-! ## Tokens -/

/-- A text that starts neither with a blank nor with a closing bracket nor with a byte order mark.
-/
def StartsToken (s : List Letter) : Prop :=
  ∃ c rest, s = c :: rest ∧ isSpace c = false ∧ c ≠ ']' ∧ c ≠ '\x7d' ∧ c ≠ '\ufeff'

theorem StartsToken.append {s : List Letter} (starts : StartsToken s) (t : List Letter) :
    StartsToken (s ++ t) := by
  obtain ⟨c, rest, rfl, token⟩ := starts
  exact ⟨c, rest ++ t, rfl, token⟩

theorem StartsToken.of_isScalarChar {s : List Letter} (nonempty : s ≠ [])
    (chars : ∀ c ∈ s, isScalarChar c = true) : StartsToken s := by
  obtain ⟨c, more, rfl⟩ := List.exists_cons_of_ne_nil nonempty
  have scalar := chars c (List.mem_cons_self ..)
  refine ⟨c, more, rfl, Bool.eq_false_iff.mpr fun space => ?_, ?_, ?_, ?_⟩
  · simp only [isSpace, Bool.or_eq_true, decide_eq_true_eq] at space
    rcases space with ((rfl | rfl) | rfl) | rfl <;> exact absurd scalar (by decide)
  all_goals
    rintro rfl
    exact absurd scalar (by decide)

theorem StartsToken.no_space {s : List Letter} (starts : StartsToken s) :
    ∀ c ∈ s.head?, isSpace c = false := by
  obtain ⟨c, rest, rfl, token, -⟩ := starts
  rintro d ⟨⟩
  exact token

theorem StartsToken.expect_bracket {s : List Letter} (starts : StartsToken s) :
    expect ']' s = none := by
  obtain ⟨c, rest, rfl, -, other, -, -⟩ := starts
  exact dif_neg other

theorem StartsToken.expect_brace {s : List Letter} (starts : StartsToken s) :
    expect '\x7d' s = none := by
  obtain ⟨c, rest, rfl, -, -, other, -⟩ := starts
  exact dif_neg other

theorem expect_cons (c : Letter) (s : List Letter) :
    ∃ short, expect c (c :: s) = some ⟨s, short⟩ :=
  ⟨by simp, dif_pos rfl⟩

/-- Blanks before a token are skipped. -/
theorem exists_token_eq {spaces s t : List Letter} (blank : IsSpaces spaces)
    (starts : ∀ c ∈ s.head?, isSpace c = false) (split : t = spaces ++ s) :
    ∃ bound, token t = ⟨s, bound⟩ := by
  subst split
  have skipped : skipSpace (spaces ++ s) = s := by
    rw [skipSpace, List.dropWhile_append_of_pos blank]
    cases s with
    | nil => rfl
    | cons c rest => rw [List.dropWhile_cons_of_neg (by simp [starts c rfl])]
  exact ⟨by simp, Subtype.ext skipped⟩

/-! ## Arrays and objects -/

theorem reads_emptyArr {spaces : List Letter} (blank : IsSpaces spaces) (rest : List Letter) :
    Reads mayRefuse (value policy (.char '[' :: (spaces ++ .char ']' :: rest))) (.arr []) rest := by
  obtain ⟨bound, first⟩ := exists_token_eq (s := .char ']' :: rest) blank (by rintro c ⟨⟩; rfl) rfl
  obtain ⟨short, closing⟩ := expect_cons ']' rest
  rw [value, first]
  simp only [closing]
  exact ⟨rfl, rfl⟩

theorem reads_emptyObj {spaces : List Letter} (blank : IsSpaces spaces) (rest : List Letter) :
    Reads mayRefuse (value policy (.char '\x7b' :: (spaces ++ .char '\x7d' :: rest)))
      (.obj []) rest := by
  obtain ⟨bound, first⟩ :=
    exists_token_eq (s := .char '\x7d' :: rest) blank (by rintro c ⟨⟩; rfl) rfl
  obtain ⟨short, closing⟩ := expect_cons '\x7d' rest
  rw [value, first]
  simp only [closing]
  exact ⟨rfl, rfl⟩

theorem reads_arr {spaces s rest : List Letter} {items : List Json} (blank : IsSpaces spaces)
    (starts : StartsToken s) (inside : Reads mayRefuse (elements policy s) items rest) :
    Reads mayRefuse (value policy (.char '[' :: (spaces ++ s))) (.arr items) rest := by
  obtain ⟨bound, first⟩ := exists_token_eq blank starts.no_space rfl
  rw [value, first]
  simp only [starts.expect_bracket]
  cases outcome : elements policy s with
  | error stop =>
    rw [outcome] at inside
    exact inside
  | ok found =>
    rw [outcome] at inside
    exact ⟨congrArg Json.arr inside.1, inside.2⟩

theorem reads_obj {spaces s rest : List Letter} {pairs : List (Text × Json)}
    (blank : IsSpaces spaces) (starts : StartsToken s)
    (inside : Reads mayRefuse (members policy s) pairs rest) :
    Reads mayRefuse (value policy (.char '\x7b' :: (spaces ++ s))) (.obj (Members.ofPairs pairs))
      rest := by
  obtain ⟨bound, first⟩ := exists_token_eq blank starts.no_space rfl
  rw [value, first]
  simp only [starts.expect_brace]
  cases outcome : members policy s with
  | error stop =>
    rw [outcome] at inside
    exact inside
  | ok found =>
    rw [outcome] at inside
    exact ⟨congrArg (Json.obj ∘ Members.ofPairs) inside.1, inside.2⟩

theorem reads_lastElement {s spaces rest : List Letter} {v : Json} (blank : IsSpaces spaces)
    (read : Reads mayRefuse (value policy s) v (spaces ++ .char ']' :: rest)) :
    Reads mayRefuse (elements policy s) [v] rest := by
  rw [elements]
  cases outcome : value policy s with
  | error stop =>
    rw [outcome] at read
    exact read
  | ok first =>
    rw [outcome] at read
    obtain ⟨rfl, left⟩ := read
    obtain ⟨bound, next⟩ :=
      exists_token_eq (s := .char ']' :: rest) blank (by rintro c ⟨⟩; rfl) left
    obtain ⟨short, closing⟩ := expect_cons ']' rest
    dsimp only
    rw [next]
    simp only [closing]
    exact ⟨rfl, rfl⟩

theorem reads_nextElement {s t spaces spaces' rest : List Letter} {v : Json} {items : List Json}
    (blank : IsSpaces spaces) (blank' : IsSpaces spaces') (starts : StartsToken t)
    (read : Reads mayRefuse (value policy s) v (spaces ++ .char ',' :: (spaces' ++ t)))
    (more : Reads mayRefuse (elements policy t) items rest) :
    Reads mayRefuse (elements policy s) (v :: items) rest := by
  rw [elements]
  cases outcome : value policy s with
  | error stop =>
    rw [outcome] at read
    exact read
  | ok first =>
    rw [outcome] at read
    obtain ⟨rfl, left⟩ := read
    obtain ⟨bound, next⟩ := exists_token_eq (s := .char ',' :: (spaces' ++ t)) blank
      (by rintro c ⟨⟩; rfl) left
    have notLast : expect ']' (.char ',' :: (spaces' ++ t)) = none := rfl
    obtain ⟨short, comma⟩ := expect_cons ',' (spaces' ++ t)
    obtain ⟨bound', start⟩ := exists_token_eq blank' starts.no_space rfl
    dsimp only
    rw [next]
    simp only [notLast, comma]
    rw [start]
    cases outcome' : elements policy t with
    | error stop =>
      rw [outcome'] at more
      exact more
    | ok found =>
      rw [outcome'] at more
      exact ⟨congrArg (first.value :: ·) more.1, more.2⟩

theorem reads_lastMember {s spaces rest : List Letter} {pair : Text × Json}
    (blank : IsSpaces spaces)
    (read : Reads mayRefuse (member policy s) pair (spaces ++ .char '\x7d' :: rest)) :
    Reads mayRefuse (members policy s) [pair] rest := by
  rw [members]
  cases outcome : member policy s with
  | error stop =>
    rw [outcome] at read
    exact read
  | ok first =>
    rw [outcome] at read
    obtain ⟨rfl, left⟩ := read
    obtain ⟨bound, next⟩ :=
      exists_token_eq (s := .char '\x7d' :: rest) blank (by rintro c ⟨⟩; rfl) left
    obtain ⟨short, closing⟩ := expect_cons '\x7d' rest
    dsimp only
    rw [next]
    simp only [closing]
    exact ⟨rfl, rfl⟩

theorem reads_nextMember {s t spaces spaces' rest : List Letter} {pair : Text × Json}
    {pairs : List (Text × Json)} (blank : IsSpaces spaces) (blank' : IsSpaces spaces')
    (starts : StartsToken t)
    (read : Reads mayRefuse (member policy s) pair (spaces ++ .char ',' :: (spaces' ++ t)))
    (more : Reads mayRefuse (members policy t) pairs rest) :
    Reads mayRefuse (members policy s) (pair :: pairs) rest := by
  rw [members]
  cases outcome : member policy s with
  | error stop =>
    rw [outcome] at read
    exact read
  | ok first =>
    rw [outcome] at read
    obtain ⟨rfl, left⟩ := read
    obtain ⟨bound, next⟩ := exists_token_eq (s := .char ',' :: (spaces' ++ t)) blank
      (by rintro c ⟨⟩; rfl) left
    have notLast : expect '\x7d' (.char ',' :: (spaces' ++ t)) = none := rfl
    obtain ⟨short, comma⟩ := expect_cons ',' (spaces' ++ t)
    obtain ⟨bound', start⟩ := exists_token_eq blank' starts.no_space rfl
    dsimp only
    rw [next]
    simp only [notLast, comma]
    rw [start]
    cases outcome' : members policy t with
    | error stop =>
      rw [outcome'] at more
      exact more
    | ok found =>
      rw [outcome'] at more
      exact ⟨congrArg (first.value :: ·) more.1, more.2⟩

theorem reads_member {key : Text} {quoted spaces spaces' s rest : List Letter} {v : Json}
    (named : IsStringText key quoted) (blank : IsSpaces spaces) (blank' : IsSpaces spaces')
    (starts : StartsToken s) (read : Reads mayRefuse (value policy s) v rest) :
    Reads mayRefuse (member policy (quoted ++ (spaces ++ .char ':' :: (spaces' ++ s)))) (key, v)
      rest := by
  obtain ⟨items, body, inside, rfl, rfl⟩ := named
  have name : Reads False _ _ _ := reads_string inside (spaces ++ .char ':' :: (spaces' ++ s))
  obtain ⟨short, quote⟩ :=
    expect_cons '\x22' (body ++ .char '\x22' :: (spaces ++ .char ':' :: (spaces' ++ s)))
  rw [List.append_assoc, List.cons_append, List.singleton_append, member, quote]
  dsimp only
  cases outcome : string (body ++ .char '\x22' :: (spaces ++ .char ':' :: (spaces' ++ s))) with
  | error stop =>
    rw [outcome] at name
    exact name.elim
  | ok found =>
    rw [outcome] at name
    obtain ⟨same, left⟩ := name
    obtain ⟨bound, next⟩ := exists_token_eq (s := .char ':' :: (spaces' ++ s)) blank
      (by rintro c ⟨⟩; rfl) left
    obtain ⟨short', colon⟩ := expect_cons ':' (spaces' ++ s)
    obtain ⟨bound', start⟩ := exists_token_eq blank' starts.no_space rfl
    dsimp only
    rw [next]
    simp only [colon]
    rw [start]
    cases outcome' : value policy s with
    | error stop =>
      rw [outcome'] at read
      exact read
    | ok found' =>
      rw [outcome'] at read
      exact ⟨Prod.ext same read.1, read.2⟩

/-- No member starts with another character than a quote. -/
theorem reads_unquoted {s : List Letter} (may : mayRefuse) (unquoted : ∀ c ∈ s.head?, c ≠ '\x22')
    (pair : Text × Json) (rest : List Letter) :
    Reads mayRefuse (member policy s) pair rest := by
  have noQuote : expect '\x22' s = none := by
    cases s with
    | nil => rfl
    | cons c s => exact dif_neg (unquoted c rfl)
  rw [member, noQuote]
  exact may

/-! ## Layouts -/

/-- The reader reads what the text of a form stands for, or refuses where it may. -/
def Form.IsRead (policy : NonFinite) (mayRefuse : Prop) (text : List Letter) : Form → Prop
  | value v => ∀ rest, EndsValue rest → Reads mayRefuse (Json.value policy (text ++ rest)) v rest
  | elements items => ∀ rest,
      Reads mayRefuse (Json.elements policy (text ++ .char ']' :: rest)) items rest
  | member key v => ∀ rest, EndsValue rest →
      Reads mayRefuse (Json.member policy (text ++ rest)) (key, v) rest
  | members pairs => ∀ rest,
      Reads mayRefuse (Json.members policy (text ++ .char '\x7d' :: rest)) pairs rest

/-- A spelling whose parts the reader reads, or refuses where it may. A name is strict JSON, or it
shows at once that it is not. -/
structure Spelling.IsReadable (σ : Spelling) (policy : NonFinite) (mayRefuse : Prop) : Prop where
  leaf : ∀ {v text}, σ.leaf v text →
    StartsToken text ∧ (Form.value v).IsRead policy mayRefuse text
  name : ∀ {key text}, σ.name key text →
    StartsToken text ∧
      ((strict policy).name key text ∨ mayRefuse ∧ ∀ c ∈ text.head?, c ≠ '\x22')

theorem Laid.startsToken {σ : Spelling} {form : Form} {text : List Letter}
    (readable : σ.IsReadable policy mayRefuse) (laid : Laid σ form text) : StartsToken text := by
  induction laid with
  | leaf written => exact (readable.leaf written).1
  | emptyArr | arr => exact ⟨'[', _, rfl, by decide⟩
  | emptyObj | obj => exact ⟨'\x7b', _, rfl, by decide⟩
  | member named => exact (readable.name named).1.append _
  | lastElement _ _ ih | lastMember _ _ ih => exact ih.append _
  | nextElement _ _ _ _ ih | nextMember _ _ _ _ ih => exact ih.append _

/-- A text laid out in a spelling that the reader knows is read as what it lays out. -/
theorem Laid.isRead {σ : Spelling} {form : Form} {text : List Letter}
    (readable : σ.IsReadable policy mayRefuse) (laid : Laid σ form text) :
    form.IsRead policy mayRefuse text := by
  induction laid with
  | leaf written => exact (readable.leaf written).2
  | @emptyArr spaces blank =>
    intro rest _
    have whole : .char '[' :: spaces ++ [.char ']'] ++ rest =
        .char '[' :: (spaces ++ .char ']' :: rest) := by simp
    rw [whole]
    exact reads_emptyArr blank rest
  | @arr spaces text items blank inside ih =>
    intro rest _
    have whole : .char '[' :: (spaces ++ text) ++ [.char ']'] ++ rest =
        .char '[' :: (spaces ++ (text ++ .char ']' :: rest)) := by simp
    rw [whole]
    exact reads_arr blank ((inside.startsToken readable).append _) (ih rest)
  | @emptyObj spaces blank =>
    intro rest _
    have whole : .char '\x7b' :: spaces ++ [.char '\x7d'] ++ rest =
        .char '\x7b' :: (spaces ++ .char '\x7d' :: rest) := by
      simp
    rw [whole]
    exact reads_emptyObj blank rest
  | @obj spaces text pairs blank inside ih =>
    intro rest _
    have whole : .char '\x7b' :: (spaces ++ text) ++ [.char '\x7d'] ++ rest =
        .char '\x7b' :: (spaces ++ (text ++ .char '\x7d' :: rest)) := by simp
    rw [whole]
    exact reads_obj blank ((inside.startsToken readable).append _) (ih rest)
  | lastElement _ blank ih =>
    intro rest
    rw [List.append_assoc]
    exact reads_lastElement blank (ih _ (.spaces blank (.cons rfl rest)))
  | @nextElement v text spaces spaces' more items _ blank blank' later ihFirst ihRest =>
    intro rest
    have whole : text ++ (spaces ++ .char ',' :: (spaces' ++ more)) ++ .char ']' :: rest =
        text ++ (spaces ++ .char ',' :: (spaces' ++ (more ++ .char ']' :: rest))) := by simp
    rw [whole]
    exact reads_nextElement blank blank' ((later.startsToken readable).append _)
      (ihFirst _ (.spaces blank (.cons rfl _))) (ihRest rest)
  | @member key v text spaces under named blank value ih =>
    intro rest ends
    rcases (readable.name named).2 with ⟨quoted, before, isText, blank', rfl⟩ | ⟨may, unquoted⟩
    · have whole : quoted ++ before ++ .char ':' :: (spaces ++ under) ++ rest =
          quoted ++ (before ++ .char ':' :: (spaces ++ (under ++ rest))) := by simp
      rw [whole]
      exact reads_member isText blank' blank ((value.startsToken readable).append rest)
        (ih rest ends)
    · refine reads_unquoted may ?_ _ _
      obtain ⟨c, more, rfl, -⟩ := (readable.name named).1
      exact unquoted
  | lastMember _ blank ih =>
    intro rest
    rw [List.append_assoc]
    exact reads_lastMember blank (ih _ (.spaces blank (.cons rfl rest)))
  | @nextMember key v text spaces spaces' more pairs _ blank blank' later ihFirst ihRest =>
    intro rest
    have whole : text ++ (spaces ++ .char ',' :: (spaces' ++ more)) ++ .char '\x7d' :: rest =
        text ++ (spaces ++ .char ',' :: (spaces' ++ (more ++ .char '\x7d' :: rest))) := by simp
    rw [whole]
    exact reads_nextMember blank blank' ((later.startsToken readable).append _)
      (ihFirst _ (.spaces blank (.cons rfl _))) (ihRest rest)

/-! ## Whole texts -/

/-- A value between blanks is read, or refused where it may be. -/
theorem Laid.readUnmarked_cases {σ : Spelling} {v : Json} {before text after : List Letter}
    (readable : σ.IsReadable policy mayRefuse) (laid : Laid σ (.value v) text)
    (blank : IsSpaces before) (blank' : IsSpaces after) :
    readUnmarked policy (before ++ (text ++ after)) = .ok v ∨
      mayRefuse ∧ ∃ fault, readUnmarked policy (before ++ (text ++ after)) = .error fault := by
  have starts := (laid.startsToken readable).append after
  have skipped : skipSpace (before ++ (text ++ after)) = text ++ after := by
    obtain ⟨bound, token⟩ := exists_token_eq blank starts.no_space rfl
    exact congrArg Subtype.val token
  have nothing : skipSpace after = [] := by
    obtain ⟨bound, token⟩ := exists_token_eq blank' (by simp) (List.append_nil after).symm
    exact congrArg Subtype.val token
  have ends : EndsValue after := by
    rw [← List.append_nil after]
    exact .spaces blank' .nil
  have unmarked : readUnmarked policy (before ++ (text ++ after)) =
      read policy (before ++ (text ++ after)) := by
    obtain ⟨c, more, whole, -, -, -, notMark⟩ := starts
    rw [whole, readUnmarked]
    rintro rest mark
    cases before with
    | nil =>
      cases mark
      exact notMark rfl
    | cons d before =>
      cases mark
      exact absurd (blank _ (List.mem_cons_self ..)) (by decide)
  have outcome := laid.isRead readable after ends
  rw [← skipped] at outcome
  rw [unmarked, read, whole]
  cases first : value policy (skipSpace (before ++ (text ++ after))) with
  | error stop =>
    rw [first] at outcome
    exact .inr ⟨outcome, _, rfl⟩
  | ok r =>
    rw [first] at outcome
    obtain ⟨same, left⟩ := outcome
    simp only [left, nothing]
    exact .inl (congrArg Except.ok same)

/-- The reader reads all of strict JSON. -/
theorem Spelling.isReadable_strict : (strict policy).IsReadable policy mayRefuse where
  leaf := by
    rintro v text (whole | ⟨s, rfl, quoted⟩)
    · obtain ⟨nonempty, chars⟩ := isScalarChar_of_scalar whole
      exact ⟨.of_isScalarChar nonempty chars, fun rest ends => reads_scalar whole ends⟩
    · refine ⟨?_, fun rest _ => reads_stringText quoted rest⟩
      obtain ⟨items, body, -, -, rfl⟩ := quoted
      exact ⟨'\x22', _, rfl, by decide⟩
  name := by
    rintro key text ⟨quoted, spaces, isText, blank, rfl⟩
    refine ⟨?_, .inl ⟨quoted, spaces, isText, blank, rfl⟩⟩
    obtain ⟨items, body, -, -, rfl⟩ := isText
    exact ⟨'\x22', _, rfl, by decide⟩

/-- A text is read as a value exactly if it spells the value between blanks. -/
theorem readUnmarked_eq_ok_iff {s : List Letter} {v : Json} :
    readUnmarked policy s = .ok v ↔
      ∃ before text after, IsSpaces before ∧ Spells policy (.value v) text ∧ IsSpaces after ∧
        s = before ++ (text ++ after) := by
  refine ⟨spells_of_readUnmarked, ?_⟩
  rintro ⟨before, text, after, blank, spelled, blank', rfl⟩
  have readable : (Spelling.strict policy).IsReadable policy False := Spelling.isReadable_strict
  rcases (laid_of_spells spelled).readUnmarked_cases readable blank blank' with
    read | ⟨impossible, -⟩
  · exact read
  · exact impossible.elim

/-- The reader for bytes, which does not look for a byte order mark, reads the same texts: no value
starts with a mark. -/
theorem read_eq_ok_iff {s : List Letter} {v : Json} :
    read policy s = .ok v ↔
      ∃ before text after, IsSpaces before ∧ Spells policy (.value v) text ∧ IsSpaces after ∧
        s = before ++ (text ++ after) :=
  ⟨spells_of_read, fun spelled => read_of_readUnmarked (readUnmarked_eq_ok_iff.mpr spelled)⟩

/-- A text without blanks around it is read as a value exactly if it spells the value. -/
theorem IsTrimmed.readUnmarked_eq_ok_iff {text : List Letter} {v : Json}
    (trimmed : IsTrimmed text) :
    readUnmarked policy text = .ok v ↔ Spells policy (.value v) text := by
  have nothing : IsSpaces [] := List.forall_mem_nil _
  constructor
  · intro read
    obtain ⟨before, text', after, blank, spelled, blank', split⟩ := spells_of_readUnmarked read
    -- trimming leaves the whole text, and it leaves `text'`
    have outer := trimmed.trim_eq nothing nothing
    have inner := (isTrimmed_of_spells spelled).trim_eq blank blank'
    rw [List.append_nil, List.nil_append, split, inner] at outer
    rw [split, ← outer]
    exact spelled
  · intro spelled
    exact Json.readUnmarked_eq_ok_iff.mpr
      ⟨[], text, [], nothing, spelled, nothing, (List.append_nil text).symm⟩

/-- A value with nothing around it is read, or refused where it may be. -/
theorem Laid.readUnmarked_eq_or {σ : Spelling} {v : Json} {text : List Letter}
    (readable : σ.IsReadable policy mayRefuse) (laid : Laid σ (.value v) text) :
    readUnmarked policy text = .ok v ∨
      mayRefuse ∧ ∃ fault, readUnmarked policy text = .error fault := by
  have nothing : IsSpaces [] := List.forall_mem_nil _
  simpa using laid.readUnmarked_cases readable nothing nothing

end QueryDesk.Json
