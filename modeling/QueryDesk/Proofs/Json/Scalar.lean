import QueryDesk.Json.Literal
import QueryDesk.Text.Blank

/-!
# The text of a scalar

A name or a number is read off the start of a text in one way: the characters that were used up
spell the same scalar on their own (`exists_text_of_scalar`). They are letters, digits, signs and
points, so a scalar holds no quote, no bracket, no parenthesis, no comma and no blank.
-/

namespace QueryDesk.Json

/-- The characters of names and numbers. -/
def isScalarChar (c : Letter) : Bool :=
  c.isAlphanum || c = '+' || c = '-' || c = '.'

theorem isScalarChar_of_isDigit {c : Letter} (digit : c.isDigit = true) :
    isScalarChar c = true := by
  simp [isScalarChar, Letter.isAlphanum_of_isDigit digit]

/-- The characters of a scalar are not blank. -/
theorem isBlank_of_isScalarChar {c : Letter} (scalar : isScalarChar c = true) :
    Text.isBlank c = false := by
  simp only [isScalarChar, Bool.or_eq_true, decide_eq_true_eq] at scalar
  rcases scalar with ((alphanum | rfl) | rfl) | rfl
  · exact Text.isBlank_of_isAlphanum alphanum
  all_goals decide

/-- A text that does not go on with a digit. -/
def EndsDigits (s : List Letter) : Prop :=
  ∀ c ∈ s.head?, c.isDigit = false

/-- A run of digits ends where no digit follows. -/
theorem takeWhile_digits {run s : List Letter} (digits : ∀ c ∈ run, c.isDigit = true)
    (ends : EndsDigits s) : (run ++ s).takeWhile Letter.isDigit = run := by
  rw [List.takeWhile_append_of_pos digits]
  cases s with
  | nil => simp
  | cons c rest => rw [List.takeWhile_cons_of_neg (by simp [ends c rfl]), List.append_nil]

theorem dropWhile_digits {run s : List Letter} (digits : ∀ c ∈ run, c.isDigit = true)
    (ends : EndsDigits s) : (run ++ s).dropWhile Letter.isDigit = s := by
  rw [List.dropWhile_append_of_pos digits]
  cases s with
  | nil => rfl
  | cons c rest => rw [List.dropWhile_cons_of_neg (by simp [ends c rfl])]

theorem isDigit_of_mem_takeWhile {s : List Letter} :
    ∀ c ∈ s.takeWhile Letter.isDigit, c.isDigit = true :=
  fun c member => List.all_eq_true.mp List.all_takeWhile c member

/-! ## The parts of a number -/

/-- The digits before the point, read off a text, are read off any text in which no digit follows
them. -/
theorem wholePart?_append {s rest digits : List Letter}
    (found : wholePart? s = some (digits, rest)) :
    s = digits ++ rest ∧ digits ≠ [] ∧ (∀ c ∈ digits, c.isDigit = true) ∧
      ∀ t, EndsDigits t → wholePart? (digits ++ t) = some (digits, t) := by
  cases s with
  | nil => cases found
  | cons c tail =>
    rw [wholePart?] at found
    by_cases zero : c = '0'
    · -- a zero stands alone, whatever follows it
      subst zero
      rw [if_pos rfl] at found
      cases found
      refine ⟨rfl, List.cons_ne_nil _ _, by simp, ?_⟩
      intro t _
      rw [List.singleton_append, wholePart?, if_pos rfl]
    · rw [if_neg zero] at found
      split at found
      case isTrue digit =>
        cases found
        have run := isDigit_of_mem_takeWhile (s := tail)
        refine ⟨by rw [List.cons_append, List.takeWhile_append_dropWhile], List.cons_ne_nil _ _,
          ?_, ?_⟩
        · intro d member
          rcases List.mem_cons.mp member with rfl | member
          · exact digit
          · exact run d member
        · intro t ends
          rw [List.cons_append, wholePart?, if_neg zero, if_pos digit, takeWhile_digits run ends,
            dropWhile_digits run ends]
      case isFalse => cases found

/-- The digits after the point, read off a text, are read off their own text. -/
theorem fractionPart_append (s : List Letter) :
    ∃ text, s = text ++ (fractionPart s).2 ∧ (∀ c ∈ text, isScalarChar c = true) ∧
      (∀ t, EndsDigits t → EndsDigits (text ++ t)) ∧
      ∀ t, EndsDigits t → t.head? ≠ some (.char '.') →
        fractionPart (text ++ t) = ((fractionPart s).1, t) := by
  have absent : ∀ t : List Letter, t.head? ≠ some (.char '.') → fractionPart t = ([], t) := by
    intro t noPoint
    cases t with
    | nil => rfl
    | cons c rest =>
      have : c ≠ '.' := fun point => noPoint (by rw [point]; rfl)
      simp [fractionPart, this]
  cases s with
  | nil => exact ⟨[], rfl, by simp, by simp, fun t _ noPoint => absent t noPoint⟩
  | cons c rest =>
    rw [fractionPart]
    split
    case isTrue point =>
      simp only [Bool.and_eq_true, decide_eq_true_eq, Bool.not_eq_true'] at point
      obtain ⟨rfl, some⟩ := point
      have run := isDigit_of_mem_takeWhile (s := rest)
      refine ⟨.char '.' :: rest.takeWhile Letter.isDigit, ?_, ?_, ?_, ?_⟩
      · rw [List.cons_append, List.takeWhile_append_dropWhile]
      · intro d member
        rcases List.mem_cons.mp member with rfl | member
        · rfl
        · exact isScalarChar_of_isDigit (run d member)
      · rintro t - d ⟨⟩
        rfl
      · intro t ends _
        rw [List.cons_append, fractionPart, takeWhile_digits run ends, dropWhile_digits run ends,
          if_pos (by simp [some])]
    case isFalse =>
      exact ⟨[], rfl, by simp, by simp, fun t _ noPoint => absent t noPoint⟩

/-- A sign, read off a text, is read off any text that goes on with another character. -/
theorem sign_append (s : List Letter) :
    ∃ text, s = text ++ (Numeral.sign s).2 ∧ (∀ c ∈ text, isScalarChar c = true) ∧
      ∀ t : List Letter, (∀ c ∈ t.head?, c ≠ '-' ∧ c ≠ '+') →
        Numeral.sign (text ++ t) = ((Numeral.sign s).1, t) := by
  fun_cases Numeral.sign s with
  | case1 rest => exact ⟨[.char '-'], rfl, List.forall_mem_singleton.mpr rfl, fun t _ => rfl⟩
  | case2 rest => exact ⟨[.char '+'], rfl, List.forall_mem_singleton.mpr rfl, fun t _ => rfl⟩
  | case3 s noMinus noPlus =>
    refine ⟨[], rfl, by simp, ?_⟩
    intro t unsigned
    rw [List.nil_append]
    fun_cases Numeral.sign t with
    | case1 rest => exact absurd rfl (unsigned '-' rfl).1
    | case2 rest => exact absurd rfl (unsigned '+' rfl).2
    | case3 => rfl

/-- Whether a character and what follows it are an exponent. -/
def startsExponent (c : Letter) (rest : List Letter) : Bool :=
  (c = 'e' || c = 'E') && !((Numeral.sign rest).2.takeWhile Letter.isDigit).isEmpty

/-- The size of an exponent, by what follows its letter. -/
def exponentOf (rest : List Letter) : Int :=
  let size : Int := Numeral.ofDigits ((Numeral.sign rest).2.takeWhile Letter.isDigit)
  if (Numeral.sign rest).1 then -size else size

theorem exponentPart_of_starts {c : Letter} {rest : List Letter}
    (starts : startsExponent c rest = true) :
    exponentPart (c :: rest) =
      (some (exponentOf rest), (Numeral.sign rest).2.dropWhile Letter.isDigit) :=
  if_pos starts

theorem exponentPart_of_not_starts {c : Letter} {rest : List Letter}
    (other : ¬ startsExponent c rest = true) : exponentPart (c :: rest) = (none, c :: rest) :=
  if_neg other

/-- The exponent, read off a text, is read off its own text. -/
theorem exponentPart_append (s : List Letter) :
    ∃ text, s = text ++ (exponentPart s).2 ∧ (∀ c ∈ text, isScalarChar c = true) ∧
      EndsDigits text ∧ text.head? ≠ some (.char '.') ∧
      exponentPart text = ((exponentPart s).1, []) := by
  have absent : exponentPart [] = (none, []) := rfl
  cases s with
  | nil => exact ⟨[], rfl, by simp, by simp [EndsDigits], by simp, absent⟩
  | cons c rest =>
    by_cases starts : startsExponent c rest = true
    · rw [exponentPart_of_starts starts]
      have run := isDigit_of_mem_takeWhile (s := (Numeral.sign rest).2)
      obtain ⟨signText, signed, signChars, sameSign⟩ := sign_append rest
      have unsigned : ∀ d ∈ ((Numeral.sign rest).2.takeWhile Letter.isDigit).head?,
          d ≠ '-' ∧ d ≠ '+' := by
        intro d first
        have digit := run d (List.mem_of_mem_head? first)
        refine ⟨?_, ?_⟩ <;> rintro rfl <;> cases digit
      obtain ⟨scalar, noDigit, noPoint⟩ :
          isScalarChar c = true ∧ c.isDigit = false ∧ c ≠ '.' := by
        simp only [startsExponent, Bool.and_eq_true, Bool.or_eq_true, decide_eq_true_eq] at starts
        rcases starts.1 with rfl | rfl <;> decide
      refine ⟨c :: (signText ++ (Numeral.sign rest).2.takeWhile Letter.isDigit), ?_, ?_, ?_, ?_, ?_⟩
      · rw [List.cons_append, List.append_assoc, List.takeWhile_append_dropWhile, ← signed]
      · intro d member
        rcases List.mem_cons.mp member with rfl | member
        · exact scalar
        · rcases List.mem_append.mp member with member | member
          · exact signChars d member
          · exact isScalarChar_of_isDigit (run d member)
      · rintro d ⟨⟩
        exact noDigit
      · simpa using noPoint
      · have whole := takeWhile_digits run (s := []) (by simp [EndsDigits])
        have nothing := dropWhile_digits run (s := []) (by simp [EndsDigits])
        rw [List.append_nil] at whole nothing
        have same : startsExponent c (signText ++ (Numeral.sign rest).2.takeWhile Letter.isDigit) =
            true := by
          rw [startsExponent, sameSign _ unsigned, whole]
          exact starts
        rw [exponentPart_of_starts same, exponentOf, exponentOf, sameSign _ unsigned]
        simp only [whole, nothing]
    · rw [exponentPart_of_not_starts starts]
      exact ⟨[], rfl, by simp, by simp [EndsDigits], by simp, absent⟩

/-! ## Scalars -/

/-- A minus at the start of a text, and what follows it. -/
theorem minus_append (s : List Letter) :
    ∃ text, s = text ++ (minus s).2 ∧ (∀ c ∈ text, isScalarChar c = true) ∧
      ∀ t : List Letter, t.head? ≠ some (.char '-') → minus (text ++ t) = ((minus s).1, t) := by
  fun_cases minus s with
  | case1 rest => exact ⟨[.char '-'], rfl, List.forall_mem_singleton.mpr rfl, fun t _ => rfl⟩
  | case2 s noMinus =>
    refine ⟨[], rfl, by simp, ?_⟩
    intro t unsigned
    rw [List.nil_append]
    fun_cases minus t with
    | case1 rest => exact absurd rfl unsigned
    | case2 => rfl

/-- The characters that a number uses up spell the same number on their own. -/
theorem exists_text_of_number? {s rest : List Letter} {n : NumberText}
    (found : number? s = some (n, rest)) :
    ∃ text, s = text ++ rest ∧ (∀ c ∈ text, isScalarChar c = true) ∧
      number? text = some (n, []) := by
  rw [number?] at found
  split at found
  case h_1 => cases found
  case h_2 whole afterWhole foundWhole =>
    -- a part is found again before the next ones, as none of them starts like a longer part
    obtain ⟨signText, signed, signChars, sameSign⟩ := minus_append s
    obtain ⟨splitWhole, nonempty, digits, sameWhole⟩ := wholePart?_append foundWhole
    obtain ⟨fraction, splitFraction, fractionChars, keepsEnd, sameFraction⟩ :=
      fractionPart_append afterWhole
    obtain ⟨exponent, splitExponent, exponentChars, endsDigits, noPoint, sameExponent⟩ :=
      exponentPart_append (fractionPart afterWhole).2
    have number : n = ⟨(minus s).1, whole, (fractionPart afterWhole).1,
        (exponentPart (fractionPart afterWhole).2).1⟩ ∧
          (exponentPart (fractionPart afterWhole).2).2 = rest := by
      cases found
      exact ⟨rfl, rfl⟩
    obtain ⟨rfl, rfl⟩ := number
    refine ⟨signText ++ (whole ++ (fraction ++ exponent)), ?_, ?_, ?_⟩
    · simp only [List.append_assoc]
      rw [← splitExponent, ← splitFraction, ← splitWhole, ← signed]
    · intro c member
      simp only [List.mem_append] at member
      rcases member with member | member | member | member
      · exact signChars c member
      · exact isScalarChar_of_isDigit (digits c member)
      · exact fractionChars c member
      · exact exponentChars c member
    · have unsigned : (whole ++ (fraction ++ exponent)).head? ≠ some (.char '-') := by
        obtain ⟨d, more, rfl⟩ := List.exists_cons_of_ne_nil nonempty
        rintro ⟨⟩
        cases digits '-' (List.mem_cons_self ..)
      rw [number?, sameSign _ unsigned]
      simp only [sameWhole _ (keepsEnd exponent endsDigits), sameFraction _ endsDigits noPoint,
        sameExponent]

/-- A name found in a table starts the text. -/
theorem mem_of_named? {α : Type} {table : List (Text × α)} {s rest : List Letter}
    {entry : Text × α} (found : named? table s = some (entry, rest)) :
    entry ∈ table ∧ s = entry.1.toList ++ rest := by
  obtain ⟨e, member, start⟩ := List.exists_of_findSome?_eq_some found
  split at start
  case isTrue isPrefix =>
    cases start
    obtain ⟨follow, whole⟩ := List.isPrefixOf_iff_prefix.mp isPrefix
    refine ⟨member, ?_⟩
    rw [← whole, ← Text.length_toList, List.drop_left]
  case isFalse => cases start

/-- A text that starts with none of the names has no start that does. -/
theorem named?_eq_none_of_append {α : Type} {table : List (Text × α)} {s rest : List Letter}
    (absent : named? table (s ++ rest) = none) : named? table s = none := by
  rw [named?, List.findSome?_eq_none_iff] at absent ⊢
  intro entry member
  have noPrefix := absent entry member
  split at noPrefix
  case isTrue => cases noPrefix
  case isFalse notPrefix =>
    refine if_neg fun isPrefix => notPrefix ?_
    rw [List.isPrefixOf_iff_prefix] at isPrefix ⊢
    exact isPrefix.trans (List.prefix_append ..)

/-- The characters that a scalar uses up spell the same scalar on their own. -/
theorem exists_text_of_scalar {policy : NonFinite} {s rest : List Letter} {v : Json}
    (found : scalar policy s = .ok (v, rest)) :
    ∃ text, s = text ++ rest ∧ (∀ c ∈ text, isScalarChar c = true) ∧
      scalar policy text = .ok (v, []) := by
  rw [scalar] at found
  split at found
  case h_1 name value follow named =>
    cases found
    obtain ⟨member, whole⟩ := mem_of_named? named
    refine ⟨name.toList, whole, ?_⟩
    simp only [names, List.mem_cons, Prod.mk.injEq, List.not_mem_nil, or_false] at member
    rcases member with ⟨rfl, rfl⟩ | ⟨rfl, rfl⟩ | ⟨rfl, rfl⟩ <;>
      exact ⟨List.all_eq_true.mp (by decide), rfl⟩
  case h_2 noName =>
    split at found
    case h_1 name value follow named =>
      obtain ⟨member, whole⟩ := mem_of_named? named
      cases policy with
      | refused => cases found
      | accepted =>
        cases found
        refine ⟨name.toList, whole, ?_⟩
        simp only [nonFiniteNames, List.mem_cons, Prod.mk.injEq, List.not_mem_nil, or_false]
          at member
        rcases member with ⟨rfl, rfl⟩ | ⟨rfl, rfl⟩ | ⟨rfl, rfl⟩ <;>
          exact ⟨List.all_eq_true.mp (by decide), rfl⟩
    case h_2 noNonFinite =>
      split at found
      case h_1 n follow number =>
        obtain ⟨text, whole, chars, same⟩ := exists_text_of_number? number
        -- the shorter text starts with a name only if the longer one does
        rw [whole] at noName noNonFinite
        cases valued : n.value with
        | error stop =>
          rw [valued] at found
          cases found
        | ok value =>
          rw [valued] at found
          cases found
          refine ⟨text, whole, chars, ?_⟩
          rw [scalar, named?_eq_none_of_append noName, named?_eq_none_of_append noNonFinite, same]
          simp only [valued]
          rfl
      case h_2 => cases found

/-- The text of a scalar consists of scalar characters, one at least. -/
theorem isScalarChar_of_scalar {policy : NonFinite} {text : List Letter} {v : Json}
    (whole : scalar policy text = .ok (v, [])) :
    text ≠ [] ∧ ∀ c ∈ text, isScalarChar c = true := by
  obtain ⟨used, split, chars, -⟩ := exists_text_of_scalar whole
  rw [List.append_nil] at split
  refine ⟨?_, split ▸ chars⟩
  have shorter := length_lt_of_scalar whole
  intro empty
  rw [empty] at shorter
  exact absurd shorter (Nat.lt_irrefl _)

end QueryDesk.Json
