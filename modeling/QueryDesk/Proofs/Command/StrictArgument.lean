import QueryDesk.Command.Argument
import QueryDesk.Proofs.Command.Nested
import QueryDesk.Proofs.Json.Grammar

/-!
# Strict JSON as argument text

Whatever text is strict JSON is nested (`nestedText_of_readStrict`): its strings are literals of the
command text, the quotes in them being escaped, its brackets belong together, and its commas are all
inside of them. So the scans for parentheses and for commas see each argument as one piece, with
whatever its strings hold (`segments_of_readStrict`, `segments_append_comma_of_readStrict`).
-/

namespace QueryDesk.Command

open Json

/-! ## Strings -/

theorem isSome_digitValue?_of_foldlM {s : List Letter} {acc n : Nat}
    (found : s.foldlM (fun n c => (Text.Hex.digitValue? c).map (16 * n + ·)) acc = some n) :
    ∀ c ∈ s, (Text.Hex.digitValue? c).isSome := by
  induction s generalizing acc with
  | nil =>
    intro c member
    cases member
  | cons c s ih =>
    rw [List.foldlM_cons] at found
    obtain ⟨next, digit, found⟩ := Option.bind_eq_some_iff.mp found
    obtain ⟨value, digit, -⟩ := Option.map_eq_some_iff.mp digit
    rw [List.forall_mem_cons]
    exact ⟨Option.isSome_of_eq_some digit, ih found⟩

theorem ne_of_isSome_digitValue? {c : Letter} (digit : (Text.Hex.digitValue? c).isSome) :
    c ≠ '\x22' ∧ c ≠ '\\' := by
  constructor
  · rintro rfl
    exact absurd digit (by decide)
  · rintro rfl
    exact absurd digit (by decide)

/-- The inside of a JSON string is the body of a literal. -/
theorem body_of_stringBody {items : List Piece} {body : List Letter}
    (inside : StringBody items body) : Quoting.Body '\x22' body := by
  induction inside with
  | nil => exact .nil
  | plain notQuote notEscape _ _ ih => exact .plain notQuote notEscape ih
  | escape _ _ ih => exact .escape _ ih
  | @unit a b c d code items body digits _ ih =>
    have digit := isSome_digitValue?_of_foldlM digits
    simp only [List.forall_mem_cons] at digit
    obtain ⟨first, second, third, fourth, -⟩ := digit
    -- the scan takes the letter for the escaped character and the digits for plain ones
    have plain : ∀ {e : Letter} {s : List Letter}, (Text.Hex.digitValue? e).isSome →
        Quoting.Body '\x22' s → Quoting.Body '\x22' (e :: s) := fun digit rest =>
      .plain (ne_of_isSome_digitValue? digit).1 (ne_of_isSome_digitValue? digit).2 rest
    exact .escape 'u' (plain first (plain second (plain third (plain fourth ih))))

/-! ## Values -/

/-- Whether a form only occurs between brackets, with commas of its own. -/
def isInner : Form → Bool
  | .value _ => false
  | .member _ _ => false
  | .elements _ => true
  | .members _ => true

theorem nestedText_of_isSpaces {inside : Bool} {spaces : List Letter} (blank : IsSpaces spaces) :
    NestedText inside spaces :=
  .of_class (by decide) blank

theorem nestedText_of_stringBody {inside : Bool} {items : List Piece} {body s : List Letter}
    (within : StringBody items body) (rest : NestedText inside s) :
    NestedText inside (.char '\x22' :: body ++ .char '\x22' :: s) :=
  .literal rfl (body_of_stringBody within) rest

theorem nestedText_comma {s : List Letter} (rest : NestedText true s) :
    NestedText true (.char ',' :: s) :=
  .plain (by decide) (fun _ => rfl) rest

theorem nestedText_colon {inside : Bool} {s : List Letter} (rest : NestedText inside s) :
    NestedText inside (.char ':' :: s) :=
  .plain (by decide) (fun isComma => absurd isComma (by decide)) rest

/-- What spells a value or a member is nested, and so is what stands between brackets. -/
theorem nestedText_of_spells {policy : NonFinite} {form : Form} {text : List Letter}
    (spelled : Spells policy form text) : NestedText (isInner form) text := by
  induction spelled with
  | scalar whole => exact .of_class (by decide) (isScalarChar_of_scalar whole).2
  | str inside => exact nestedText_of_stringBody inside .nil
  | emptyArr blank => exact .group rfl rfl (nestedText_of_isSpaces blank) .nil
  | arr blank _ ih => exact .group rfl rfl ((nestedText_of_isSpaces blank).append ih) .nil
  | emptyObj blank => exact .group rfl rfl (nestedText_of_isSpaces blank) .nil
  | obj blank _ ih => exact .group rfl rfl ((nestedText_of_isSpaces blank).append ih) .nil
  | lastElement _ blank ih => exact ih.allow.append (nestedText_of_isSpaces blank)
  | nextElement _ blank blank' _ ihFirst ihRest =>
    have more := (nestedText_of_isSpaces blank').append ihRest
    exact ihFirst.allow.append ((nestedText_of_isSpaces blank).append (nestedText_comma more))
  | member name blank blank' _ ih =>
    have value := (nestedText_of_isSpaces blank').append ih
    exact nestedText_of_stringBody name
      ((nestedText_of_isSpaces blank).append (nestedText_colon value))
  | lastMember _ blank ih => exact ih.allow.append (nestedText_of_isSpaces blank)
  | nextMember _ blank blank' _ ihFirst ihRest =>
    have more := (nestedText_of_isSpaces blank').append ihRest
    exact ihFirst.allow.append ((nestedText_of_isSpaces blank).append (nestedText_comma more))

/-! ## Arguments -/

variable {s t : List Letter} {v w : Json}

/-- Strict JSON, with any blanks around it, is nested. -/
theorem nestedText_of_readStrict (found : Argument.readStrict s = .ok v) : NestedText false s := by
  -- blanks of the command text outside, blanks of JSON inside, and the value between them
  obtain ⟨before, text, after, blank, spelled, blank', inner⟩ := spells_of_readUnmarked found
  obtain ⟨pre, post, whole, outer, outer'⟩ := Text.exists_eq_append_strip_append Text.isBlank s
  have trimmed : NestedText false (Text.trim s) := by
    rw [inner]
    exact (nestedText_of_isSpaces blank).append
      ((nestedText_of_spells spelled).append (nestedText_of_isSpaces blank'))
  have avoids : (.char ',' :: marks).all (fun c => !Text.isBlank c) = true := by decide
  rw [whole]
  exact (NestedText.append (.of_class avoids outer) trimmed).append (.of_class avoids outer')

theorem not_blank_of_readStrict (found : Argument.readStrict s = .ok v) :
    s.all Text.isBlank = false := by
  by_contra blank
  rw [Bool.not_eq_false, List.all_eq_true] at blank
  have empty : Text.trim s = [] := by
    rw [Text.trim, Text.strip, List.dropWhile_eq_nil_iff.mpr blank]
    rfl
  rw [Argument.readStrict, empty, readUnmarked_nil] at found
  cases found

/-- Blanks around an argument make no difference. -/
theorem readStrict_trim (s : List Letter) :
    Argument.readStrict (Text.trim s) = Argument.readStrict s := by
  rw [Argument.readStrict, Text.trim_trim, Argument.readStrict]

/-- Strict JSON is its own only segment. -/
theorem segments_of_readStrict (found : Argument.readStrict s = .ok v) :
    segments s = [Text.trim s] :=
  (nestedText_of_readStrict found).segments_eq (not_blank_of_readStrict found)

/-- Two strict values with a comma between them are two segments. -/
theorem segments_append_comma_of_readStrict (found : Argument.readStrict s = .ok v)
    (found' : Argument.readStrict t = .ok w) :
    segments (s ++ .char ',' :: t) = [Text.trim s, Text.trim t] :=
  (nestedText_of_readStrict found).segments_append_comma (nestedText_of_readStrict found')

theorem balanced_of_readStrict (found : Argument.readStrict s = .ok v) : BalancedText s :=
  (nestedText_of_readStrict found).balanced

theorem balanced_append_comma_of_readStrict (found : Argument.readStrict s = .ok v)
    (found' : Argument.readStrict t = .ok w) : BalancedText (s ++ .char ',' :: t) :=
  (balanced_of_readStrict found).append (.ordinary (by decide) (balanced_of_readStrict found'))

end QueryDesk.Command
