import QueryDesk.Text.Basic

/-!
# Blank characters and trimming

`isBlank` is the white space of the desk's texts: the characters that Unicode calls white space
together with the four separators U+001C to U+001F. `strip` takes a class of characters off both
ends of a text and `trim` does so for blanks. The lemmas say what the parts are: nothing but
characters of the class is dropped, and what stays neither starts nor ends in the class.
-/

namespace QueryDesk.Text

/-- What Unicode calls white space, by code point. -/
def isWhite (c : Letter) : Bool :=
  let n := c.toNat
  (0x09 ≤ n && n ≤ 0x0D) || n == 0x20 || n == 0x85 || n == 0xA0 || n == 0x1680 ||
    (0x2000 ≤ n && n ≤ 0x200A) || n == 0x2028 || n == 0x2029 || n == 0x202F || n == 0x205F ||
    n == 0x3000

/-- White space and the separators U+001C to U+001F. The zero-width space U+200B and the byte order
mark U+FEFF are not blank. -/
def isBlank (c : Letter) : Bool :=
  isWhite c || (0x1C ≤ c.toNat && c.toNat ≤ 0x1F)

/-- Letters and digits lie between the digit zero and the letter z. -/
theorem toNat_of_isAlphanum {c : Letter} (h : c.isAlphanum = true) :
    0x30 ≤ c.toNat ∧ c.toNat ≤ 0x7A := by
  obtain c | n := c
  case half => cases h
  have bounds : ∀ {low high : Char}, c.val ≥ low.val → c.val ≤ high.val → 0x30 ≤ low.toNat →
      high.toNat ≤ 0x7A → 0x30 ≤ c.toNat ∧ c.toNat ≤ 0x7A := fun above below least greatest =>
    ⟨Nat.le_trans least (UInt32.le_iff_toNat_le.mp above),
      Nat.le_trans (UInt32.le_iff_toNat_le.mp below) greatest⟩
  rcases Bool.or_eq_true_iff.mp h with letter | digit
  · rcases Bool.or_eq_true_iff.mp letter with upper | lower
    · obtain ⟨above, below⟩ := of_decide_eq_true upper
      exact bounds above below (by decide) (by decide)
    · obtain ⟨above, below⟩ := Bool.and_eq_true_iff.mp lower
      exact bounds (of_decide_eq_true above) (of_decide_eq_true below) (by decide) (by decide)
  · obtain ⟨above, below⟩ := Bool.and_eq_true_iff.mp digit
    exact bounds (of_decide_eq_true above) (of_decide_eq_true below) (by decide) (by decide)

/-- Letters and digits are not blank. -/
theorem isBlank_of_isAlphanum {c : Letter} (h : c.isAlphanum = true) : isBlank c = false := by
  have range := toNat_of_isAlphanum h
  simp only [isBlank, isWhite, Bool.or_eq_false_iff, Bool.and_eq_false_iff, decide_eq_false_iff_not,
    beq_eq_false_iff_ne]
  omega

/-! ## Taking a class of characters off the ends -/

/-- The text without the characters of `p` that it ends in. -/
def dropEnd (p : Letter → Bool) (s : List Letter) : List Letter :=
  (s.reverse.dropWhile p).reverse

/-- The text without the characters of `p` at either end. -/
def strip (p : Letter → Bool) (s : List Letter) : List Letter :=
  dropEnd p (s.dropWhile p)

/-- The text without the blanks at either end. -/
def trim (s : List Letter) : List Letter :=
  strip isBlank s

/-- What `dropEnd` removes is made of characters of the class. -/
theorem exists_eq_dropEnd_append (p : Letter → Bool) (s : List Letter) :
    ∃ post, s = dropEnd p s ++ post ∧ ∀ c ∈ post, p c = true := by
  refine ⟨(s.reverse.takeWhile p).reverse, ?_, ?_⟩
  · rw [dropEnd, ← List.reverse_append, List.takeWhile_append_dropWhile, List.reverse_reverse]
  · intro c member
    exact List.all_eq_true.mp List.all_takeWhile c (List.mem_reverse.mp member)

/-- What `strip` removes at either end is made of characters of the class. -/
theorem exists_eq_append_strip_append (p : Letter → Bool) (s : List Letter) :
    ∃ pre post, s = pre ++ strip p s ++ post ∧ (∀ c ∈ pre, p c = true) ∧
      ∀ c ∈ post, p c = true := by
  obtain ⟨post, hpost, hclass⟩ := exists_eq_dropEnd_append p (s.dropWhile p)
  refine ⟨s.takeWhile p, post, ?_, ?_, hclass⟩
  · rw [strip, List.append_assoc, ← hpost, List.takeWhile_append_dropWhile]
  · exact fun c member => List.all_eq_true.mp List.all_takeWhile c member

/-! ## The same on strings -/

/-- `trim` on strings. -/
def trimmed (s : Text) : Text :=
  .ofList (trim s.toList)

/-- Nothing but blanks, or empty. -/
def isBlankText (s : Text) : Bool :=
  s.toList.all isBlank

end QueryDesk.Text
