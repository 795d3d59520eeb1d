import QueryDesk.Text.Blank
import Mathlib.Data.List.DropRight

/-!
# What trimming leaves

`Bare p s` says that a text neither starts nor ends in a class of characters. Taking the class off
the ends makes a text bare (`bare_strip`) and leaves a bare text alone (`strip_eq_self`), so doing
it twice is doing it once (`strip_strip`). Around a bare text the two ends do not depend on each
other (`strip_append_append`).
-/

namespace QueryDesk.Text

variable {p : Letter → Bool} {s t u : List Letter}

/-- A text that neither starts nor ends in a class of characters. -/
structure Bare (p : Letter → Bool) (s : List Letter) : Prop where
  first : ∀ c ∈ s.head?, p c = false
  last : ∀ c ∈ s.getLast?, p c = false

/-- Nothing is dropped at the end of a text whose last character is outside the class. -/
theorem dropEnd_eq_self (last : ∀ c ∈ s.getLast?, p c = false) : dropEnd p s = s := by
  refine List.rdropWhile_eq_self_iff.mpr fun nonempty => ?_
  rw [last _ (List.getLast?_eq_some_getLast nonempty)]
  simp

/-- Characters of the class are dropped behind a text whose last character is outside it. -/
theorem dropEnd_append (last : ∀ c ∈ s.getLast?, p c = false) (after : ∀ c ∈ t, p c = true) :
    dropEnd p (s ++ t) = s := by
  rw [dropEnd, List.reverse_append,
    List.dropWhile_append_of_pos fun c member => after c (List.mem_reverse.mp member)]
  exact dropEnd_eq_self last

/-- Nothing is dropped at the start of a text whose first character is outside the class. -/
theorem dropWhile_eq_self (first : ∀ c ∈ s.head?, p c = false) : s.dropWhile p = s := by
  cases s with
  | nil => rfl
  | cons c rest => rw [List.dropWhile_cons_of_neg (by simp [first c rfl])]

theorem strip_eq_self (bare : Bare p s) : strip p s = s := by
  rw [strip, dropWhile_eq_self bare.first, dropEnd_eq_self bare.last]

theorem trim_eq_self (bare : Bare isBlank s) : trim s = s :=
  strip_eq_self bare

/-- A text without any character of the class is bare. -/
theorem Bare.of_forall (outside : ∀ c ∈ s, p c = false) : Bare p s where
  first := fun c found => outside c (List.mem_of_mem_head? found)
  last := fun c found => outside c (List.mem_of_getLast? found)

/-- So is every text between two characters outside the class. -/
theorem Bare.between {c d : Letter} (first : p c = false) (last : p d = false) (s : List Letter) :
    Bare p (c :: s ++ [d]) where
  first := by
    rintro _ ⟨⟩
    exact first
  last := by
    intro e found
    rw [List.getLast?_concat] at found
    cases found
    exact last

/-- The end of a bare text is bare if it starts outside the class. -/
theorem Bare.of_suffix (bare : Bare p t) (ends : s <:+ t) (first : ∀ c ∈ s.head?, p c = false) :
    Bare p s where
  first := first
  last := by
    intro c found
    obtain ⟨front, rfl⟩ := ends
    refine bare.last c ?_
    rw [List.getLast?_append, Option.mem_def.mp found]
    rfl

/-- So is its start if it ends outside the class. -/
theorem Bare.of_prefix (bare : Bare p t) (starts : s <+: t) (last : ∀ c ∈ s.getLast?, p c = false) :
    Bare p s where
  first := by
    intro c found
    obtain ⟨rest, rfl⟩ := starts
    refine bare.first c ?_
    rw [List.head?_append, Option.mem_def.mp found]
    rfl
  last := last

/-- The first character that stays is outside the class. -/
theorem head?_dropWhile (p : Letter → Bool) (s : List Letter) :
    ∀ c ∈ (s.dropWhile p).head?, p c = false := by
  intro c found
  have stays := List.head?_dropWhile_not p s
  rw [Option.mem_def.mp found] at stays
  exact stays

/-- What `dropEnd` leaves starts as the text did. -/
theorem head?_dropEnd (p : Letter → Bool) (s : List Letter) :
    ∀ c ∈ (dropEnd p s).head?, c ∈ s.head? := by
  intro c found
  obtain ⟨post, whole, -⟩ := exists_eq_dropEnd_append p s
  rw [whole, List.head?_append, Option.mem_def.mp found]
  rfl

/-- The last character that stays is outside the class. -/
theorem getLast?_dropEnd (p : Letter → Bool) (s : List Letter) :
    ∀ c ∈ (dropEnd p s).getLast?, p c = false := by
  rw [dropEnd, List.getLast?_reverse]
  exact head?_dropWhile p s.reverse

/-- What is left at both ends is outside the class. -/
theorem bare_strip (p : Letter → Bool) (s : List Letter) : Bare p (strip p s) where
  first := by
    intro c found
    exact head?_dropWhile p s c (head?_dropEnd p _ c found)
  last := getLast?_dropEnd p _

theorem strip_strip (p : Letter → Bool) (s : List Letter) : strip p (strip p s) = strip p s :=
  strip_eq_self (bare_strip p s)

theorem trim_trim (s : List Letter) : trim (trim s) = trim s :=
  strip_strip isBlank s

/-- A text that starts outside the class is kept before a text with a character outside it, and of
that text something stays. -/
theorem exists_strip_append (nonempty : s ≠ []) (first : ∀ c ∈ s.head?, p c = false)
    (more : ∃ c ∈ t, p c = false) : ∃ rest, rest ≠ [] ∧ strip p (s ++ t) = s ++ rest := by
  have start : ∀ c ∈ (s ++ t).head?, p c = false := by
    rw [List.head?_append_of_ne_nil _ nonempty]
    exact first
  obtain ⟨c, member, outside⟩ := more
  -- dropping at the end stops within `t`, so it never reaches `s`
  have stays : dropEnd p t ≠ [] := by
    intro empty
    have inClass := List.rdropWhile_eq_nil_iff.mp empty c member
    rw [outside] at inClass
    cases inClass
  have reversed : t.reverse.dropWhile p ≠ [] := fun empty => stays (by rw [dropEnd, empty]; rfl)
  refine ⟨dropEnd p t, stays, ?_⟩
  rw [strip, dropWhile_eq_self start, dropEnd, List.reverse_append, List.dropWhile_append,
    if_neg (by simpa using reversed), List.reverse_append, List.reverse_reverse, dropEnd]

/-! ## Around a bare text -/

theorem dropWhile_append_of_bare (nonempty : t ≠ []) (bare : Bare p t) :
    (s ++ (t ++ u)).dropWhile p = s.dropWhile p ++ (t ++ u) := by
  have stays : (t ++ u).dropWhile p = t ++ u := by
    apply dropWhile_eq_self
    rw [List.head?_append_of_ne_nil _ nonempty]
    exact bare.first
  rw [List.dropWhile_append]
  split
  case isTrue gone =>
    rw [stays, List.isEmpty_iff.mp gone]
    rfl
  case isFalse => rfl

theorem Bare.reverse (bare : Bare p t) : Bare p t.reverse where
  first := by
    rw [List.head?_reverse]
    exact bare.last
  last := by
    rw [List.getLast?_reverse]
    exact bare.first

theorem head?_around (first : ∀ c ∈ t.head?, p c = false) (before : ∀ c ∈ s, p c = false)
    (after : ∀ c ∈ u, p c = false) : ∀ c ∈ (s ++ t ++ u).head?, p c = false := by
  intro c found
  rw [List.append_assoc, List.head?_append, List.head?_append] at found
  rcases Option.or_eq_some_iff.mp found with atFront | ⟨-, found⟩
  · exact before c (List.mem_of_mem_head? atFront)
  · rcases Option.or_eq_some_iff.mp found with inside | ⟨-, behind⟩
    · exact first c inside
    · exact after c (List.mem_of_mem_head? behind)

/-- A bare text stays bare between texts without any character of the class. -/
theorem Bare.around (bare : Bare p t) (before : ∀ c ∈ s, p c = false)
    (after : ∀ c ∈ u, p c = false) : Bare p (s ++ t ++ u) where
  first := head?_around bare.first before after
  last := by
    rw [← List.head?_reverse, List.reverse_append, List.reverse_append, ← List.append_assoc]
    exact head?_around bare.reverse.first (fun c member => after c (List.mem_reverse.mp member))
      fun c member => before c (List.mem_reverse.mp member)

/-- The class is taken off on either side of a bare text, as if each side stood alone. -/
theorem strip_append_append (nonempty : t ≠ []) (bare : Bare p t) :
    strip p (s ++ t ++ u) = s.dropWhile p ++ t ++ dropEnd p u := by
  have start : (s ++ t ++ u).dropWhile p = s.dropWhile p ++ (t ++ u) := by
    rw [List.append_assoc, dropWhile_append_of_bare nonempty bare]
  have turned : (s.dropWhile p ++ (t ++ u)).reverse =
      u.reverse ++ (t.reverse ++ (s.dropWhile p).reverse) := by
    rw [List.reverse_append, List.reverse_append, List.append_assoc]
  rw [strip, start, dropEnd, turned,
    dropWhile_append_of_bare (by simpa using nonempty) bare.reverse, List.reverse_append,
    List.reverse_append, List.reverse_reverse, List.reverse_reverse, dropEnd]

/-- What is left of a bare text between texts of the class is the bare text. -/
theorem strip_between (nonempty : t ≠ []) (bare : Bare p t) (before : ∀ c ∈ s, p c = true)
    (after : ∀ c ∈ u, p c = true) : strip p (s ++ (t ++ u)) = t := by
  have start : s.dropWhile p = [] := List.dropWhile_eq_nil_iff.mpr before
  have rest : dropEnd p u = [] := List.rdropWhile_eq_nil_iff.mpr after
  rw [← List.append_assoc, strip_append_append nonempty bare, start, rest, List.append_nil,
    List.nil_append]

end QueryDesk.Text
