import QueryDesk.Command.Argument
import QueryDesk.Command.Quoting
import QueryDesk.Proofs.Json.Reading

/-!
# The repair of shell literals

A shell writes a value in the layout of JSON, but its names may be bare, and its names and strings
may stand between apostrophes. `Spelling.shell` is that way of writing, for strings that hold
nothing which the repair could take for a mark of its own. The repair does not know the layout, and
yet it changes exactly the marks:

* the first pass changes the names and nothing else (`quoteNames_laid`);
* the second pass changes the strings and nothing else (`requote_laid`);
* what they leave is strict JSON for the same value (`readUnmarked_repair`).

So the argument decodes to the value that was written (`shell_literals_are_decoded`).
-/

namespace QueryDesk.Command

open Json Repair

/-! ## Shell literals -/

/-- How a name or a string is marked off. -/
inductive Mark
  | bare
  | single
  | double
  deriving DecidableEq, Repr

/-- A text between its marks. -/
def Mark.around : Mark → List Letter → List Letter
  | bare, s => s
  | single, s => .char '\x27' :: s ++ [.char '\x27']
  | double, s => .char '\x22' :: s ++ [.char '\x22']

/-- The characters of a string that the repair cannot take for anything else: no quote of either
kind, no backslash, no colon and no control character. -/
def isPlain (c : Letter) : Bool :=
  !isQuote c && c ≠ '\\' && c ≠ ':' && 0x20 ≤ c.toNat

/-- The texts of a name, with marks of some kinds. -/
def IsShellName (marks : List Mark) (name : Text) (text : List Letter) : Prop :=
  ∃ mark ∈ marks, name.toList ≠ [] ∧ (∀ c ∈ name.toList, isNameChar c = true) ∧
    text = mark.around name.toList

/-- The texts of a string of plain characters, with marks of some kinds. There is nothing between
apostrophes that come together, so an empty string has other marks. -/
def IsShellString (marks : List Mark) (s : Text) (text : List Letter) : Prop :=
  ∃ mark ∈ marks, (∀ c ∈ s.toList, isPlain c = true) ∧ (mark = .single → s.toList ≠ []) ∧
    text = mark.around s.toList

end QueryDesk.Command

namespace QueryDesk.Json

open Command

/-- The spelling of a shell, with marks of some kinds for the names and for the strings. -/
def Spelling.shell (names strings : List Mark) : Spelling where
  leaf v text :=
    scalar .refused text = .ok (v, []) ∨ ∃ s, v = .str s ∧ IsShellString strings s text
  name := IsShellName names

end QueryDesk.Json

namespace QueryDesk.Command

open Json Repair

/-! ## The pass over the names -/

namespace Repair

theorem exists_quote_append (s : List Letter) :
    ∃ quote, s = quote ++ dropQuote s ∧ ∀ c ∈ quote, isQuote c = true := by
  cases s with
  | nil => exact ⟨[], rfl, List.forall_mem_nil _⟩
  | cons c rest =>
    rw [dropQuote]
    split
    case isTrue quote => exact ⟨[c], rfl, List.forall_mem_singleton.mpr quote⟩
    case isFalse => exact ⟨[], rfl, List.forall_mem_nil _⟩

theorem dropQuote_cons {c : Letter} (noQuote : isQuote c = false) (s : List Letter) :
    dropQuote (c :: s) = c :: s :=
  if_neg (by rw [← isQuote, noQuote]; exact Bool.false_ne_true)

/-- Neither the characters of a name nor its quotes belong to the layout. -/
theorem isLayout_eq_false {c : Letter} (inName : isNameChar c = true ∨ isQuote c = true) :
    isLayout c = false := by
  by_contra layout
  simp only [Bool.not_eq_false, isLayout, isSpace, Bool.or_eq_true, decide_eq_true_eq,
    List.contains_iff_mem, List.mem_cons, List.not_mem_nil, or_false] at layout
  rcases layout with (((rfl | rfl) | rfl) | rfl) | rfl | rfl | rfl | rfl | rfl | rfl <;>
    exact absurd inName (by decide)

/-- A name that is found starts the text and goes up to the colon. -/
theorem exists_front_of_name? {s name rest : List Letter} (found : name? s = some (name, rest)) :
    ∃ c front, s = c :: front ++ .char ':' :: rest ∧ ∀ d ∈ c :: front, isLayout d = false := by
  rw [name?] at found
  split at found
  case h_2 => cases found
  case h_1 c more after named colon =>
    cases found
    obtain ⟨quote, opening, isQuotes⟩ := exists_quote_append s
    obtain ⟨quote', closing, isQuotes'⟩ :=
      exists_quote_append ((dropQuote s).dropWhile isNameChar)
    have inName : ∀ d ∈ (dropQuote s).takeWhile isNameChar, isNameChar d = true :=
      List.all_eq_true.mp List.all_takeWhile
    have whole : s =
        quote ++ ((dropQuote s).takeWhile isNameChar ++ quote') ++ .char ':' :: rest := by
      rw [colon] at closing
      rw [List.append_assoc, List.append_assoc, ← closing, List.takeWhile_append_dropWhile,
        ← opening]
    have nonempty : quote ++ ((dropQuote s).takeWhile isNameChar ++ quote') ≠ [] := by
      simp [named]
    obtain ⟨d, front, split⟩ := List.exists_cons_of_ne_nil nonempty
    refine ⟨d, front, by rw [← split]; exact whole, ?_⟩
    rw [← split]
    intro e member
    simp only [List.mem_append] at member
    rcases member with member | member | member
    · exact isLayout_eq_false (.inr (isQuotes e member))
    · exact isLayout_eq_false (.inl (inName e member))
    · exact isLayout_eq_false (.inr (isQuotes' e member))

theorem quoteNames_nil : quoteNames [] = [] := by
  rw [quoteNames]
  rfl

theorem quoteNames_of_name? {s name rest : List Letter} (found : name? s = some (name, rest)) :
    quoteNames s = Mark.double.around name ++ .char ':' :: quoteNames rest := by
  rw [quoteNames]
  split
  case h_1 found' =>
    rw [found] at found'
    cases found'
    simp [Mark.around]
  case h_2 absent =>
    rw [found] at absent
    cases absent

theorem quoteNames_cons {c : Letter} {s : List Letter} (absent : name? (c :: s) = none) :
    quoteNames (c :: s) = c :: quoteNames s := by
  rw [quoteNames]
  split
  case h_1 found =>
    rw [absent] at found
    cases found
  case h_2 => rfl

/-- The layout is no part of a name. -/
theorem quoteNames_layout {c : Letter} (layout : isLayout c = true) (s : List Letter) :
    quoteNames (c :: s) = c :: quoteNames s := by
  refine quoteNames_cons (Option.eq_none_iff_forall_ne_some.mpr ?_)
  rintro ⟨name, rest⟩ found
  obtain ⟨d, front, whole, outside⟩ := exists_front_of_name? found
  cases whole
  rw [outside c (List.mem_cons_self ..)] at layout
  cases layout

theorem isLayout_of_isFollower {c : Letter} (follows : isFollower c = true) :
    isLayout c = true := by
  simp only [isFollower, Bool.or_eq_true, List.contains_iff_mem, List.mem_cons, List.not_mem_nil,
    or_false] at follows
  rcases follows with space | rfl | rfl | rfl
  · exact isLayout_of_isSpace space
  all_goals rfl

/-- A value without a colon is no part of a name, as none can go on beyond its end. -/
theorem quoteNames_append {t s : List Letter} (noColon : .char ':' ∉ t) (ends : EndsValue s) :
    quoteNames (t ++ s) = t ++ quoteNames s := by
  induction t with
  | nil => rfl
  | cons c t ih =>
    rw [List.mem_cons, not_or] at noColon
    rw [List.cons_append, List.cons_append, ← ih noColon.2]
    refine quoteNames_cons (Option.eq_none_iff_forall_ne_some.mpr ?_)
    rintro ⟨name, rest⟩ found
    obtain ⟨d, front, whole, outside⟩ := exists_front_of_name? found
    -- the colon stands in `t`, or the name goes on into `s`
    rw [← List.cons_append] at whole
    rcases List.append_eq_append_iff.mp whole with ⟨more, split, later⟩ | ⟨more, split, later⟩
    · cases more with
      | nil =>
        have colon := ends ':' (by rw [later]; rfl)
        cases colon
      | cons e more =>
        have follows := ends e (by rw [later]; rfl)
        have inside := outside e (by rw [split]; simp)
        rw [isLayout_of_isFollower follows] at inside
        cases inside
    · cases more with
      | nil =>
        have colon := ends ':' (by rw [← List.nil_append s, ← later]; rfl)
        cases colon
      | cons e more =>
        cases later
        have member : .char ':' ∈ c :: t := by rw [split]; simp
        exact (List.mem_cons.mp member).elim noColon.1 noColon.2

/-- A name before a colon is found, whatever its marks. -/
theorem name?_around {name : List Letter} (mark : Mark) (nonempty : name ≠ [])
    (inName : ∀ c ∈ name, isNameChar c = true) (s : List Letter) :
    name? (mark.around name ++ .char ':' :: s) = some (name, s) := by
  have scanned : ∀ rest : List Letter, (∀ c ∈ rest.head?, isNameChar c = false) →
      (name ++ rest).takeWhile isNameChar = name ∧ (name ++ rest).dropWhile isNameChar = rest := by
    intro rest other
    rw [List.takeWhile_append_of_pos inName, List.dropWhile_append_of_pos inName]
    cases rest with
    | nil => simp
    | cons c rest => simp [other c rfl]
  obtain ⟨c, more, split⟩ := List.exists_cons_of_ne_nil nonempty
  have noQuote : isQuote c = false := by
    have first := inName c (by rw [split]; exact List.mem_cons_self ..)
    refine Bool.eq_false_iff.mpr fun quote => ?_
    simp only [isQuote, Bool.or_eq_true, decide_eq_true_eq] at quote
    rcases quote with rfl | rfl <;> exact absurd first (by decide)
  cases mark with
  | bare =>
    obtain ⟨taken, left⟩ := scanned (.char ':' :: s) (by rintro d ⟨⟩; rfl)
    have start : dropQuote (name ++ .char ':' :: s) = name ++ .char ':' :: s := by
      rw [split]
      exact dropQuote_cons noQuote _
    rw [name?, Mark.around, start, taken, left, split]
    rfl
  | single =>
    obtain ⟨taken, left⟩ := scanned (.char '\x27' :: .char ':' :: s) (by rintro d ⟨⟩; rfl)
    have start : dropQuote (.char '\x27' :: name ++ [.char '\x27'] ++ .char ':' :: s) =
        name ++ .char '\x27' :: .char ':' :: s := by
      simp [dropQuote]
    rw [name?, Mark.around, start, taken, left, split]
    rfl
  | double =>
    obtain ⟨taken, left⟩ := scanned (.char '\x22' :: .char ':' :: s) (by rintro d ⟨⟩; rfl)
    have start : dropQuote (.char '\x22' :: name ++ [.char '\x22'] ++ .char ':' :: s) =
        name ++ .char '\x22' :: .char ':' :: s := by
      simp [dropQuote]
    rw [name?, Mark.around, start, taken, left, split]
    rfl

end Repair

/-- The first pass puts double quotes around the names and changes nothing else, if no value holds a
colon. -/
theorem quoteNames_laid {leaf : Json → List Letter → Prop} {marks : List Mark} {form : Form}
    {text : List Letter} (noColon : ∀ v text, leaf v text → .char ':' ∉ text)
    (laid : Laid ⟨leaf, IsShellName marks⟩ form text) :
    Laid ⟨leaf, IsShellName [.double]⟩ form (quoteNames text) := by
  refine laid.rewritten quoteNames_nil (fun c s layout => quoteNames_layout layout s) ?_ ?_
  · intro v text written
    exact ⟨text, written, fun s ends => quoteNames_append (noColon v text written) ends⟩
  · rintro name text ⟨mark, -, nonempty, inName, rfl⟩
    refine ⟨_, ⟨.double, List.mem_singleton_self _, nonempty, inName, rfl⟩, fun s => ?_⟩
    exact quoteNames_of_name? (name?_around mark nonempty inName s)

/-! ## The pass over the strings -/

namespace Repair

theorem requote_nil : requote [] = [] := by
  rw [requote]

theorem requote_cons {c : Letter} (other : c ≠ '\x27') (s : List Letter) :
    requote (c :: s) = c :: requote s := by
  rw [requote, if_neg other]

theorem requote_append {t : List Letter} (noApostrophe : .char '\x27' ∉ t) (s : List Letter) :
    requote (t ++ s) = t ++ requote s := by
  induction t with
  | nil => rfl
  | cons c t ih =>
    rw [List.mem_cons, not_or] at noApostrophe
    rw [List.cons_append, requote_cons (Ne.symm noApostrophe.1), ih noApostrophe.2,
      List.cons_append]

theorem apostropheBody?_append {body : List Letter} (nonempty : body ≠ [])
    (noApostrophe : .char '\x27' ∉ body) (s : List Letter) :
    apostropheBody? (body ++ .char '\x27' :: s) = some (body, s) := by
  have inside : ∀ c ∈ body, decide (c ≠ '\x27') = true := by
    intro c member
    exact decide_eq_true fun same => noApostrophe (same ▸ member)
  obtain ⟨c, more, rfl⟩ := List.exists_cons_of_ne_nil nonempty
  rw [apostropheBody?, List.takeWhile_append_of_pos inside, List.dropWhile_append_of_pos inside]
  simp

/-- Two apostrophes with something between them become double quotes. -/
theorem requote_around {body : List Letter} (nonempty : body ≠ [])
    (noApostrophe : .char '\x27' ∉ body)
    (s : List Letter) :
    requote (Mark.single.around body ++ s) = Mark.double.around body ++ requote s := by
  have whole : Mark.single.around body ++ s = .char '\x27' :: (body ++ .char '\x27' :: s) := by
    simp [Mark.around]
  rw [whole, requote, if_pos rfl]
  split
  case h_1 found =>
    rw [apostropheBody?_append nonempty noApostrophe] at found
    cases found
    simp [Mark.around]
  case h_2 absent =>
    rw [apostropheBody?_append nonempty noApostrophe] at absent
    cases absent

end Repair

theorem isPlain_iff {c : Letter} :
    isPlain c = true ↔ isQuote c = false ∧ c ≠ '\\' ∧ c ≠ ':' ∧ 0x20 ≤ c.toNat := by
  simp [isPlain, and_assoc]

/-- What is not of a class is no member of a text of that class. -/
theorem not_mem_of_forall {p : Letter → Bool} {s : List Letter} {c : Letter}
    (all : ∀ d ∈ s, p d = true) (other : p c = false) : c ∉ s := by
  intro member
  rw [all c member] at other
  cases other

/-- The second pass puts double quotes around the strings and changes nothing else. -/
theorem requote_laid {form : Form} {text : List Letter}
    (laid : Laid (.shell [.double] [.single, .double]) form text) :
    Laid (.shell [.double] [.double]) form (requote text) := by
  refine laid.rewritten requote_nil (fun c s layout => requote_cons ?_ s) ?_ ?_
  · rintro rfl
    cases layout
  · rintro v text (whole | ⟨s, rfl, mark, among, plain, nonempty, rfl⟩)
    · have absent : .char '\x27' ∉ text := not_mem_of_forall (isScalarChar_of_scalar whole).2 rfl
      exact ⟨text, .inl whole, fun s _ => requote_append absent s⟩
    · have absent : .char '\x27' ∉ s.toList := not_mem_of_forall plain rfl
      have doubled : IsShellString [.double] s (Mark.double.around s.toList) :=
        ⟨.double, List.mem_singleton_self _, plain, by rintro ⟨⟩, rfl⟩
      refine ⟨_, .inr ⟨s, rfl, doubled⟩, fun rest _ => ?_⟩
      simp only [List.mem_cons, List.not_mem_nil, or_false] at among
      rcases among with rfl | rfl
      · exact requote_around (nonempty rfl) absent rest
      · exact requote_append (by simp [Mark.around, absent]) rest
  · rintro name text ⟨mark, among, nonempty, inName, rfl⟩
    refine ⟨_, ⟨mark, among, nonempty, inName, rfl⟩, fun s => ?_⟩
    have absent : .char '\x27' ∉ name.toList := not_mem_of_forall inName rfl
    rw [List.mem_singleton.mp among, requote_append (by simp [Mark.around, absent]),
      requote_cons (by decide)]

/-! ## What is read -/

/-- A text with a backslash before each backslash and each quote of one kind. -/
def escapeWith (quote : Letter) (s : List Letter) : List Letter :=
  s.flatMap fun c => if c = quote || c = '\\' then [.char '\\', c] else [c]

theorem escapeWith_cons_of_escaped {quote c : Letter} (escaped : c = quote ∨ c = '\\')
    (s : List Letter) : escapeWith quote (c :: s) = .char '\\' :: c :: escapeWith quote s := by
  simp [escapeWith, escaped]

theorem escapeWith_cons_of_plain {quote c : Letter} (plain : ¬ (c = quote ∨ c = '\\'))
    (s : List Letter) : escapeWith quote (c :: s) = c :: escapeWith quote s := by
  simp [escapeWith, plain]

theorem mem_of_mem_escapeWith {quote c : Letter} {s : List Letter} (other : c ≠ '\\')
    (member : c ∈ escapeWith quote s) : c ∈ s := by
  obtain ⟨d, inside, written⟩ := List.mem_flatMap.mp member
  split at written <;>
    simp only [List.mem_cons, List.not_mem_nil, or_false, other, false_or] at written
  all_goals exact written ▸ inside

theorem escapeWith_eq_self {quote : Letter} {s : List Letter}
    (plain : ∀ c ∈ s, c ≠ quote ∧ c ≠ '\\') : escapeWith quote s = s := by
  induction s with
  | nil => rfl
  | cons c s ih =>
    obtain ⟨first, plain⟩ := List.forall_mem_cons.mp plain
    rw [escapeWith_cons_of_plain (not_or.mpr first), ih plain]

theorem stringBody_escapeWith {s : List Letter} (visible : ∀ c ∈ s, 0x20 ≤ c.toNat) :
    StringBody (s.map .letter) (escapeWith '\x22' s) := by
  induction s with
  | nil => exact .nil
  | cons c s ih =>
    obtain ⟨first, visible⟩ := List.forall_mem_cons.mp visible
    have rest := ih visible
    by_cases escaped : c = '\x22' ∨ c = '\\'
    · rw [escapeWith_cons_of_escaped escaped]
      rcases escaped with rfl | rfl <;> exact .escape rfl rest
    · rw [escapeWith_cons_of_plain escaped]
      exact .plain (not_or.mp escaped).1 (not_or.mp escaped).2 first rest

theorem textOf_map_letter (s : List Letter) : textOf (s.map .letter) = .ofList s := by
  have same : pieceText (s.map .letter) = s := by
    induction s with
    | nil => rfl
    | cons c s ih => rw [List.map_cons, pieceText, ih]
  rw [textOf, same]

/-- A string without control characters, escaped, is the literal of a JSON string. -/
theorem isStringText_escapeWith {s : Text} (visible : ∀ c ∈ s.toList, 0x20 ≤ c.toNat) :
    IsStringText s (Mark.double.around (escapeWith '\x22' s.toList)) :=
  ⟨_, _, stringBody_escapeWith visible, by rw [textOf_map_letter, Text.ofList_toList], rfl⟩

theorem isStringText_of_plain {s : Text} (plain : ∀ c ∈ s.toList, isPlain c = true) :
    IsStringText s (Mark.double.around s.toList) := by
  have inJson : ∀ c ∈ s.toList, c ≠ '\x22' ∧ c ≠ '\\' := by
    intro c member
    obtain ⟨noQuote, noEscape, -, -⟩ := isPlain_iff.mp (plain c member)
    refine ⟨?_, noEscape⟩
    rintro rfl
    cases noQuote
  have quoted := isStringText_escapeWith fun c member => (isPlain_iff.mp (plain c member)).2.2.2
  rwa [escapeWith_eq_self inJson] at quoted

theorem isPlain_of_isNameChar {c : Letter} (inName : isNameChar c = true) : isPlain c = true := by
  have visible : 0x20 ≤ c.toNat := by
    simp only [isNameChar, Bool.or_eq_true, decide_eq_true_eq] at inName
    rcases inName with (alphanum | rfl) | rfl
    · exact Nat.le_trans (by decide) (Text.toNat_of_isAlphanum alphanum).1
    all_goals decide
  refine isPlain_iff.mpr ⟨Bool.eq_false_iff.mpr fun quote => ?_, ?_, ?_, visible⟩
  · simp only [isQuote, Bool.or_eq_true, decide_eq_true_eq] at quote
    rcases quote with rfl | rfl <;> exact absurd inName (by decide)
  all_goals
    rintro rfl
    exact absurd inName (by decide)

/-- A name that does not have double quotes shows at once that it is not strict JSON. -/
theorem IsShellName.isReadable {names : List Mark} {mayRefuse : Prop} {name : Text}
    {text : List Letter} (ofNames : ∀ mark ∈ names, mark = .double ∨ mayRefuse)
    (named : IsShellName names name text) :
    StartsToken text ∧ ((Spelling.strict .refused).name name text ∨
      mayRefuse ∧ ∀ c ∈ text.head?, c ≠ '\x22') := by
  obtain ⟨mark, among, nonempty, inName, rfl⟩ := named
  cases mark with
  | double =>
    have quoted := isStringText_of_plain fun c member => isPlain_of_isNameChar (inName c member)
    exact ⟨⟨'\x22', _, rfl, by decide⟩, .inl (quoted.isName .refused)⟩
  | single =>
    have may := (ofNames _ among).resolve_left (by decide)
    refine ⟨⟨'\x27', _, rfl, by decide⟩, .inr ⟨may, ?_⟩⟩
    rintro d ⟨⟩
    decide
  | bare =>
    have may := (ofNames _ among).resolve_left (by decide)
    obtain ⟨c, more, split⟩ := List.exists_cons_of_ne_nil nonempty
    have first := inName c (by rw [split]; exact List.mem_cons_self ..)
    have starts : StartsToken (c :: more) := by
      have outside := isLayout_eq_false (.inl first)
      simp only [isLayout, Bool.or_eq_false_iff, List.contains_eq_mem, decide_eq_false_iff_not,
        List.mem_cons, not_or] at outside
      refine ⟨c, more, rfl, outside.1, outside.2.2.2.2.1, outside.2.2.2.2.2.2.1, ?_⟩
      rintro rfl
      exact absurd first (by decide)
    rw [Mark.around, split]
    refine ⟨starts, .inr ⟨may, ?_⟩⟩
    rintro d ⟨⟩ rfl
    exact absurd first (by decide)

/-- The reader reads a shell literal, or refuses it for a mark that strict JSON does not know. -/
theorem isReadable_shell {names strings : List Mark} {mayRefuse : Prop}
    (ofNames : ∀ mark ∈ names, mark = .double ∨ mayRefuse)
    (ofStrings : ∀ mark ∈ strings, mark = .double ∨ mark = .single ∧ mayRefuse) :
    (Spelling.shell names strings).IsReadable .refused mayRefuse where
  leaf := by
    rintro v text (whole | ⟨s, rfl, mark, among, plain, nonempty, rfl⟩)
    · exact Spelling.isReadable_strict.leaf (.inl whole)
    · rcases ofStrings mark among with rfl | ⟨rfl, may⟩
      · exact Spelling.isReadable_strict.leaf (.inr ⟨s, rfl, isStringText_of_plain plain⟩)
      · refine ⟨⟨'\x27', _, rfl, by decide⟩, fun rest _ => ?_⟩
        exact reads_apostrophe may _ _ rest
  name named := IsShellName.isReadable ofNames named

/-! ## Whole arguments -/

/-- The text of a shell literal is all that trimming leaves. -/
theorem isTrimmed_of_shell {names strings : List Mark} {v : Json} {text : List Letter}
    (marked : Mark.bare ∉ strings)
    (laid : Laid (.shell names strings) (.value v) text) : IsTrimmed text := by
  refine laid.isTrimmed ?_
  rintro v text (whole | ⟨s, rfl, mark, among, -, -, rfl⟩)
  · exact isTrimmed_of_scalar whole
  · cases mark with
    | bare => exact absurd among marked
    | single => exact .between (by decide) (by decide) _
    | double => exact .between (by decide) (by decide) _

/-- The two passes leave strict JSON for the value that was written. -/
theorem readUnmarked_repair {v : Json} {text : List Letter} {names : List Mark}
    (laid : Laid (.shell names [.single, .double]) (.value v) text) :
    readUnmarked .refused (repair text) = .ok v := by
  have noColon : ∀ v text,
      (Spelling.shell names [.single, .double]).leaf v text → .char ':' ∉ text := by
    rintro v text (whole | ⟨s, rfl, mark, -, plain, -, rfl⟩)
    · exact not_mem_of_forall (isScalarChar_of_scalar whole).2 rfl
    · have absent : .char ':' ∉ s.toList := not_mem_of_forall plain rfl
      cases mark <;> simp [Mark.around, absent]
  have repaired := requote_laid (quoteNames_laid noColon laid)
  have readable : (Spelling.shell [.double] [.double]).IsReadable .refused False :=
    isReadable_shell (by simp) (by simp)
  exact (repaired.readUnmarked_eq_or readable).resolve_right fun refused => refused.1

/-- A shell literal, with any blanks of JSON around it, decodes to the value that was written. It is
repaired unless it is strict JSON. -/
theorem shell_literals_are_decoded {v : Json} {before text after : List Letter}
    (blank : IsSpaces before) (blank' : IsSpaces after)
    (written : Laid (.shell [.bare, .single, .double] [.single, .double]) (.value v) text) :
    ∃ repaired, Argument.decode (before ++ (text ++ after)) = .ok ⟨v, repaired⟩ ∧
      (repaired = false ↔ ∃ w, Spells .refused (.value w) text) := by
  have trimmed := isTrimmed_of_shell (by decide) written
  have nonempty : text.isEmpty = false := List.isEmpty_eq_false_iff.mpr trimmed.1
  have readable : (Spelling.shell [.bare, .single, .double] [.single, .double]).IsReadable
      .refused True := isReadable_shell (by simp) (by simp)
  rw [Argument.decode, trimmed.trim_eq blank blank']
  rcases written.readUnmarked_eq_or readable with read | ⟨-, fault, refused⟩
  · have spelled := trimmed.readUnmarked_eq_ok_iff.mp read
    exact ⟨false, by simp [nonempty, read], fun _ => ⟨v, spelled⟩, fun _ => rfl⟩
  · refine ⟨true, by simp [nonempty, refused, readUnmarked_repair written], by simp, ?_⟩
    rintro ⟨w, spelled⟩
    rw [trimmed.readUnmarked_eq_ok_iff.mpr spelled] at refused
    cases refused

/-- An object with marks of all kinds. -/
theorem mixed_marks_are_decoded :
    let σ := Spelling.shell [.bare, .single, .double] [.single, .double]
    let text := ("\x7ba: 'x', \"b\": [\"\", 1]\x7d" : Text).toList
    let v : Json := .obj [("a", .str "x"), ("b", .arr [.str "", .int 1])]
    Laid σ (.value v) text ∧
      ∃ repaired, Argument.decode ([.char ' '] ++ (text ++ [])) = .ok ⟨v, repaired⟩ ∧
        (repaired = false ↔ ∃ w, Spells .refused (.value w) text) := by
  intro σ text v
  have nothing : IsSpaces [] := List.forall_mem_nil _
  have space : IsSpaces [.char ' '] := List.forall_mem_singleton.mpr rfl
  have written : Laid σ (.value v) text := by
    have a : σ.name "a" [.char 'a'] := ⟨.bare, by decide, by decide, List.all_eq_true.mp rfl, rfl⟩
    have b : σ.name "b" ("\"b\"" : Text).toList :=
      ⟨.double, by decide, by decide, List.all_eq_true.mp rfl, rfl⟩
    have x : σ.leaf (.str "x") ("'x'" : Text).toList :=
      .inr ⟨"x", rfl, .single, by decide, List.all_eq_true.mp rfl, by decide, rfl⟩
    have empty : σ.leaf (.str "") ("\"\"" : Text).toList :=
      .inr ⟨"", rfl, .double, by decide, List.all_eq_true.mp rfl, by decide, rfl⟩
    have one : σ.leaf (.int 1) [.char '1'] := .inl rfl
    have items := (Laid.leaf empty).nextElement nothing space ((Laid.leaf one).lastElement nothing)
    have members := (Laid.member a space (.leaf x)).nextMember nothing space
      ((Laid.member b space (items.arr nothing)).lastMember nothing)
    have distinct : Members.Distinct [("a", Json.str "x"), ("b", .arr [.str "", .int 1])] := by
      simp [Members.Distinct, Members.names]
    exact members.distinct distinct nothing
  exact ⟨written, shell_literals_are_decoded space nothing written⟩

end QueryDesk.Command
