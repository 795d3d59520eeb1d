import QueryDesk.Json.Reader
import QueryDesk.Proofs.Json.Scalar

/-!
# The grammar of JSON text

`Spells form text` says which texts stand for a value, for the items of an array or for the members
of an object, with any blanks that JSON allows between the tokens. The reader only accepts texts of
this grammar: what `Json.value` uses up spells the value that it returns (`spells_of_value`), and a
whole text is a spelling between blanks (`spells_of_read`).
-/

namespace QueryDesk.Json

/-- Blanks between two tokens. -/
def IsSpaces (s : List Letter) : Prop :=
  ∀ c ∈ s, isSpace c = true

/-- The items of a string, as they are written between its quotes. -/
inductive StringBody : List Piece → List Letter → Prop
  | nil : StringBody [] []
  | plain {c : Letter} {items : List Piece} {body : List Letter} (notQuote : c ≠ '\x22')
      (notEscape : c ≠ '\\') (visible : 0x20 ≤ c.toNat) (rest : StringBody items body) :
      StringBody (.letter c :: items) (c :: body)
  | escape {e c : Letter} {items : List Piece} {body : List Letter} (letter : escaped? e = some c)
      (rest : StringBody items body) : StringBody (.letter c :: items) (.char '\\' :: e :: body)
  | unit {a b c d : Letter} {code : Nat} {items : List Piece} {body : List Letter}
      (digits : unitCode? a b c d = some code) (rest : StringBody items body) :
      StringBody (.unit code :: items) (.char '\\' :: .char 'u' :: a :: b :: c :: d :: body)

/-- The text of some items. -/
def textOf (items : List Piece) : Text :=
  .ofList (pieceText items)

/-- What a stretch of JSON text stands for. -/
inductive Form
  | value (v : Json)
  /-- The items of an array, one at least. -/
  | elements (items : List Json)
  | member (name : Text) (v : Json)
  /-- The members of an object as they are written, one at least. -/
  | members (pairs : List (Text × Json))

/-- The texts of each form. Blanks around a value belong to what is around it. -/
inductive Spells (policy : NonFinite) : Form → List Letter → Prop
  | scalar {v : Json} {text : List Letter} (whole : Json.scalar policy text = .ok (v, [])) :
      Spells policy (.value v) text
  | str {items : List Piece} {body : List Letter} (inside : StringBody items body) :
      Spells policy (.value (.str (textOf items))) (.char '\x22' :: body ++ [.char '\x22'])
  | emptyArr {spaces : List Letter} (blank : IsSpaces spaces) :
      Spells policy (.value (.arr [])) (.char '[' :: spaces ++ [.char ']'])
  | arr {spaces text : List Letter} {items : List Json} (blank : IsSpaces spaces)
      (inside : Spells policy (.elements items) text) :
      Spells policy (.value (.arr items)) (.char '[' :: (spaces ++ text) ++ [.char ']'])
  | emptyObj {spaces : List Letter} (blank : IsSpaces spaces) :
      Spells policy (.value (.obj [])) (.char '\x7b' :: spaces ++ [.char '\x7d'])
  | obj {spaces text : List Letter} {pairs : List (Text × Json)} (blank : IsSpaces spaces)
      (inside : Spells policy (.members pairs) text) :
      Spells policy (.value (.obj (Members.ofPairs pairs)))
        (.char '\x7b' :: (spaces ++ text) ++ [.char '\x7d'])
  | lastElement {v : Json} {text spaces : List Letter} (first : Spells policy (.value v) text)
      (blank : IsSpaces spaces) : Spells policy (.elements [v]) (text ++ spaces)
  | nextElement {v : Json} {text spaces spaces' more : List Letter} {items : List Json}
      (first : Spells policy (.value v) text) (blank : IsSpaces spaces) (blank' : IsSpaces spaces')
      (rest : Spells policy (.elements items) more) :
      Spells policy (.elements (v :: items)) (text ++ (spaces ++ .char ',' :: (spaces' ++ more)))
  | member {items : List Piece} {v : Json} {body spaces spaces' text : List Letter}
      (name : StringBody items body) (blank : IsSpaces spaces) (blank' : IsSpaces spaces')
      (under : Spells policy (.value v) text) :
      Spells policy (.member (textOf items) v)
        (.char '\x22' :: body ++ .char '\x22' :: (spaces ++ .char ':' :: (spaces' ++ text)))
  | lastMember {name : Text} {v : Json} {text spaces : List Letter}
      (first : Spells policy (.member name v) text) (blank : IsSpaces spaces) :
      Spells policy (.members [(name, v)]) (text ++ spaces)
  | nextMember {name : Text} {v : Json} {text spaces spaces' more : List Letter}
      {pairs : List (Text × Json)} (first : Spells policy (.member name v) text)
      (blank : IsSpaces spaces) (blank' : IsSpaces spaces')
      (rest : Spells policy (.members pairs) more) :
      Spells policy (.members ((name, v) :: pairs))
        (text ++ (spaces ++ .char ',' :: (spaces' ++ more)))

/-! ## Tokens -/

/-- Before its first token a text has blanks. -/
theorem exists_spaces_append (s : List Letter) :
    ∃ spaces, IsSpaces spaces ∧ s = spaces ++ skipSpace s := by
  refine ⟨s.takeWhile isSpace, ?_, ?_⟩
  · exact fun c member => List.all_eq_true.mp List.all_takeWhile c member
  · rw [skipSpace, List.takeWhile_append_dropWhile]

theorem exists_spaces_of_token {s t : List Letter} {bound : t.length ≤ s.length}
    (found : token s = ⟨t, bound⟩) : ∃ spaces, IsSpaces spaces ∧ s = spaces ++ t := by
  have first : skipSpace s = t := congrArg Subtype.val found
  rw [← first]
  exact exists_spaces_append s

theorem eq_cons_of_expect {c : Letter} {s t : List Letter} {short : t.length < s.length}
    (found : expect c s = some ⟨t, short⟩) : s = c :: t := by
  cases s with
  | nil => cases found
  | cons d tail =>
    rw [expect] at found
    split at found
    case isTrue same =>
      cases found
      rw [same]
    case isFalse => cases found

/-- A string that was read is its body and the closing quote. -/
theorem exists_body_of_pieces {opening : Nat} {s : List Letter} :
    ∀ {items follow}, pieces opening s = .ok (items, follow) →
      ∃ body, StringBody items body ∧ s = body ++ .char '\x22' :: follow := by
  fun_induction pieces opening s with
  | case2 rest =>
    rintro items follow ⟨⟩
    exact ⟨[], .nil, rfl⟩
  | case4 a b c d next after code digits items follow read _ ih =>
    rintro _ _ ⟨⟩
    obtain ⟨body, inside, whole⟩ := ih read
    refine ⟨.char '\\' :: .char 'u' :: a :: b :: c :: d :: body, .unit digits inside, ?_⟩
    rw [whole]
    rfl
  | case8 e more notUnit plain letter items follow read _ ih =>
    rintro _ _ ⟨⟩
    obtain ⟨body, inside, whole⟩ := ih read
    exact ⟨.char '\\' :: e :: body, .escape letter inside, by rw [whole]; rfl⟩
  | case12 c rest notQuote notEscape visible items follow read ih =>
    rintro _ _ ⟨⟩
    obtain ⟨body, inside, whole⟩ := ih read
    exact ⟨c :: body, .plain notQuote notEscape (by omega) inside, by rw [whole]; rfl⟩
  | _ =>
    intro items follow found
    cases found

theorem exists_body_of_string {s : List Letter} {text : Read s Text}
    (found : string s = .ok text) :
    ∃ items body, StringBody items body ∧ text.value = textOf items ∧
      s = body ++ .char '\x22' :: text.rest := by
  rw [string] at found
  split at found
  case h_1 => cases found
  case h_2 items rest read =>
    cases found
    obtain ⟨body, inside, whole⟩ := exists_body_of_pieces read
    exact ⟨items, body, inside, rfl, whole⟩

/-! ## What the reader accepts -/

variable {policy : NonFinite}

/-- A scalar that was read is spelled by what was used up. -/
theorem spells_of_atom {s : List Letter} {r : Read s Json} (found : atom policy s = .ok r) :
    ∃ text, Spells policy (.value r.value) text ∧ s = text ++ r.rest := by
  rw [atom] at found
  split at found
  case h_1 => cases found
  case h_2 v rest read =>
    cases found
    obtain ⟨text, whole, -, same⟩ := exists_text_of_scalar read
    exact ⟨text, .scalar same, whole⟩

mutual

/-- A value that was read is spelled by what was used up. -/
theorem spells_of_value (s : List Letter) : ∀ r : Read s Json, value policy s = .ok r →
    ∃ text, Spells policy (.value r.value) text ∧ s = text ++ r.rest := by
  -- a variable in place of the text, so that the measure below keeps its own
  generalize same : s = t
  fun_cases value policy t with
  | case1 rest stop read =>
    intro r found
    rw [value, read] at found
    cases found
  | case2 rest text read =>
    intro r found
    rw [value, read] at found
    cases found
    obtain ⟨items, body, inside, pieced, whole⟩ := exists_body_of_string read
    refine ⟨.char '\x22' :: body ++ [.char '\x22'], ?_, ?_⟩
    · rw [pieced]
      exact .str inside
    · show .char '\x22' :: rest = .char '\x22' :: body ++ [.char '\x22'] ++ text.rest
      rw [List.append_assoc]
      exact congrArg (.char '\x22' :: ·) whole
  | case3 rest inside bound first after short closing =>
    intro r found
    rw [value, first] at found
    simp only [closing] at found
    cases found
    obtain ⟨spaces, blank, whole⟩ := exists_spaces_of_token first
    refine ⟨.char '[' :: spaces ++ [.char ']'], .emptyArr blank, ?_⟩
    show .char '[' :: rest = .char '[' :: spaces ++ [.char ']'] ++ after
    rw [whole, eq_cons_of_expect closing, List.append_assoc]
    rfl
  | case4 rest inside bound first notEmpty stop read =>
    intro r found
    rw [value, first] at found
    simp only [notEmpty, read] at found
    cases found
  | case5 rest inside bound first notEmpty items read =>
    intro r found
    rw [value, first] at found
    simp only [notEmpty, read] at found
    cases found
    -- reading the items takes the closing bracket with it
    obtain ⟨spaces, blank, whole⟩ := exists_spaces_of_token first
    obtain ⟨text, spelled, split⟩ := spells_of_elements inside items read
    refine ⟨.char '[' :: (spaces ++ text) ++ [.char ']'], .arr blank spelled, ?_⟩
    show .char '[' :: rest = .char '[' :: (spaces ++ text) ++ [.char ']'] ++ items.rest
    simp only [List.append_assoc, List.cons_append, List.nil_append]
    rw [← split, ← whole]
  | case6 rest inside bound first after short closing =>
    intro r found
    rw [value, first] at found
    simp only [closing] at found
    cases found
    obtain ⟨spaces, blank, whole⟩ := exists_spaces_of_token first
    refine ⟨.char '\x7b' :: spaces ++ [.char '\x7d'], .emptyObj blank, ?_⟩
    show .char '\x7b' :: rest = .char '\x7b' :: spaces ++ [.char '\x7d'] ++ after
    rw [whole, eq_cons_of_expect closing, List.append_assoc]
    rfl
  | case7 rest inside bound first notEmpty stop read =>
    intro r found
    rw [value, first] at found
    simp only [notEmpty, read] at found
    cases found
  | case8 rest inside bound first notEmpty pairs read =>
    intro r found
    rw [value, first] at found
    simp only [notEmpty, read] at found
    cases found
    obtain ⟨spaces, blank, whole⟩ := exists_spaces_of_token first
    obtain ⟨text, spelled, split⟩ := spells_of_members inside pairs read
    refine ⟨.char '\x7b' :: (spaces ++ text) ++ [.char '\x7d'], .obj blank spelled, ?_⟩
    show .char '\x7b' :: rest = .char '\x7b' :: (spaces ++ text) ++ [.char '\x7d'] ++ pairs.rest
    simp only [List.append_assoc, List.cons_append, List.nil_append]
    rw [← split, ← whole]
  | case9 s noString noArray noObject =>
    -- neither a string nor an array nor an object, so the value is a scalar
    intro r found
    rw [value] at found
    · exact spells_of_atom found
    · exact noString
    · exact noArray
    · exact noObject
termination_by 2 * s.length
decreasing_by all_goals simp only [same, List.length_cons]; omega

/-- Items that were read are spelled by what was used up before the closing bracket. -/
theorem spells_of_elements (s : List Letter) : ∀ r : Read s (List Json), elements policy s = .ok r →
    ∃ text, Spells policy (.elements r.value) text ∧ s = text ++ .char ']' :: r.rest := by
  fun_cases elements policy s with
  | case2 first read follow bound next after short closing =>
    rintro _ ⟨⟩
    obtain ⟨text, spelled, whole⟩ := spells_of_value s first read
    obtain ⟨spaces, blank, split⟩ := exists_spaces_of_token next
    refine ⟨text ++ spaces, .lastElement spelled blank, ?_⟩
    rw [List.append_assoc, ← eq_cons_of_expect closing, ← split]
    exact whole
  | case5 first read follow bound next notLast more short comma inside bound' start items read' =>
    rintro _ ⟨⟩
    obtain ⟨text, spelled, whole⟩ := spells_of_value s first read
    obtain ⟨spaces, blank, split⟩ := exists_spaces_of_token next
    obtain ⟨spaces', blank', split'⟩ := exists_spaces_of_token start
    obtain ⟨text', spelled', whole'⟩ := spells_of_elements inside items read'
    refine ⟨text ++ (spaces ++ .char ',' :: (spaces' ++ text')),
      .nextElement spelled blank blank' spelled', ?_⟩
    simp only [List.append_assoc, List.cons_append]
    rw [← whole', ← split', ← eq_cons_of_expect comma, ← split]
    exact whole
  | _ =>
    intro r found
    cases found
termination_by 2 * s.length + 1
decreasing_by
  all_goals try have := first.shorter
  all_goals omega

/-- A member that was read is spelled by what was used up. -/
theorem spells_of_member (s : List Letter) :
    ∀ r : Read s (Text × Json), member policy s = .ok r →
      ∃ text, Spells policy (.member r.value.1 r.value.2) text ∧ s = text ++ r.rest := by
  fun_cases member policy s with
  | case5 rest short quote name read follow bound next afterColon short' colon start bound' first v
      read' =>
    rintro _ ⟨⟩
    obtain ⟨items, body, inside, same, whole⟩ := exists_body_of_string read
    obtain ⟨spaces, blank, split⟩ := exists_spaces_of_token next
    obtain ⟨spaces', blank', split'⟩ := exists_spaces_of_token first
    obtain ⟨text, spelled, whole'⟩ := spells_of_value start v read'
    refine ⟨.char '\x22' :: body ++ .char '\x22' :: (spaces ++ .char ':' :: (spaces' ++ text)),
      ?_, ?_⟩
    · rw [same]
      exact .member inside blank blank' spelled
    · simp only [List.append_assoc, List.cons_append]
      rw [← whole', ← split', ← eq_cons_of_expect colon, ← split, ← whole]
      exact eq_cons_of_expect quote
  | _ =>
    intro r found
    cases found
termination_by 2 * s.length
decreasing_by
  have := name.shorter
  omega

/-- Members that were read are spelled by what was used up before the closing brace. -/
theorem spells_of_members (s : List Letter) :
    ∀ r : Read s (List (Text × Json)), members policy s = .ok r →
      ∃ text, Spells policy (.members r.value) text ∧ s = text ++ .char '\x7d' :: r.rest := by
  fun_cases members policy s with
  | case2 first read follow bound next after short closing =>
    rintro _ ⟨⟩
    obtain ⟨text, spelled, whole⟩ := spells_of_member s first read
    obtain ⟨spaces, blank, split⟩ := exists_spaces_of_token next
    refine ⟨text ++ spaces, .lastMember spelled blank, ?_⟩
    rw [List.append_assoc, ← eq_cons_of_expect closing, ← split]
    exact whole
  | case5 first read follow bound next notLast more short comma inside bound' start pairs read' =>
    rintro _ ⟨⟩
    obtain ⟨text, spelled, whole⟩ := spells_of_member s first read
    obtain ⟨spaces, blank, split⟩ := exists_spaces_of_token next
    obtain ⟨spaces', blank', split'⟩ := exists_spaces_of_token start
    obtain ⟨text', spelled', whole'⟩ := spells_of_members inside pairs read'
    refine ⟨text ++ (spaces ++ .char ',' :: (spaces' ++ text')),
      .nextMember spelled blank blank' spelled', ?_⟩
    simp only [List.append_assoc, List.cons_append]
    rw [← whole', ← split', ← eq_cons_of_expect comma, ← split]
    exact whole
  | _ =>
    intro r found
    cases found
termination_by 2 * s.length + 1
decreasing_by
  all_goals try have := first.shorter
  all_goals omega

end

/-- A text that was read as a whole is the spelling of a value between blanks. -/
theorem spells_of_read {s : List Letter} {v : Json} (found : read policy s = .ok v) :
    ∃ before text after, IsSpaces before ∧ Spells policy (.value v) text ∧ IsSpaces after ∧
      s = before ++ (text ++ after) := by
  rw [read, whole] at found
  obtain ⟨before, blank, opened⟩ := exists_spaces_append s
  cases read : value policy (skipSpace s) with
  | error stop =>
    rw [read] at found
    cases found
  | ok first =>
    rw [read] at found
    obtain ⟨text, spelled, split⟩ := spells_of_value (skipSpace s) first read
    obtain ⟨after, blank', closed⟩ := exists_spaces_append first.rest
    cases left : skipSpace first.rest with
    | cons c rest =>
      simp only [left] at found
      cases found
    | nil =>
      simp only [left] at found
      cases found
      refine ⟨before, text, after, blank, spelled, blank', ?_⟩
      rw [left, List.append_nil] at closed
      rw [← closed, ← split]
      exact opened

theorem read_of_readUnmarked {s : List Letter} {v : Json} (found : readUnmarked policy s = .ok v) :
    read policy s = .ok v := by
  unfold readUnmarked at found
  split at found
  case h_1 => cases found
  case h_2 => exact found

theorem spells_of_readUnmarked {s : List Letter} {v : Json}
    (found : readUnmarked policy s = .ok v) :
    ∃ before text after, IsSpaces before ∧ Spells policy (.value v) text ∧ IsSpaces after ∧
      s = before ++ (text ++ after) :=
  spells_of_read (read_of_readUnmarked found)

end QueryDesk.Json
