import QueryDesk.Proofs.Json.Grammar
import QueryDesk.Proofs.Text.Trim

/-!
# The layout of JSON text

Strict JSON and the literals of a shell are laid out alike: brackets, commas and colons, with blanks
between them. They differ in how a name and a value that holds no others are written. A `Spelling`
says that much, and `Laid σ form text` are the texts that lay out a form in it; what `Spells` strict
JSON is laid out in the spelling `strict` (`laid_of_spells`).

Three lemmas carry facts about the parts to the whole text, whatever the nesting:

* `Laid.prepend` for a property that each part hands on to what stands before it;
* `Laid.rewritten` for a pass over the text that changes each part on its own;
* `Laid.narrow_or` for a part that decides whether the whole has such a property.
-/

namespace QueryDesk.Json

/-- How names, and the values that hold no others, are written. -/
structure Spelling where
  /-- The texts of a scalar or a string. -/
  leaf : Json → List Letter → Prop
  /-- The texts of a member's name, up to its colon. -/
  name : Text → List Letter → Prop

/-- The texts that lay out a form. Blanks may stand around every token but before a colon; those
belong to the name. -/
inductive Laid (σ : Spelling) : Form → List Letter → Prop
  | leaf {v : Json} {text : List Letter} (written : σ.leaf v text) : Laid σ (.value v) text
  | emptyArr {spaces : List Letter} (blank : IsSpaces spaces) :
      Laid σ (.value (.arr [])) (.char '[' :: spaces ++ [.char ']'])
  | arr {spaces text : List Letter} {items : List Json} (blank : IsSpaces spaces)
      (inside : Laid σ (.elements items) text) :
      Laid σ (.value (.arr items)) (.char '[' :: (spaces ++ text) ++ [.char ']'])
  | emptyObj {spaces : List Letter} (blank : IsSpaces spaces) :
      Laid σ (.value (.obj [])) (.char '\x7b' :: spaces ++ [.char '\x7d'])
  | obj {spaces text : List Letter} {pairs : List (Text × Json)} (blank : IsSpaces spaces)
      (inside : Laid σ (.members pairs) text) :
      Laid σ (.value (.obj (Members.ofPairs pairs)))
        (.char '\x7b' :: (spaces ++ text) ++ [.char '\x7d'])
  | lastElement {v : Json} {text spaces : List Letter} (first : Laid σ (.value v) text)
      (blank : IsSpaces spaces) : Laid σ (.elements [v]) (text ++ spaces)
  | nextElement {v : Json} {text spaces spaces' more : List Letter} {items : List Json}
      (first : Laid σ (.value v) text) (blank : IsSpaces spaces) (blank' : IsSpaces spaces')
      (rest : Laid σ (.elements items) more) :
      Laid σ (.elements (v :: items)) (text ++ (spaces ++ .char ',' :: (spaces' ++ more)))
  | member {name : Text} {v : Json} {text spaces under : List Letter} (named : σ.name name text)
      (blank : IsSpaces spaces) (value : Laid σ (.value v) under) :
      Laid σ (.member name v) (text ++ .char ':' :: (spaces ++ under))
  | lastMember {name : Text} {v : Json} {text spaces : List Letter}
      (first : Laid σ (.member name v) text) (blank : IsSpaces spaces) :
      Laid σ (.members [(name, v)]) (text ++ spaces)
  | nextMember {name : Text} {v : Json} {text spaces spaces' more : List Letter}
      {pairs : List (Text × Json)} (first : Laid σ (.member name v) text)
      (blank : IsSpaces spaces) (blank' : IsSpaces spaces')
      (rest : Laid σ (.members pairs) more) :
      Laid σ (.members ((name, v) :: pairs)) (text ++ (spaces ++ .char ',' :: (spaces' ++ more)))

/-- An object whose names are distinct is laid out by its members. -/
theorem Laid.distinct {σ : Spelling} {spaces text : List Letter} {members : Members Json}
    (distinct : members.Distinct) (blank : IsSpaces spaces)
    (inside : Laid σ (.members members) text) :
    Laid σ (.value (.obj members)) (.char '\x7b' :: (spaces ++ text) ++ [.char '\x7d']) := by
  have same := Members.ofPairs_eq_self distinct
  exact same ▸ Laid.obj blank inside

/-! ## Strict JSON -/

/-- The literal of a JSON string. -/
def IsStringText (s : Text) (text : List Letter) : Prop :=
  ∃ items body, StringBody items body ∧ s = textOf items ∧
    text = .char '\x22' :: body ++ [.char '\x22']

/-- The spelling of strict JSON. -/
def Spelling.strict (policy : NonFinite) : Spelling where
  leaf v text := scalar policy text = .ok (v, []) ∨ ∃ s, v = .str s ∧ IsStringText s text
  name s text := ∃ quoted spaces, IsStringText s quoted ∧ IsSpaces spaces ∧ text = quoted ++ spaces

/-- The literal of a string is a name, with no blanks before its colon. -/
theorem IsStringText.isName {s : Text} {text : List Letter} (quoted : IsStringText s text)
    (policy : NonFinite) : (Spelling.strict policy).name s text :=
  ⟨text, [], quoted, List.forall_mem_nil _, (List.append_nil _).symm⟩

theorem laid_of_spells {policy : NonFinite} {form : Form} {text : List Letter}
    (spelled : Spells policy form text) : Laid (.strict policy) form text := by
  induction spelled with
  | scalar whole => exact .leaf (.inl whole)
  | str inside => exact .leaf (.inr ⟨_, rfl, _, _, inside, rfl, rfl⟩)
  | emptyArr blank => exact .emptyArr blank
  | arr blank _ ih => exact .arr blank ih
  | emptyObj blank => exact .emptyObj blank
  | obj blank _ ih => exact .obj blank ih
  | lastElement _ blank ih => exact .lastElement ih blank
  | nextElement _ blank blank' _ ihFirst ihRest => exact .nextElement ihFirst blank blank' ihRest
  | @member items v body spaces spaces' text inside blank blank' _ ih =>
    have named : (Spelling.strict policy).name (textOf items)
        (.char '\x22' :: body ++ [.char '\x22'] ++ spaces) :=
      ⟨_, spaces, ⟨items, body, inside, rfl, rfl⟩, blank, rfl⟩
    simpa using Laid.member named blank' ih
  | lastMember _ blank ih => exact .lastMember ih blank
  | nextMember _ blank blank' _ ihFirst ihRest => exact .nextMember ihFirst blank blank' ihRest

/-! ## The ends of a value -/

/-- The blanks of JSON are blank in every text. -/
theorem IsSpaces.isBlank {spaces : List Letter} (blank : IsSpaces spaces) :
    ∀ c ∈ spaces, Text.isBlank c = true := by
  intro c member
  have space := blank c member
  simp only [isSpace, Bool.or_eq_true, decide_eq_true_eq] at space
  rcases space with ((rfl | rfl) | rfl) | rfl <;> decide

/-- A text that is not empty and has no blank at either end. -/
def IsTrimmed (s : List Letter) : Prop :=
  s ≠ [] ∧ Text.Bare Text.isBlank s

theorem IsTrimmed.between {c d : Letter} (first : Text.isBlank c = false)
    (last : Text.isBlank d = false) (s : List Letter) : IsTrimmed (c :: s ++ [d]) :=
  ⟨List.cons_ne_nil _ _, .between first last s⟩

/-- Blanks around a trimmed text are all that trimming takes off. -/
theorem IsTrimmed.trim_eq {before text after : List Letter} (trimmed : IsTrimmed text)
    (blank : IsSpaces before) (blank' : IsSpaces after) :
    Text.trim (before ++ (text ++ after)) = text :=
  Text.strip_between trimmed.1 trimmed.2 blank.isBlank blank'.isBlank

/-- The text of a value is trimmed if those of scalars and strings are. -/
theorem Laid.isTrimmed {σ : Spelling} {v : Json} {text : List Letter}
    (leaf : ∀ v text, σ.leaf v text → IsTrimmed text) (laid : Laid σ (.value v) text) :
    IsTrimmed text := by
  cases laid with
  | leaf written => exact leaf _ _ written
  | emptyArr | arr => exact .between (by decide) (by decide) _
  | emptyObj | obj => exact .between (by decide) (by decide) _

theorem IsTrimmed.of_isScalarChar {text : List Letter} (nonempty : text ≠ [])
    (chars : ∀ c ∈ text, isScalarChar c = true) : IsTrimmed text :=
  ⟨nonempty, .of_forall fun c member => isBlank_of_isScalarChar (chars c member)⟩

theorem isTrimmed_of_scalar {policy : NonFinite} {text : List Letter} {v : Json}
    (whole : scalar policy text = .ok (v, [])) : IsTrimmed text :=
  .of_isScalarChar (isScalarChar_of_scalar whole).1 (isScalarChar_of_scalar whole).2

theorem isTrimmed_of_strict {policy : NonFinite} {text : List Letter} {v : Json}
    (laid : Laid (.strict policy) (.value v) text) : IsTrimmed text := by
  refine laid.isTrimmed ?_
  rintro v text (whole | ⟨s, rfl, items, body, -, -, rfl⟩)
  · exact isTrimmed_of_scalar whole
  · exact .between (by decide) (by decide) body

theorem isTrimmed_of_spells {policy : NonFinite} {text : List Letter} {v : Json}
    (spelled : Spells policy (.value v) text) : IsTrimmed text :=
  isTrimmed_of_strict (laid_of_spells spelled)

/-! ## From the parts to the whole -/

/-- The characters of the layout itself. -/
def isLayout (c : Letter) : Bool :=
  isSpace c || [.char ',', .char ':', .char '[', .char ']', .char '\x7b', .char '\x7d'].contains c

theorem isLayout_of_isSpace {c : Letter} (space : isSpace c = true) : isLayout c = true := by
  simp [isLayout, space]

/-- The characters that may follow a value. -/
def isFollower (c : Letter) : Bool :=
  isSpace c || [.char ',', .char ']', .char '\x7d'].contains c

/-- A text that may follow a value: it is empty, or a blank, a comma or a closing bracket comes
first. -/
def EndsValue (s : List Letter) : Prop :=
  ∀ c ∈ s.head?, isFollower c = true

theorem EndsValue.nil : EndsValue [] := by
  rintro c ⟨⟩

theorem EndsValue.cons {c : Letter} (follows : isFollower c = true) (s : List Letter) :
    EndsValue (c :: s) := by
  rintro d ⟨⟩
  exact follows

/-- Blanks may stand before what follows a value. -/
theorem EndsValue.spaces {spaces s : List Letter} (blank : IsSpaces spaces) (ends : EndsValue s) :
    EndsValue (spaces ++ s) := by
  cases spaces with
  | nil => exact ends
  | cons c rest =>
    have space := blank c (List.mem_cons_self ..)
    exact .cons (by simp [isFollower, space]) _

/-- A property of texts that each blank hands on to what stands before it holds before all blanks.
-/
theorem IsSpaces.prepend {P : List Letter → Prop} {spaces s : List Letter}
    (space : ∀ c s, isSpace c = true → P s → P (c :: s)) (blank : IsSpaces spaces) (holds : P s) :
    P (spaces ++ s) := by
  induction spaces with
  | nil => exact holds
  | cons c rest ih =>
    obtain ⟨first, blank⟩ := List.forall_mem_cons.mp blank
    exact space c _ first (ih blank)

/-- The blanks belong to the layout. -/
theorem IsSpaces.prepend_layout {P : List Letter → Prop} {spaces s : List Letter}
    (layout : ∀ c s, isLayout c = true → P s → P (c :: s)) (blank : IsSpaces spaces)
    (holds : P s) : P (spaces ++ s) :=
  blank.prepend (fun c s space => layout c s (isLayout_of_isSpace space)) holds

namespace Laid

variable {σ τ : Spelling} {form : Form} {text : List Letter}

/-- A property of texts that each part hands on to what stands before it holds before the whole. -/
theorem prepend {P : List Letter → Prop}
    (layout : ∀ c s, isLayout c = true → P s → P (c :: s))
    (leaf : ∀ v text s, σ.leaf v text → EndsValue s → P s → P (text ++ s))
    (name : ∀ key text s, σ.name key text → P (.char ':' :: s) → P (text ++ .char ':' :: s))
    (laid : Laid σ form text) : ∀ s, EndsValue s → P s → P (text ++ s) := by
  have blanks : ∀ {spaces s : List Letter}, IsSpaces spaces → P s → P (spaces ++ s) :=
    IsSpaces.prepend_layout layout
  induction laid with
  | leaf written => exact fun s ends holds => leaf _ _ s written ends holds
  | emptyArr blank =>
    intro s _ holds
    have inner := blanks blank (layout ']' s rfl holds)
    simpa using layout '[' _ rfl inner
  | arr blank _ ih =>
    intro s _ holds
    have inner := blanks blank (ih (.char ']' :: s) (.cons rfl s) (layout ']' s rfl holds))
    simpa using layout '[' _ rfl inner
  | emptyObj blank =>
    intro s _ holds
    have inner := blanks blank (layout '\x7d' s rfl holds)
    simpa using layout '\x7b' _ rfl inner
  | obj blank _ ih =>
    intro s _ holds
    have inner := blanks blank (ih (.char '\x7d' :: s) (.cons rfl s) (layout '\x7d' s rfl holds))
    simpa using layout '\x7b' _ rfl inner
  | lastElement _ blank ih =>
    intro s ends holds
    simpa using ih _ (.spaces blank ends) (blanks blank holds)
  | nextElement _ blank blank' _ ihFirst ihRest =>
    intro s ends holds
    have more := layout ',' _ rfl (blanks blank' (ihRest s ends holds))
    simpa using ihFirst _ (.spaces blank (.cons rfl _)) (blanks blank more)
  | member named blank _ ih =>
    intro s ends holds
    have value := layout ':' _ rfl (blanks blank (ih s ends holds))
    simpa using name _ _ _ named value
  | lastMember _ blank ih =>
    intro s ends holds
    simpa using ih _ (.spaces blank ends) (blanks blank holds)
  | nextMember _ blank blank' _ ihFirst ihRest =>
    intro s ends holds
    have more := layout ',' _ rfl (blanks blank' (ihRest s ends holds))
    simpa using ihFirst _ (.spaces blank (.cons rfl _)) (blanks blank more)

/-- A pass over the text that keeps the layout, and rewrites each part without looking beyond it,
gives a text that lays out the same form with the parts it makes. -/
theorem rewrite {f : List Letter → List Letter}
    (layout : ∀ c s, isLayout c = true → f (c :: s) = c :: f s)
    (leaf : ∀ v text, σ.leaf v text →
      ∃ text', τ.leaf v text' ∧ ∀ s, EndsValue s → f (text ++ s) = text' ++ f s)
    (name : ∀ key text, σ.name key text →
      ∃ text', τ.name key text' ∧ ∀ s, f (text ++ .char ':' :: s) = text' ++ .char ':' :: f s)
    (laid : Laid σ form text) :
    ∃ text', Laid τ form text' ∧ ∀ s, EndsValue s → f (text ++ s) = text' ++ f s := by
  have blanks : ∀ {spaces : List Letter}, IsSpaces spaces →
      ∀ s, f (spaces ++ s) = spaces ++ f s := by
    intro spaces blank s
    induction spaces with
    | nil => rfl
    | cons c rest ih =>
      obtain ⟨space, blank⟩ := List.forall_mem_cons.mp blank
      rw [List.cons_append, layout c _ (isLayout_of_isSpace space), ih blank, List.cons_append]
  induction laid with
  | leaf written =>
    obtain ⟨text', written', same⟩ := leaf _ _ written
    exact ⟨text', .leaf written', same⟩
  | emptyArr blank =>
    refine ⟨_, .emptyArr blank, fun s _ => ?_⟩
    simp [layout, isLayout, blanks blank]
  | arr blank _ ih =>
    obtain ⟨text', laid', same⟩ := ih
    refine ⟨_, .arr blank laid', fun s _ => ?_⟩
    simp [layout, isLayout, blanks blank, same _ (.cons (c := ']') rfl s)]
  | emptyObj blank =>
    refine ⟨_, .emptyObj blank, fun s _ => ?_⟩
    simp [layout, isLayout, blanks blank]
  | obj blank _ ih =>
    obtain ⟨text', laid', same⟩ := ih
    refine ⟨_, .obj blank laid', fun s _ => ?_⟩
    simp [layout, isLayout, blanks blank, same _ (.cons (c := '\x7d') rfl s)]
  | lastElement _ blank ih =>
    obtain ⟨text', laid', same⟩ := ih
    refine ⟨_, .lastElement laid' blank, fun s ends => ?_⟩
    rw [List.append_assoc, same _ (.spaces blank ends), blanks blank, List.append_assoc]
  | nextElement _ blank blank' _ ihFirst ihRest =>
    obtain ⟨text', laid', same⟩ := ihFirst
    obtain ⟨more', laidMore, sameMore⟩ := ihRest
    refine ⟨_, .nextElement laid' blank blank' laidMore, fun s ends => ?_⟩
    simp [layout, isLayout, blanks blank, blanks blank', sameMore s ends,
      same _ (.spaces blank (.cons (c := ',') rfl _))]
  | member named blank _ ih =>
    obtain ⟨text', named', same⟩ := name _ _ named
    obtain ⟨under', laid', sameUnder⟩ := ih
    refine ⟨_, .member named' blank laid', fun s ends => ?_⟩
    simp [same, blanks blank, sameUnder s ends]
  | lastMember _ blank ih =>
    obtain ⟨text', laid', same⟩ := ih
    refine ⟨_, .lastMember laid' blank, fun s ends => ?_⟩
    rw [List.append_assoc, same _ (.spaces blank ends), blanks blank, List.append_assoc]
  | nextMember _ blank blank' _ ihFirst ihRest =>
    obtain ⟨text', laid', same⟩ := ihFirst
    obtain ⟨more', laidMore, sameMore⟩ := ihRest
    refine ⟨_, .nextMember laid' blank blank' laidMore, fun s ends => ?_⟩
    simp [layout, isLayout, blanks blank, blanks blank', sameMore s ends,
      same _ (.spaces blank (.cons (c := ',') rfl _))]

/-- So a text that is passed over as a whole lays out the same form. -/
theorem rewritten {f : List Letter → List Letter} (nil : f [] = [])
    (layout : ∀ c s, isLayout c = true → f (c :: s) = c :: f s)
    (leaf : ∀ v text, σ.leaf v text →
      ∃ text', τ.leaf v text' ∧ ∀ s, EndsValue s → f (text ++ s) = text' ++ f s)
    (name : ∀ key text, σ.name key text →
      ∃ text', τ.name key text' ∧ ∀ s, f (text ++ .char ':' :: s) = text' ++ .char ':' :: f s)
    (laid : Laid σ form text) : Laid τ form (f text) := by
  obtain ⟨text', laid', same⟩ := laid.rewrite layout leaf name
  have whole := same [] .nil
  rw [List.append_nil, nil, List.append_nil] at whole
  rw [whole]
  exact laid'

/-- Each part is of a narrower spelling, or it gives any text that it starts a property which the
parts of the narrower spelling hand on to what stands before it. Then the whole is of the narrower
spelling, or it gives the property as well. -/
theorem narrow {P : List Letter → Prop}
    (layout : ∀ c s, isLayout c = true → P s → P (c :: s))
    (leaf : ∀ v text, σ.leaf v text → τ.leaf v text ∨ ∀ s, EndsValue s → P (text ++ s))
    (name : ∀ key text, σ.name key text → τ.name key text ∨ ∀ s, P (text ++ .char ':' :: s))
    (beforeLeaf : ∀ v text s, τ.leaf v text → EndsValue s → P s → P (text ++ s))
    (beforeName : ∀ key text s, τ.name key text → P (.char ':' :: s) → P (text ++ .char ':' :: s))
    (laid : Laid σ form text) : Laid τ form text ∨ ∀ s, EndsValue s → P (text ++ s) := by
  have blanks : ∀ {spaces s : List Letter}, IsSpaces spaces → P s → P (spaces ++ s) :=
    IsSpaces.prepend_layout layout
  -- what stands before a part that gives the property is laid out in the narrower spelling
  have before : ∀ {form : Form} {text : List Letter}, Laid τ form text →
      ∀ s, EndsValue s → P s → P (text ++ s) := fun narrow =>
    narrow.prepend layout beforeLeaf beforeName
  induction laid with
  | leaf written => exact (leaf _ _ written).imp .leaf id
  | emptyArr blank => exact .inl (.emptyArr blank)
  | arr blank _ ih =>
    refine ih.imp (.arr blank) fun given s _ => ?_
    simpa using layout '[' _ rfl (blanks blank (given (.char ']' :: s) (.cons rfl s)))
  | emptyObj blank => exact .inl (.emptyObj blank)
  | obj blank _ ih =>
    refine ih.imp (.obj blank) fun given s _ => ?_
    simpa using layout '\x7b' _ rfl (blanks blank (given (.char '\x7d' :: s) (.cons rfl s)))
  | lastElement _ blank ih =>
    refine ih.imp (.lastElement · blank) fun given s ends => ?_
    simpa using given _ (.spaces blank ends)
  | nextElement _ blank blank' _ ihFirst ihRest =>
    rcases ihFirst with first | given
    · refine ihRest.imp (first.nextElement blank blank') fun given s ends => ?_
      have more := layout ',' _ rfl (blanks blank' (given s ends))
      simpa using before first _ (.spaces blank (.cons rfl _)) (blanks blank more)
    · refine .inr fun s _ => ?_
      simpa using given _ (.spaces blank (.cons rfl _))
  | member named blank _ ih =>
    rcases name _ _ named with narrow | given
    · refine ih.imp (.member narrow blank) fun given s ends => ?_
      simpa using beforeName _ _ _ narrow (layout ':' _ rfl (blanks blank (given s ends)))
    · refine .inr fun s _ => ?_
      simpa using given _
  | lastMember _ blank ih =>
    refine ih.imp (.lastMember · blank) fun given s ends => ?_
    simpa using given _ (.spaces blank ends)
  | nextMember _ blank blank' _ ihFirst ihRest =>
    rcases ihFirst with first | given
    · refine ihRest.imp (first.nextMember blank blank') fun given s ends => ?_
      have more := layout ',' _ rfl (blanks blank' (given s ends))
      simpa using before first _ (.spaces blank (.cons rfl _)) (blanks blank more)
    · refine .inr fun s _ => ?_
      simpa using given _ (.spaces blank (.cons rfl _))

/-- So the whole text is of the narrower spelling, or it has the property. -/
theorem narrow_or {P : List Letter → Prop}
    (layout : ∀ c s, isLayout c = true → P s → P (c :: s))
    (leaf : ∀ v text, σ.leaf v text → τ.leaf v text ∨ ∀ s, EndsValue s → P (text ++ s))
    (name : ∀ key text, σ.name key text → τ.name key text ∨ ∀ s, P (text ++ .char ':' :: s))
    (beforeLeaf : ∀ v text s, τ.leaf v text → EndsValue s → P s → P (text ++ s))
    (beforeName : ∀ key text s, τ.name key text → P (.char ':' :: s) → P (text ++ .char ':' :: s))
    (laid : Laid σ form text) : Laid τ form text ∨ P text := by
  refine (laid.narrow layout leaf name beforeLeaf beforeName).imp id fun given => ?_
  rw [← List.append_nil text]
  exact given [] .nil

end Laid

end QueryDesk.Json
