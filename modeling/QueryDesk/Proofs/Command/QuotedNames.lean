import QueryDesk.Proofs.Command.Apostrophe

/-!
# Names that have their quotes already

In a literal of this kind every name stands in double quotes and every string between apostrophes,
and both hold plain characters of any kind, dots and blanks among them. The strings call for the
repair, and the repair looks at the names again. Its first pass finds the name characters before the
closing quote, as far as they go back:

* if they are the whole name, or if there are none, the name stays as it is (`IsWhole`,
  `quoteNames_of_isWhole`);
* otherwise the pass puts a quote before them and tears the name (`quoteNames_of_torn`): of the name
  `address.city` it takes `city`.

Behind a torn name strict JSON cannot go on, nor can it at an empty string, whose apostrophes stay.
So a literal decodes to the value that was written, or it is refused, and it is refused exactly for
one of these two reasons (`quoted_names_are_decoded_or_refused`).
-/

namespace QueryDesk.Command

open Json Repair

/-- A name that the first pass finds as a whole or does not find at all: it consists of name
characters, or its last character is none. -/
def IsWhole (name : Text) : Prop :=
  (∀ c ∈ name.toList, isNameChar c = true) ∨ ∀ c ∈ name.toList.getLast?, isNameChar c = false

end QueryDesk.Command

namespace QueryDesk.Json

open Command

/-- Names in double quotes and strings between apostrophes, both of plain characters and of some
kind. -/
def Spelling.keyed (names strings : Text → Prop) : Spelling where
  leaf v text := scalar .refused text = .ok (v, []) ∨
    ∃ s, v = .str s ∧ strings s ∧ (∀ c ∈ s.toList, isPlain c = true) ∧
      text = Mark.single.around s.toList
  name key text :=
    names key ∧ (∀ c ∈ key.toList, isPlain c = true) ∧ text = Mark.double.around key.toList

end QueryDesk.Json

namespace QueryDesk.Command

open Json Repair

/-! ## The pass over the names -/

namespace Repair

theorem isQuote_eq_false_of_isPlain {c : Letter} (plain : isPlain c = true) : isQuote c = false :=
  (isPlain_iff.mp plain).1

/-- There is no name where another plain character comes before the next quote. -/
theorem name?_eq_none {u r t : List Letter} (start : dropQuote u = r ++ t)
    (plain : ∀ c ∈ r, isPlain c = true) (other : ∃ c ∈ r, isNameChar c = false) :
    name? u = none := by
  obtain ⟨d, left, stops⟩ : ∃ d left, r.dropWhile isNameChar = d :: left := by
    apply List.exists_cons_of_ne_nil
    intro nothing
    obtain ⟨c, member, outside⟩ := other
    have inside := List.dropWhile_eq_nil_iff.mp nothing c member
    rw [outside] at inside
    cases inside
  have plain' := plain d ((List.dropWhile_sublist _).subset (stops ▸ List.mem_cons_self))
  have behind : dropQuote ((r ++ t).dropWhile isNameChar) = d :: (left ++ t) := by
    rw [List.dropWhile_append, stops]
    exact dropQuote_cons (isQuote_eq_false_of_isPlain plain') _
  rw [name?, start, behind]
  split
  case h_1 colon =>
    cases colon
    cases plain'
  case h_2 => rfl

/-- A name before a quote and a colon is found. -/
theorem name?_before_quote {name : List Letter} (nonempty : name ≠ [])
    (inName : ∀ c ∈ name, isNameChar c = true) (s : List Letter) :
    name? (name ++ .char '\x22' :: .char ':' :: s) = some (name, s) := by
  obtain ⟨c, more, rfl⟩ := List.exists_cons_of_ne_nil nonempty
  have first := isPlain_of_isNameChar (inName c List.mem_cons_self)
  have start : dropQuote (c :: more ++ .char '\x22' :: .char ':' :: s) =
      c :: more ++ .char '\x22' :: .char ':' :: s :=
    dropQuote_cons (isQuote_eq_false_of_isPlain first) _
  have taken : (c :: more ++ .char '\x22' :: .char ':' :: s).takeWhile isNameChar = c :: more := by
    rw [List.takeWhile_append_of_pos inName]
    exact List.append_nil _
  have left : (c :: more ++ .char '\x22' :: .char ':' :: s).dropWhile isNameChar =
      .char '\x22' :: .char ':' :: s := by
    rw [List.dropWhile_append_of_pos inName]
    rfl
  rw [name?, start, taken, left]
  rfl

/-- Plain characters stay, if the last of them belongs to no name. -/
theorem quoteNames_front {front : List Letter} (plain : ∀ c ∈ front, isPlain c = true)
    (ends : ∀ c ∈ front.getLast?, isNameChar c = false) (t : List Letter) :
    quoteNames (front ++ t) = front ++ quoteNames t := by
  induction front with
  | nil => rfl
  | cons c front ih =>
    have last := List.getLast_mem (List.cons_ne_nil c front)
    have outside := ends _ (List.getLast?_eq_some_getLast (List.cons_ne_nil c front))
    have start : dropQuote (c :: (front ++ t)) = c :: front ++ t :=
      dropQuote_cons (isQuote_eq_false_of_isPlain (plain c List.mem_cons_self)) _
    have rest : quoteNames (front ++ t) = front ++ quoteNames t := by
      refine ih (fun d member => plain d (List.mem_cons_of_mem c member)) fun d found => ?_
      cases front with
      | nil => cases found
      | cons e front => exact ends d found
    rw [List.cons_append, quoteNames_cons (name?_eq_none start plain ⟨_, last, outside⟩), rest,
      List.cons_append]

/-- So do they behind an opening quote. -/
theorem quoteNames_opened {front : List Letter} (nonempty : front ≠ [])
    (plain : ∀ c ∈ front, isPlain c = true)
    (ends : ∀ c ∈ front.getLast?, isNameChar c = false) (t : List Letter) :
    quoteNames (.char '\x22' :: (front ++ t)) = .char '\x22' :: (front ++ quoteNames t) := by
  have last := List.getLast_mem nonempty
  have outside := ends _ (List.getLast?_eq_some_getLast nonempty)
  have start : dropQuote (.char '\x22' :: (front ++ t)) = front ++ t := rfl
  rw [quoteNames_cons (name?_eq_none start plain ⟨_, last, outside⟩), quoteNames_front plain ends]

/-- Neither a closing quote nor the colon behind it starts a name. -/
theorem quoteNames_closing (s : List Letter) :
    quoteNames (.char '\x22' :: .char ':' :: s) = .char '\x22' :: .char ':' :: quoteNames s := by
  rw [quoteNames_cons rfl, quoteNames_layout rfl]

/-- A name of plain characters stays if it is whole. -/
theorem quoteNames_of_isWhole {name : Text} (plain : ∀ c ∈ name.toList, isPlain c = true)
    (whole : IsWhole name) (s : List Letter) :
    quoteNames (Mark.double.around name.toList ++ .char ':' :: s) =
      Mark.double.around name.toList ++ .char ':' :: quoteNames s := by
  by_cases empty : name.toList = []
  · have opening : name? (.char '\x22' :: .char '\x22' :: .char ':' :: s) = none := rfl
    rw [empty]
    show quoteNames (.char '\x22' :: .char '\x22' :: .char ':' :: s) = _
    rw [quoteNames_cons opening, quoteNames_closing]
    rfl
  rcases whole with inName | ends
  · exact quoteNames_of_name? (name?_around .double empty inName s)
  · have opened := quoteNames_opened empty plain ends (.char '\x22' :: .char ':' :: s)
    rw [quoteNames_closing] at opened
    simpa [Mark.around] using opened

/-- Any other name is torn: the pass puts a quote before the name characters that it ends in. -/
theorem quoteNames_of_torn {front back : List Letter} (nonempty : front ≠ [])
    (plain : ∀ c ∈ front, isPlain c = true)
    (ends : ∀ c ∈ front.getLast?, isNameChar c = false) (nonempty' : back ≠ [])
    (inName : ∀ c ∈ back, isNameChar c = true) (s : List Letter) :
    quoteNames (Mark.double.around (front ++ back) ++ .char ':' :: s) =
      Mark.double.around front ++ (back ++ .char '\x22' :: .char ':' :: quoteNames s) := by
  have opened := quoteNames_opened nonempty plain ends (back ++ .char '\x22' :: .char ':' :: s)
  rw [quoteNames_of_name? (name?_before_quote nonempty' inName s)] at opened
  simpa [Mark.around] using opened

end Repair

/-- A name is whole, or it has name characters behind others. -/
theorem isWhole_or_torn (name : Text) :
    IsWhole name ∨ ∃ front back, name.toList = front ++ back ∧ front ≠ [] ∧
      (∀ c ∈ front.getLast?, isNameChar c = false) ∧ back ≠ [] ∧
      ∀ c ∈ back, isNameChar c = true := by
  let front := name.toList.rdropWhile isNameChar
  let back := name.toList.rtakeWhile isNameChar
  have split : name.toList = front ++ back := List.rdropWhile_append_rtakeWhile.symm
  have inName : ∀ c ∈ back, isNameChar c = true := fun c member => List.mem_rtakeWhile_imp member
  by_cases whole : front = []
  · refine .inl (.inl ?_)
    rw [split, whole]
    exact inName
  have ends : ∀ c ∈ front.getLast?, isNameChar c = false := by
    intro c last
    have stops := List.rdropWhile_last_not isNameChar name.toList whole
    rw [List.getLast?_eq_some_getLast whole, Option.mem_some_iff] at last
    rw [← last]
    simpa using stops
  by_cases whole' : back = []
  · refine .inl (.inr ?_)
    rw [split, whole', List.append_nil]
    exact ends
  · exact .inr ⟨front, back, split, whole, ends, whole', inName⟩

/-! ## Both passes -/

namespace Repair

theorem repair_nil : repair [] = [] := by
  rw [repair, quoteNames_nil, requote_nil]

theorem repair_layout {c : Letter} (layout : isLayout c = true) (s : List Letter) :
    repair (c :: s) = c :: repair s := by
  have other : c ≠ '\x27' := by
    rintro rfl
    cases layout
  rw [repair, quoteNames_layout layout, requote_cons other, repair]

/-- What may follow a value starts in the same way after the repair. -/
theorem isLayout_of_repair {s : List Letter} (ends : EndsValue s) :
    ∀ c ∈ (repair s).head?, isLayout c = true := by
  cases s with
  | nil =>
    rw [repair_nil]
    rintro c ⟨⟩
  | cons d s =>
    have layout := StringScan.isLayout_of_endsValue ends d rfl
    rw [repair_layout layout]
    rintro c ⟨⟩
    exact layout

theorem repair_scalar {v : Json} {text s : List Letter}
    (whole : scalar .refused text = .ok (v, [])) (ends : EndsValue s) :
    repair (text ++ s) = text ++ repair s := by
  have chars := (isScalarChar_of_scalar whole).2
  rw [repair, quoteNames_append (not_mem_of_forall chars rfl) ends,
    requote_append (not_mem_of_forall chars rfl), repair]

/-- A string between apostrophes is no name. -/
theorem quoteNames_string {body s : List Letter} (plain : ∀ c ∈ body, isPlain c = true)
    (ends : EndsValue s) :
    quoteNames (Mark.single.around body ++ s) = Mark.single.around body ++ quoteNames s := by
  have absent : .char ':' ∉ body := not_mem_of_forall plain rfl
  exact quoteNames_append (by simp [Mark.around, absent]) ends

theorem repair_string {body s : List Letter} (nonempty : body ≠ [])
    (plain : ∀ c ∈ body, isPlain c = true) (ends : EndsValue s) :
    repair (Mark.single.around body ++ s) = Mark.double.around body ++ repair s := by
  rw [repair, quoteNames_string plain ends, requote_around nonempty (not_mem_of_forall plain rfl),
    repair]

/-- The apostrophes of an empty string have nothing between them, so the first one stays. -/
theorem exists_repair_emptyString {s : List Letter} (ends : EndsValue s) :
    ∃ rest, repair (Mark.single.around [] ++ s) = .char '\x27' :: rest := by
  have named := quoteNames_string (List.forall_mem_nil _) ends
  have alone := apostropheBody?_cons (quoteNames s)
  refine ⟨requote (.char '\x27' :: quoteNames s), ?_⟩
  rw [repair, named]
  show requote (.char '\x27' :: .char '\x27' :: quoteNames s) = _
  rw [requote, if_pos rfl]
  split
  case h_1 found =>
    rw [alone] at found
    cases found
  case h_2 => rfl

/-- Text in double quotes that holds no apostrophe stays. -/
theorem requote_double {body : List Letter} (plain : ∀ c ∈ body, isPlain c = true)
    (s : List Letter) :
    requote (Mark.double.around body ++ s) = Mark.double.around body ++ requote s := by
  have absent : .char '\x27' ∉ body := not_mem_of_forall plain rfl
  exact requote_append (by simp [Mark.around, absent]) s

theorem repair_of_isWhole {name : Text} (plain : ∀ c ∈ name.toList, isPlain c = true)
    (whole : IsWhole name) (s : List Letter) :
    repair (Mark.double.around name.toList ++ .char ':' :: s) =
      Mark.double.around name.toList ++ .char ':' :: repair s := by
  rw [repair, quoteNames_of_isWhole plain whole, requote_double plain, requote_cons (by decide),
    repair]

theorem repair_of_torn {front back : List Letter} (nonempty : front ≠ [])
    (plain : ∀ c ∈ front, isPlain c = true)
    (ends : ∀ c ∈ front.getLast?, isNameChar c = false) (nonempty' : back ≠ [])
    (inName : ∀ c ∈ back, isNameChar c = true) (s : List Letter) :
    repair (Mark.double.around (front ++ back) ++ .char ':' :: s) =
      Mark.double.around front ++ (back ++ .char '\x22' :: .char ':' :: repair s) := by
  rw [repair, quoteNames_of_torn nonempty plain ends nonempty' inName, requote_double plain,
    requote_append (not_mem_of_forall inName rfl), requote_cons (by decide),
    requote_cons (by decide), repair]

end Repair

/-! ## What is read -/

section Keyed

variable {v : Json} {form : Form} {names strings : Text → Prop} {text : List Letter}

/-- Strict JSON for the form, if all names are whole and no string is empty. -/
theorem repair_laid (laid : Laid (.keyed IsWhole (· ≠ "")) form text) :
    Laid (.strict .refused) form (repair text) := by
  refine laid.rewritten repair_nil (fun c s layout => repair_layout layout s) ?_ ?_
  · rintro v text (whole | ⟨s, rfl, nonempty, plain, rfl⟩)
    · exact ⟨text, .inl whole, fun s ends => repair_scalar whole ends⟩
    · have body : s.toList ≠ [] := fun none => nonempty (Text.toList_eq_nil_iff.mp none)
      exact ⟨_, .inr ⟨s, rfl, isStringText_of_plain plain⟩, fun rest ends =>
        repair_string body plain ends⟩
  · rintro name text ⟨whole, plain, rfl⟩
    exact ⟨_, (isStringText_of_plain plain).isName .refused, fun s =>
      repair_of_isWhole plain whole s⟩

/-- The kept apostrophe of an empty string is not accepted. -/
theorem not_accepts_emptyString {s : List Letter} (ends : EndsValue s) :
    ¬ StringScan.outside.Accepts (repair (Mark.single.around [] ++ s)) := by
  obtain ⟨rest, kept⟩ := exists_repair_emptyString ends
  rw [kept]
  exact StringScan.not_accepts_stuck rest

/-- Nor is a torn name, whose front ends before other name characters. -/
theorem not_accepts_torn {front back : List Letter} (nonempty : front ≠ [])
    (plain : ∀ c ∈ front, isPlain c = true)
    (ends : ∀ c ∈ front.getLast?, isNameChar c = false) (nonempty' : back ≠ [])
    (inName : ∀ c ∈ back, isNameChar c = true) (s : List Letter) :
    ¬ StringScan.outside.Accepts
      (repair (Mark.double.around (front ++ back) ++ .char ':' :: s)) := by
  have quoted : IsStringText (.ofList front) (Mark.double.around front) := by
    have literal := isStringText_of_plain (s := .ofList front)
    rw [Text.toList_ofList] at literal
    exact literal plain
  obtain ⟨c, more, rfl⟩ := List.exists_cons_of_ne_nil nonempty'
  have outside := isLayout_eq_false (.inl (inName c List.mem_cons_self))
  have stuck : StringScan.closed.after [c] = .stuck := by
    simp [StringScan.after, StringScan.step, outside]
  rw [repair_of_torn nonempty plain ends nonempty' inName,
    StringScan.accepts_append (StringScan.after_stringText quoted), List.cons_append,
    ← List.singleton_append, StringScan.accepts_append stuck]
  exact StringScan.not_accepts_stuck _

/-- If a name is torn or a string is empty, the repaired text is not accepted. -/
theorem whole_or_not_accepts (laid : Laid (.keyed names strings) form text) :
    Laid (.keyed IsWhole (· ≠ "")) form text ∨ ¬ StringScan.outside.Accepts (repair text) := by
  refine laid.narrow_or (P := fun s => ¬ StringScan.outside.Accepts (repair s)) ?_ ?_ ?_ ?_ ?_
  · intro c s layout refused
    have noMark := StringScan.isQuote_eq_false_of_layout layout
    rwa [repair_layout layout, StringScan.accepts_outside_cons noMark]
  · rintro v text (whole | ⟨s, rfl, -, plain, rfl⟩)
    · exact .inl (.inl whole)
    · by_cases empty : s = ""
      · subst empty
        exact .inr fun s ends => not_accepts_emptyString ends
      · exact .inl (.inr ⟨s, rfl, empty, plain, rfl⟩)
  · rintro name text ⟨-, plain, rfl⟩
    rcases isWhole_or_torn name with whole | ⟨front, back, split, nonempty, ends, nonempty', inName⟩
    · exact .inl ⟨whole, plain, rfl⟩
    · refine .inr fun s => ?_
      rw [split] at plain ⊢
      have plain' : ∀ c ∈ front, isPlain c = true := fun c member =>
        plain c (List.mem_append_left back member)
      exact not_accepts_torn nonempty plain' ends nonempty' inName s
  · rintro v text s (whole | ⟨body, rfl, nonempty, plain, rfl⟩) ends refused
    · rwa [repair_scalar whole ends, StringScan.accepts_scalar whole]
    · have body' : body.toList ≠ [] := fun none => nonempty (Text.toList_eq_nil_iff.mp none)
      rwa [repair_string body' plain ends, StringScan.accepts_stringText
        (isStringText_of_plain plain) (isLayout_of_repair ends)]
  · rintro name text s ⟨whole, plain, rfl⟩ refused
    rw [repair_layout rfl] at refused
    rwa [repair_of_isWhole plain whole, StringScan.accepts_name (isStringText_of_plain plain)]

/-- Without strings the text is strict JSON as it is. -/
theorem stringless_laid (laid : Laid (.keyed names fun _ => False) form text) :
    Laid (.strict .refused) form text := by
  refine laid.rewritten (f := id) rfl (fun _ _ _ => rfl) ?_ ?_
  · rintro v text (whole | ⟨s, rfl, never, -⟩)
    · exact ⟨text, .inl whole, fun _ _ => rfl⟩
    · exact never.elim
  · rintro name text ⟨-, plain, rfl⟩
    exact ⟨_, (isStringText_of_plain plain).isName .refused, fun _ => rfl⟩

/-- With strings it is not accepted as it is. -/
theorem stringless_or_not_accepts (laid : Laid (.keyed names strings) form text) :
    Laid (.keyed names fun _ => False) form text ∨ ¬ StringScan.outside.Accepts text := by
  refine laid.narrow_or (P := fun s => ¬ StringScan.outside.Accepts s) ?_ ?_ ?_ ?_ ?_
  · intro c s layout refused
    rwa [StringScan.accepts_outside_cons (StringScan.isQuote_eq_false_of_layout layout)]
  · rintro v text (whole | ⟨s, rfl, -, -, rfl⟩)
    · exact .inl (.inl whole)
    · exact .inr fun rest _ => StringScan.not_accepts_stuck _
  · exact fun name text named => .inl named
  · rintro v text s (whole | ⟨body, rfl, never, -⟩) ends refused
    · rwa [StringScan.accepts_scalar whole]
    · exact never.elim
  · rintro name text s ⟨-, plain, rfl⟩ refused
    rwa [StringScan.accepts_name (isStringText_of_plain plain)]

/-! ## Whole arguments -/

theorem isTrimmed_of_keyed (laid : Laid (.keyed names strings) (.value v) text) :
    IsTrimmed text := by
  refine laid.isTrimmed ?_
  rintro v text (whole | ⟨s, rfl, -, -, rfl⟩)
  · exact isTrimmed_of_scalar whole
  · exact .between (by decide) (by decide) _

theorem readUnmarked_of_stringless (laid : Laid (.keyed names fun _ => False) (.value v) text) :
    readUnmarked .refused text = .ok v :=
  ((stringless_laid laid).readUnmarked_eq_or Spelling.isReadable_strict).resolve_right And.left

theorem readUnmarked_repair_of_whole (laid : Laid (.keyed IsWhole (· ≠ "")) (.value v) text) :
    readUnmarked .refused (repair text) = .ok v :=
  ((repair_laid laid).readUnmarked_eq_or Spelling.isReadable_strict).resolve_right And.left

/-- A literal with its names in double quotes and its strings between apostrophes, with any blanks
of JSON around it, decodes to the value that was written, if it decodes at all. It does so if it has
no strings, or if all its names are whole and no string is empty, and in no other case. -/
theorem quoted_names_are_decoded_or_refused {before after : List Letter} (blank : IsSpaces before)
    (blank' : IsSpaces after)
    (written : Laid (.keyed (fun _ => True) fun _ => True) (.value v) text) :
    (∀ a, Argument.decode (before ++ (text ++ after)) = .ok a → a.value = v) ∧
      ((∃ a, Argument.decode (before ++ (text ++ after)) = .ok a) ↔
        Laid (.keyed (fun _ => True) fun _ => False) (.value v) text ∨
          Laid (.keyed IsWhole (· ≠ "")) (.value v) text) := by
  have trimmed := isTrimmed_of_keyed written
  have nonempty : text.isEmpty = false := List.isEmpty_eq_false_iff.mpr trimmed.1
  rw [Argument.decode, trimmed.trim_eq blank blank']
  rcases stringless_or_not_accepts written with stringless | stuck
  · have read := readUnmarked_of_stringless stringless
    simp [nonempty, read, stringless]
  obtain ⟨fault, refused⟩ := StringScan.refused_of_not_accepts stuck .refused
  rcases whole_or_not_accepts written with whole | stuck'
  · have read := readUnmarked_repair_of_whole whole
    simp [nonempty, refused, read, whole]
  obtain ⟨fault', refused'⟩ := StringScan.refused_of_not_accepts stuck' .refused
  -- strict JSON, before or after the repair, would have been accepted
  have strings : ¬ Laid (.keyed (fun _ => True) fun _ => False) (.value v) text := fun stringless =>
    stuck (StringScan.accepts_of_readUnmarked (readUnmarked_of_stringless stringless))
  have torn : ¬ Laid (.keyed IsWhole (· ≠ "")) (.value v) text := fun whole =>
    stuck' (StringScan.accepts_of_readUnmarked (readUnmarked_repair_of_whole whole))
  simp [nonempty, refused, refused', strings, torn]

end Keyed

/-- A name with a blank, behind which there is no name character, and a nested object. -/
theorem whole_names_are_decoded :
    let σ := Spelling.keyed (fun _ => True) fun _ => True
    let text := ("\x7b\"first name!\": 'x', \"n\": \x7b\"city\": 'y z'\x7d\x7d" : Text).toList
    let v : Json := .obj [("first name!", .str "x"), ("n", .obj [("city", .str "y z")])]
    Laid σ (.value v) text ∧
      (∀ a, Argument.decode ([.char ' '] ++ (text ++ [])) = .ok a → a.value = v) ∧
        ((∃ a, Argument.decode ([.char ' '] ++ (text ++ [])) = .ok a) ↔
          Laid (.keyed (fun _ => True) fun _ => False) (.value v) text ∨
            Laid (.keyed IsWhole (· ≠ "")) (.value v) text) := by
  intro σ text v
  have nothing : IsSpaces [] := List.forall_mem_nil _
  have space : IsSpaces [.char ' '] := List.forall_mem_singleton.mpr rfl
  have written : Laid σ (.value v) text := by
    have first : σ.name "first name!" ("\"first name!\"" : Text).toList :=
      ⟨trivial, List.all_eq_true.mp rfl, rfl⟩
    have n : σ.name "n" ("\"n\"" : Text).toList := ⟨trivial, List.all_eq_true.mp rfl, rfl⟩
    have city : σ.name "city" ("\"city\"" : Text).toList := ⟨trivial, List.all_eq_true.mp rfl, rfl⟩
    have x : σ.leaf (.str "x") ("'x'" : Text).toList :=
      .inr ⟨"x", rfl, trivial, List.all_eq_true.mp rfl, rfl⟩
    have y : σ.leaf (.str "y z") ("'y z'" : Text).toList :=
      .inr ⟨"y z", rfl, trivial, List.all_eq_true.mp rfl, rfl⟩
    have inner := ((Laid.member city space (.leaf y)).lastMember nothing).obj nothing
    have members := (Laid.member first space (.leaf x)).nextMember nothing space
      ((Laid.member n space inner).lastMember nothing)
    exact members.obj nothing
  exact ⟨written, quoted_names_are_decoded_or_refused space nothing written⟩

/-- A path of fields, which is everyday as a name, is torn and refused. -/
theorem dotted_names_are_refused :
    let σ := Spelling.keyed (fun _ => True) fun _ => True
    let text := ("\x7b\"address.city\": 'Perth'\x7d" : Text).toList
    let v : Json := .obj [("address.city", .str "Perth")]
    Laid σ (.value v) text ∧ ∃ fault, Argument.decode text = .error fault := by
  intro σ text v
  have nothing : IsSpaces [] := List.forall_mem_nil _
  have space : IsSpaces [.char ' '] := List.forall_mem_singleton.mpr rfl
  have city : σ.name "address.city" ("\"address.city\"" : Text).toList :=
    ⟨trivial, List.all_eq_true.mp rfl, rfl⟩
  have perth : σ.leaf (.str "Perth") ("'Perth'" : Text).toList :=
    .inr ⟨"Perth", rfl, trivial, List.all_eq_true.mp rfl, rfl⟩
  have members := (Laid.member city space (.leaf perth)).lastMember nothing
  have evaluated : (Argument.decode text).toOption.isNone = true := by decide +kernel
  refine ⟨members.obj nothing, ?_⟩
  cases outcome : Argument.decode text with
  | error fault => exact ⟨fault, rfl⟩
  | ok a =>
    rw [outcome] at evaluated
    cases evaluated

end QueryDesk.Command
