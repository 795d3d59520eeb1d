import QueryDesk.Proofs.Command.StringScan
import QueryDesk.Proofs.Json.Strings

/-!
# Escaped apostrophes

A shell writes an apostrophe in a string with a backslash before it. The repair does not know that:
it pairs the apostrophes of the text from left to right, those inside the strings included. Either
it keeps one of them, or it turns all of them into double quotes (`Repair.requote_cases`).

* A text with a kept apostrophe is not strict JSON, wherever the apostrophe stands
  (`not_accepts_requote`). The parts of the text hand this on to each other as `Betrays`.
* A text without apostrophes is strict JSON for the value with double quotes for the apostrophes in
  its strings (`map_doubled_laid`), but a number in it may be too long to be read.

So a literal with escaped apostrophes is refused, or it decodes to that value
(`quoted_literals_are_refused_or_doubled`); it does happen that it decodes
(`escaped_apostrophes_are_doubled`).
-/

namespace QueryDesk.Command

open Json Repair

/-! ## Literals with escapes -/

/-- The texts of a value that holds no others and is no string: a name, or a number of any length.
-/
def IsScalarText (v : Json) (text : List Letter) : Prop :=
  (∃ name, (name, v) ∈ Json.names ∧ text = name.toList) ∨
    ∃ n, number? text = some (n, []) ∧ v = n.unboundedValue

/-- The characters of a string that may be escaped: no double quote, no colon and no control
character. -/
def isQuotable (c : Letter) : Bool :=
  c ≠ '\x22' && c ≠ ':' && 0x20 ≤ c.toNat

/-- The texts of a string between apostrophes, with a backslash before each apostrophe and each
backslash in it. -/
def IsQuotedString (s : Text) (text : List Letter) : Prop :=
  (∀ c ∈ s.toList, isQuotable c = true) ∧ text = Mark.single.around (escapeWith '\x27' s.toList)

end QueryDesk.Command

namespace QueryDesk.Json

open Command

/-- The spelling of a shell with strings between apostrophes, and marks of some kinds for the names.
-/
def Spelling.quoted (names : List Mark) : Spelling where
  leaf v text := IsScalarText v text ∨ ∃ s, v = .str s ∧ IsQuotedString s text
  name := IsShellName names

/-- Strict JSON, but for numbers of any length. -/
def Spelling.unbounded : Spelling where
  leaf v text := IsScalarText v text ∨ ∃ s, v = .str s ∧ IsStringText s text
  name := IsShellName [.double]

end QueryDesk.Json

namespace QueryDesk.Command

open Json Repair

/-- A double quote for an apostrophe. -/
def doubled (c : Letter) : Letter :=
  if c = '\x27' then '\x22' else c

theorem doubled_of_ne {c : Letter} (other : c ≠ '\x27') : doubled c = c :=
  if_neg other

theorem map_doubled_of_not_mem {s : List Letter} (noApostrophe : .char '\x27' ∉ s) :
    s.map doubled = s := by
  have same : s.map doubled = s.map id :=
    List.map_congr_left fun c member => doubled_of_ne fun equal => noApostrophe (equal ▸ member)
  rw [same, List.map_id]

/-! ## The apostrophes that are kept -/

namespace Repair

theorem apostropheBody?_of_not_mem {s : List Letter} (absent : .char '\x27' ∉ s) :
    apostropheBody? s = none := by
  have nothing : s.dropWhile (· ≠ .char '\x27') = [] :=
    List.dropWhile_eq_nil_iff.mpr fun c member => decide_eq_true fun same => absent (same ▸ member)
  rw [apostropheBody?, nothing]
  split
  case h_1 left => cases left
  case h_2 => rfl

theorem apostropheBody?_cons (s : List Letter) : apostropheBody? (.char '\x27' :: s) = none := by
  simp [apostropheBody?]

/-- The partner of an apostrophe is the next one, with something between them. -/
theorem eq_append_of_apostropheBody? {s body rest : List Letter}
    (found : apostropheBody? s = some (body, rest)) :
    s = body ++ .char '\x27' :: rest ∧ .char '\x27' ∉ body := by
  by_cases member : .char '\x27' ∈ s
  · obtain ⟨first, after, rfl, absent⟩ := List.eq_append_cons_of_mem member
    cases first with
    | nil =>
      rw [List.nil_append, apostropheBody?_cons] at found
      cases found
    | cons c first =>
      rw [apostropheBody?_append (List.cons_ne_nil c first) absent] at found
      cases found
      exact ⟨rfl, absent⟩
  · rw [apostropheBody?_of_not_mem member] at found
    cases found

/-- An apostrophe without a partner comes just before another one, or it is the last one. -/
theorem head?_of_apostropheBody?_eq_none {s : List Letter} (alone : apostropheBody? s = none) :
    s.head? = some (.char '\x27') ∨ .char '\x27' ∉ s := by
  by_cases member : .char '\x27' ∈ s
  · obtain ⟨first, after, rfl, absent⟩ := List.eq_append_cons_of_mem member
    cases first with
    | nil => exact .inl rfl
    | cons c first =>
      rw [apostropheBody?_append (List.cons_ne_nil c first) absent] at alone
      cases alone
  · exact .inr member

/-- The second pass turns all apostrophes into double quotes, or it keeps one. The first that it
keeps comes just before another one, or it is the last one. -/
theorem requote_cases (s : List Letter) :
    requote s = s.map doubled ∨
      ∃ p r w, s = p ++ .char '\x27' :: r ∧ requote s = p.map doubled ++ .char '\x27' :: w ∧
        (r.head? = some (.char '\x27') ∨ .char '\x27' ∉ r ∧ w = r) := by
  fun_induction requote s with
  | case1 => exact .inl rfl
  | case2 rest body after found _ ih =>
    obtain ⟨rfl, absent⟩ := eq_append_of_apostropheBody? found
    have same := map_doubled_of_not_mem absent
    rcases ih with all | ⟨p, r, w, rfl, kept, alone⟩
    · exact .inl (by simp [all, same, doubled])
    · exact .inr ⟨.char '\x27' :: body ++ .char '\x27' :: p, r, w, by simp,
        by simp [kept, same, doubled],
        alone⟩
  | case3 rest alone _ =>
    refine .inr ⟨[], rest, requote rest, rfl, rfl, ?_⟩
    rcases head?_of_apostropheBody?_eq_none alone with next | absent
    · exact .inl next
    · have kept := requote_append absent []
      rw [List.append_nil, requote_nil, List.append_nil] at kept
      exact .inr ⟨absent, kept⟩
  | case4 c rest other ih =>
    have same := doubled_of_ne other
    rcases ih with all | ⟨p, r, w, rfl, kept, alone⟩
    · exact .inl (by simp [all, same])
    · exact .inr ⟨c :: p, r, w, rfl, by simp [kept, same], alone⟩

end Repair

/-- A text is not accepted if it keeps an apostrophe, whatever `w` the pass makes of what follows
the first one that it keeps. Nor does it close a string that is open before it, if it has no
apostrophe. -/
structure Betrays (t : List Letter) : Prop where
  kept : ∀ p r w, t = p ++ .char '\x27' :: r →
    (r.head? = some (.char '\x27') ∨ .char '\x27' ∉ r ∧ w = r) →
    ¬ StringScan.outside.Accepts (p.map doubled ++ .char '\x27' :: w)
  unclosed : .char '\x27' ∉ t → ¬ StringScan.inside.Accepts t

namespace Betrays

open StringScan

theorem nil : Betrays [] where
  kept p r w split := by simp at split
  unclosed _ := by simp [Accepts, StringScan.after]

/-- A character that plays no part in strings may stand before the text. -/
theorem cons {c : Letter} {s : List Letter} (noMark : isQuote c = false) (noEscape : c ≠ '\\')
    (betrays : Betrays s) : Betrays (c :: s) where
  kept := by
    intro p r w split alone
    cases p with
    | nil =>
      cases split
      cases noMark
    | cons d p =>
      cases split
      have same : doubled c = c := doubled_of_ne (by rintro rfl; cases noMark)
      rw [List.map_cons, same, List.cons_append, accepts_outside_cons noMark]
      exact betrays.kept p r w rfl alone
  unclosed := by
    intro absent
    have leads : inside.after [c] = inside := by
      refine after_inside (List.forall_mem_singleton.mpr ⟨?_, noEscape⟩)
      rintro rfl
      cases noMark
    rw [← List.singleton_append, accepts_append leads]
    exact betrays.unclosed fun member => absent (List.mem_cons_of_mem c member)

/-- So may many of them. -/
theorem append {t s : List Letter} (plain : ∀ c ∈ t, isQuote c = false ∧ c ≠ '\\')
    (betrays : Betrays s) : Betrays (t ++ s) := by
  induction t with
  | nil => exact betrays
  | cons c t ih =>
    obtain ⟨first, plain⟩ := List.forall_mem_cons.mp plain
    exact .cons first.1 first.2 (ih plain)

/-- So may a name between double quotes. A string that is open before it ends at its first quote,
and what follows that is no layout. -/
theorem name {name : Text} {s : List Letter} (nonempty : name.toList ≠ [])
    (inName : ∀ c ∈ name.toList, isNameChar c = true) (betrays : Betrays (.char ':' :: s)) :
    Betrays (Mark.double.around name.toList ++ .char ':' :: s) where
  kept := by
    intro p r w split alone
    have plain : ∀ c ∈ name.toList, isPlain c = true := fun c member =>
      isPlain_of_isNameChar (inName c member)
    have absent : .char '\x27' ∉ Mark.double.around name.toList := by
      have inside : .char '\x27' ∉ name.toList := not_mem_of_forall plain rfl
      simp [Mark.around, inside]
    rcases List.append_eq_append_iff.mp split with ⟨p', rfl, later⟩ | ⟨rest, whole, later⟩
    · have layout : ∀ c ∈ (p'.map doubled ++ .char '\x27' :: w).head?, isLayout c = true := by
        cases p' with
        | nil => cases later
        | cons c p' =>
          cases later
          rintro d ⟨⟩
          rfl
      rw [List.map_append, map_doubled_of_not_mem absent, List.append_assoc,
        accepts_append (after_stringText (isStringText_of_plain plain)), accepts_closed_iff layout]
      exact betrays.kept p' r w later alone
    · cases rest with
      | nil => cases later
      | cons c rest =>
        cases later
        exact absurd (whole ▸ List.mem_append_right p (List.mem_cons_self ..)) absent
  unclosed := by
    intro _
    obtain ⟨c, more, split⟩ := List.exists_cons_of_ne_nil nonempty
    have outside := isLayout_eq_false (.inl (inName c (by rw [split]; exact List.mem_cons_self ..)))
    have leads : inside.after [.char '\x22', c] = stuck := by
      simp [StringScan.after, step, outside]
    have same : Mark.double.around name.toList ++ .char ':' :: s =
        [.char '\x22', c] ++ (more ++ .char '\x22' :: .char ':' :: s) := by
      simp [Mark.around, split]
    rw [same, accepts_append leads]
    exact not_accepts_stuck _

end Betrays

/-- With its apostrophes made double quotes, a text has them escaped. -/
theorem map_doubled_escapeWith {s : List Letter} (noQuote : .char '\x22' ∉ s) :
    (escapeWith '\x27' s).map doubled = escapeWith '\x22' (s.map doubled) := by
  induction s with
  | nil => rfl
  | cons c s ih =>
    rw [List.mem_cons, not_or] at noQuote
    have rest := ih noQuote.2
    by_cases escaped : c = '\x27' ∨ c = '\\'
    · have escaped' : doubled c = '\x22' ∨ doubled c = '\\' := by
        rcases escaped with rfl | rfl <;> decide
      rw [escapeWith_cons_of_escaped escaped, List.map_cons, List.map_cons, List.map_cons,
        escapeWith_cons_of_escaped escaped', rest]
      rfl
    · have same := doubled_of_ne (not_or.mp escaped).1
      have plain : ¬ (c = '\x22' ∨ c = '\\') :=
        not_or.mpr ⟨Ne.symm noQuote.1, (not_or.mp escaped).2⟩
      rw [escapeWith_cons_of_plain escaped, List.map_cons, List.map_cons, same,
        escapeWith_cons_of_plain plain, rest]

/-- An apostrophe after a backslash is no escape of strict JSON. -/
theorem stuck_of_escapeWith {s p r : List Letter} (noQuote : .char '\x22' ∉ s)
    (split : escapeWith '\x27' s = p ++ .char '\x27' :: r) :
    StringScan.inside.after (p.map doubled ++ [.char '\x27']) = .stuck := by
  induction s generalizing p with
  | nil => simp [escapeWith] at split
  | cons c s ih =>
    rw [List.mem_cons, not_or] at noQuote
    by_cases escaped : c = '\x27' ∨ c = '\\'
    · rw [escapeWith_cons_of_escaped escaped] at split
      cases p with
      | nil => cases split
      | cons d p =>
        cases p with
        | nil =>
          cases split
          rfl
        | cons e p =>
          simp only [List.cons_append, List.cons.injEq] at split
          obtain ⟨rfl, rfl, split⟩ := split
          have leads : StringScan.inside.after [.char '\\', doubled c] = .inside := by
            rcases escaped with rfl | rfl <;> decide
          have whole : (.char '\\' :: c :: p).map doubled ++ [.char '\x27'] =
              [.char '\\', doubled c] ++ (p.map doubled ++ [.char '\x27']) := rfl
          rw [whole, StringScan.after_append, leads, ih noQuote.2 split]
    · rw [escapeWith_cons_of_plain escaped] at split
      cases p with
      | nil =>
        cases split
        exact absurd (.inl rfl) escaped
      | cons d p =>
        simp only [List.cons_append, List.cons.injEq] at split
        obtain ⟨rfl, split⟩ := split
        have leads : StringScan.inside.after [doubled c] = .inside := by
          rw [doubled_of_ne (not_or.mp escaped).1]
          exact StringScan.after_inside
            (List.forall_mem_singleton.mpr ⟨Ne.symm noQuote.1, (not_or.mp escaped).2⟩)
        have whole : (c :: p).map doubled ++ [.char '\x27'] =
            [doubled c] ++ (p.map doubled ++ [.char '\x27']) := rfl
        rw [whole, StringScan.after_append, leads, ih noQuote.2 split]

theorem visible_of_isQuotable {c : Letter} (quotable : isQuotable c = true) : 0x20 ≤ c.toNat := by
  simp only [isQuotable, Bool.and_eq_true, decide_eq_true_eq] at quotable
  exact quotable.2

theorem visible_map_doubled {s : List Letter} (quotable : ∀ c ∈ s, isQuotable c = true) :
    ∀ c ∈ s.map doubled, 0x20 ≤ c.toNat := by
  intro c member
  obtain ⟨d, inside, rfl⟩ := List.mem_map.mp member
  by_cases apostrophe : d = '\x27'
  · subst apostrophe
    decide
  · rw [doubled_of_ne apostrophe]
    exact visible_of_isQuotable (quotable d inside)

theorem after_escapeWith {s : List Letter} (quotable : ∀ c ∈ s, isQuotable c = true) :
    StringScan.inside.after ((escapeWith '\x27' s).map doubled) = .inside := by
  rw [map_doubled_escapeWith (not_mem_of_forall quotable rfl)]
  exact StringScan.after_stringBody (stringBody_escapeWith (visible_map_doubled quotable))

/-- Where an element may stand in a text that has it after `b`: in `b`, just after it, or later. -/
theorem append_cons_cases {x : Letter} {b s p r : List Letter} (split : b ++ x :: s = p ++ x :: r) :
    (∃ q, b = p ++ x :: q) ∨ (p = b ∧ s = r) ∨ ∃ q, p = b ++ x :: q ∧ s = q ++ x :: r := by
  rcases List.append_eq_append_iff.mp split with ⟨q, rfl, later⟩ | ⟨q, rfl, later⟩
  · cases q with
    | nil => exact .inr (.inl ⟨List.append_nil b, List.tail_eq_of_cons_eq later⟩)
    | cons d q =>
      cases later
      exact .inr (.inr ⟨q, rfl, rfl⟩)
  · cases q with
    | nil => exact .inr (.inl ⟨(List.append_nil p).symm, (List.tail_eq_of_cons_eq later).symm⟩)
    | cons d q =>
      cases later
      exact .inl ⟨q, rfl⟩

/-- A string between apostrophes stands before what may follow a value. Whichever of its apostrophes
is kept, the text is not accepted: the opening one stands outside of strings, an escaped one is no
escape of strict JSON, and without the closing one the string goes on to the end. -/
theorem Betrays.string {str s : List Letter} (quotable : ∀ c ∈ str, isQuotable c = true)
    (ends : EndsValue s) (betrays : Betrays s) :
    Betrays (Mark.single.around (escapeWith '\x27' str) ++ s) where
  kept := by
    intro p r w split alone
    have noQuote : .char '\x22' ∉ str := not_mem_of_forall quotable rfl
    have notNext : s.head? ≠ some (.char '\x27') := by
      intro first
      cases ends '\x27' first
    cases p with
    | nil => exact StringScan.not_accepts_stuck w
    | cons c p =>
      simp only [Mark.around, List.cons_append, List.append_assoc, List.nil_append,
        List.cons.injEq] at split
      obtain ⟨rfl, split⟩ := split
      have opening : StringScan.outside.after [.char '\x22'] = .inside := rfl
      have closing : StringScan.inside.after [.char '\x22'] = .closed := rfl
      have whole : (.char '\x27' :: p).map doubled ++ .char '\x27' :: w =
          [.char '\x22'] ++ (p.map doubled ++ .char '\x27' :: w) := rfl
      rw [whole, StringScan.accepts_append opening]
      rcases append_cons_cases split with ⟨q, within⟩ | ⟨rfl, rfl⟩ | ⟨q, rfl, rfl⟩
      · -- an escaped one
        rw [List.append_cons, StringScan.accepts_append (stuck_of_escapeWith noQuote within)]
        exact StringScan.not_accepts_stuck w
      · -- the closing one, and the last of the text
        obtain ⟨absent, rfl⟩ := alone.resolve_left notNext
        have plain : StringScan.inside.after [.char '\x27'] = .inside := rfl
        rw [StringScan.accepts_append (after_escapeWith quotable), ← List.singleton_append,
          StringScan.accepts_append plain]
        exact betrays.unclosed absent
      · -- one behind the string, which is closed
        have split' :
            (escapeWith '\x27' str ++ .char '\x27' :: q).map doubled ++ .char '\x27' :: w =
            (escapeWith '\x27' str).map doubled ++
              ([.char '\x22'] ++ (q.map doubled ++ .char '\x27' :: w)) := by
          simp [doubled]
        rw [split', StringScan.accepts_append (after_escapeWith quotable),
          StringScan.accepts_append closing, StringScan.accepts_closed_iff ?_]
        · exact betrays.kept q r w rfl alone
        · cases q with
          | nil => exact absurd rfl notNext
          | cons d q =>
            have follows := ends d rfl
            have same : doubled d = d := doubled_of_ne (by rintro rfl; cases follows)
            rintro e ⟨⟩
            rw [same]
            exact isLayout_of_isFollower follows
  unclosed absent := absurd (by simp [Mark.around]) absent

/-! ## Scalars -/

namespace IsScalarText

variable {v : Json} {text : List Letter}

/-- The texts of a scalar are the names and the numbers. -/
theorem cases (scalar : IsScalarText v text) :
    (text = ("null" : Text).toList ∧ v = .null) ∨ (text = ("true" : Text).toList ∧ v = .bool true) ∨
      (text = ("false" : Text).toList ∧ v = .bool false) ∨
        ∃ n, number? text = some (n, []) ∧ v = n.unboundedValue := by
  rcases scalar with ⟨name, listed, rfl⟩ | number
  · simp only [Json.names, List.mem_cons, Prod.mk.injEq, List.not_mem_nil, or_false] at listed
    rcases listed with ⟨rfl, rfl⟩ | ⟨rfl, rfl⟩ | ⟨rfl, rfl⟩ <;> simp
  · exact .inr (.inr (.inr number))

theorem chars (scalar : IsScalarText v text) : text ≠ [] ∧ ∀ c ∈ text, isScalarChar c = true := by
  rcases scalar.cases with ⟨rfl, -⟩ | ⟨rfl, -⟩ | ⟨rfl, -⟩ | ⟨n, whole, -⟩
  · exact ⟨by decide, List.all_eq_true.mp rfl⟩
  · exact ⟨by decide, List.all_eq_true.mp rfl⟩
  · exact ⟨by decide, List.all_eq_true.mp rfl⟩
  · obtain ⟨used, split, chars, -⟩ := exists_text_of_number? whole
    rw [List.append_nil] at split
    exact ⟨List.ne_nil_of_length_pos (length_lt_of_number? whole), split ▸ chars⟩

theorem mapStrings_eq (scalar : IsScalarText v text) (f : Letter → Letter) :
    v.mapStrings f = v := by
  rcases scalar.cases with ⟨-, rfl⟩ | ⟨-, rfl⟩ | ⟨-, rfl⟩ | ⟨n, -, rfl⟩
  · rfl
  · rfl
  · rfl
  · unfold NumberText.unboundedValue
    split <;> rfl

/-- A number may be refused for its length. -/
theorem isRead (scalar : IsScalarText v text) : (Form.value v).IsRead .refused True text := by
  intro rest ends
  rcases scalar.cases with ⟨rfl, rfl⟩ | ⟨rfl, rfl⟩ | ⟨rfl, rfl⟩ | ⟨n, whole, rfl⟩
  · exact reads_scalar rfl ends
  · exact reads_scalar rfl ends
  · exact reads_scalar rfl ends
  · exact reads_number whole trivial ends

end IsScalarText

/-! ## Whole texts -/

section Quoted

variable {v : Json} {form : Form} {text : List Letter} {names : List Mark}

/-- A literal whose names have double quotes betrays itself if one of its apostrophes is kept. -/
theorem betrays_of_quoted (laid : Laid (.quoted [.double]) form text) : Betrays text := by
  rw [← List.append_nil text]
  refine laid.prepend ?_ ?_ ?_ [] .nil .nil
  · intro c s layout betrays
    refine betrays.cons (StringScan.isQuote_eq_false_of_layout layout) ?_
    rintro rfl
    cases layout
  · rintro v text s (scalar | ⟨str, rfl, quotable, rfl⟩) ends betrays
    · refine betrays.append fun c member => ?_
      have inside := scalar.chars.2 c member
      refine ⟨StringScan.isQuote_eq_false_of_isScalarChar inside, ?_⟩
      rintro rfl
      cases inside
    · exact betrays.string quotable ends
  · rintro name text s ⟨mark, among, nonempty, inName, rfl⟩ betrays
    rw [List.mem_singleton.mp among]
    exact betrays.name nonempty inName

/-- So it is not read. -/
theorem not_accepts_requote (laid : Laid (.quoted [.double]) form text)
    (kept : requote text ≠ text.map doubled) : ¬ StringScan.outside.Accepts (requote text) := by
  obtain ⟨p, r, w, split, rewritten, alone⟩ := (requote_cases text).resolve_left kept
  rw [rewritten]
  exact (betrays_of_quoted laid).kept p r w split alone

/-- With its apostrophes made double quotes, a literal is a text for the value with double quotes
for the apostrophes in its strings. -/
theorem map_doubled_laid (laid : Laid (.quoted [.double]) form text) :
    Laid .unbounded (form.mapStrings doubled) (text.map doubled) := by
  refine laid.mapStrings.rewritten List.map_nil ?_ ?_ ?_
  · intro c s layout
    have same : doubled c = c := doubled_of_ne (by rintro rfl; cases layout)
    rw [List.map_cons, same]
  · rintro w text ⟨v, scalar | ⟨s, rfl, quotable, rfl⟩, rfl⟩
    · have absent : .char '\x27' ∉ text := not_mem_of_forall scalar.chars.2 rfl
      rw [scalar.mapStrings_eq]
      refine ⟨text, .inl scalar, fun s _ => ?_⟩
      rw [List.map_append, map_doubled_of_not_mem absent]
    · have quoted : IsStringText (.ofList (s.toList.map doubled))
          (Mark.double.around (escapeWith '\x22' (s.toList.map doubled))) := by
        have literal := isStringText_escapeWith (s := .ofList (s.toList.map doubled))
        rw [Text.toList_ofList] at literal
        exact literal (visible_map_doubled quotable)
      refine ⟨_, .inr ⟨_, rfl, quoted⟩, fun rest _ => ?_⟩
      rw [← map_doubled_escapeWith (not_mem_of_forall quotable rfl)]
      simp [Mark.around, doubled]
  · rintro name text ⟨mark, among, nonempty, inName, rfl⟩
    refine ⟨_, ⟨mark, among, nonempty, inName, rfl⟩, fun s => ?_⟩
    have absent : .char '\x27' ∉ name.toList := not_mem_of_forall inName rfl
    rw [List.mem_singleton.mp among]
    simp [Mark.around, doubled, map_doubled_of_not_mem absent]

/-- The reader reads such a text, or refuses it for the length of a number. -/
theorem isReadable_unbounded : Spelling.unbounded.IsReadable .refused True where
  leaf := by
    rintro v text (scalar | ⟨s, rfl, quoted⟩)
    · obtain ⟨nonempty, chars⟩ := scalar.chars
      exact ⟨.of_isScalarChar nonempty chars, scalar.isRead⟩
    · exact Spelling.isReadable_strict.leaf (.inr ⟨s, rfl, quoted⟩)
  name named := IsShellName.isReadable (fun _ _ => .inr trivial) named

/-- As strict JSON, a literal is refused for an apostrophe, unless it has no strings. -/
theorem isReadable_quoted :
    ((Spelling.quoted names).mapStrings doubled).IsReadable .refused True where
  leaf := by
    rintro w text ⟨v, scalar | ⟨s, rfl, quotable, rfl⟩, rfl⟩
    · obtain ⟨nonempty, chars⟩ := scalar.chars
      rw [scalar.mapStrings_eq]
      exact ⟨.of_isScalarChar nonempty chars, scalar.isRead⟩
    · refine ⟨⟨'\x27', _, rfl, by decide⟩, fun rest _ => ?_⟩
      exact reads_apostrophe trivial _ _ rest
  name named := IsShellName.isReadable (fun _ _ => .inr trivial) named

theorem isTrimmed_of_quoted (laid : Laid (.quoted names) (.value v) text) : IsTrimmed text := by
  refine laid.isTrimmed ?_
  rintro v text (scalar | ⟨s, rfl, -, rfl⟩)
  · exact .of_isScalarChar scalar.chars.1 scalar.chars.2
  · exact .between (by decide) (by decide) _

/-- The repaired text is not strict JSON, or it is strict JSON for the value with double quotes for
the apostrophes in its strings. -/
theorem readUnmarked_repair_quoted (laid : Laid (.quoted names) (.value v) text) :
    readUnmarked .refused (repair text) = .ok (v.mapStrings doubled) ∨
      ∃ fault, readUnmarked .refused (repair text) = .error fault := by
  have noColon : ∀ v text, (Spelling.quoted names).leaf v text → .char ':' ∉ text := by
    rintro v text (scalar | ⟨s, rfl, quotable, rfl⟩)
    · exact not_mem_of_forall scalar.chars.2 rfl
    · have outside : .char ':' ∉ s.toList := not_mem_of_forall quotable rfl
      have absent : .char ':' ∉ escapeWith '\x27' s.toList := fun member =>
        outside (mem_of_mem_escapeWith (by decide) member)
      simp [Mark.around, absent]
  have named := quoteNames_laid noColon laid
  rw [repair]
  by_cases all : requote (quoteNames text) = (quoteNames text).map doubled
  · rw [all]
    rcases (map_doubled_laid named).readUnmarked_eq_or isReadable_unbounded with read | ⟨-, refused⟩
    · exact .inl read
    · exact .inr refused
  · exact .inr (StringScan.refused_of_not_accepts (not_accepts_requote named all) .refused)

variable {before after : List Letter}

/-- The whole argument is refused, or it decodes to that value. -/
theorem decode_of_quoted (blank : IsSpaces before) (blank' : IsSpaces after)
    (written : Laid (.quoted [.bare]) (.value v) text) :
    (∃ fault, Argument.decode (before ++ (text ++ after)) = .error fault) ∨
      ∃ repaired, Argument.decode (before ++ (text ++ after)) =
        .ok ⟨v.mapStrings doubled, repaired⟩ := by
  have trimmed := isTrimmed_of_quoted written
  have nonempty : text.isEmpty = false := List.isEmpty_eq_false_iff.mpr trimmed.1
  rw [Argument.decode, trimmed.trim_eq blank blank']
  rcases written.mapStrings.readUnmarked_eq_or isReadable_quoted with read | ⟨-, fault, refused⟩
  · exact .inr ⟨false, by simp [nonempty, read]⟩
  · rcases readUnmarked_repair_quoted written with read | ⟨fault', refused'⟩
    · exact .inr ⟨true, by simp [nonempty, refused, read]⟩
    · exact .inl ⟨⟨text, fault'⟩, by simp [nonempty, refused, refused']⟩

end Quoted

/-- The literal of a value between apostrophes, with any blanks of JSON around it, is refused, or it
decodes to the value with a double quote for each apostrophe in its strings. That is the value
itself if they hold none. -/
theorem quoted_literals_are_refused_or_doubled {v : Json} {before text after : List Letter}
    (blank : IsSpaces before) (blank' : IsSpaces after)
    (written : Laid (.quoted [.bare]) (.value v) text) :
    (∃ fault, Argument.decode (before ++ (text ++ after)) = .error fault) ∨
      ∃ w repaired, Argument.decode (before ++ (text ++ after)) = .ok ⟨w, repaired⟩ ∧
        w = v.mapStrings doubled ∧ ((∀ s ∈ v.strings, .char '\x27' ∉ s.toList) → w = v) := by
  rcases decode_of_quoted blank blank' written with refused | ⟨repaired, decoded⟩
  · exact .inl refused
  · refine .inr ⟨_, repaired, decoded, rfl, fun absent => ?_⟩
    exact mapStrings_eq_self v fun s inside c member => doubled_of_ne fun equal =>
      absent s inside (equal ▸ member)

/-- The escaped apostrophes of two strings, paired with the ones around them. -/
theorem apostrophes_of_two_strings_are_doubled :
    let σ := Spelling.quoted [.bare]
    let text := ("[\x7ba: 'x\\'y'\x7d, 'z\\'w']" : Text).toList
    let v : Json := .arr [.obj [("a", .str "x'y")], .str "z'w"]
    Laid σ (.value v) text ∧
      ((∃ fault, Argument.decode ([.char ' '] ++ (text ++ [])) = .error fault) ∨
        ∃ w repaired, Argument.decode ([.char ' '] ++ (text ++ [])) = .ok ⟨w, repaired⟩ ∧
          w = v.mapStrings doubled ∧ ((∀ s ∈ v.strings, .char '\x27' ∉ s.toList) → w = v)) := by
  intro σ text v
  have nothing : IsSpaces [] := List.forall_mem_nil _
  have space : IsSpaces [.char ' '] := List.forall_mem_singleton.mpr rfl
  have written : Laid σ (.value v) text := by
    have a : σ.name "a" [.char 'a'] := ⟨.bare, by decide, by decide, List.all_eq_true.mp rfl, rfl⟩
    have inner : σ.leaf (.str "x'y") ("'x\\'y'" : Text).toList :=
      .inr ⟨"x'y", rfl, List.all_eq_true.mp rfl, rfl⟩
    have outer : σ.leaf (.str "z'w") ("'z\\'w'" : Text).toList :=
      .inr ⟨"z'w", rfl, List.all_eq_true.mp rfl, rfl⟩
    have members := (Laid.member a space (.leaf inner)).lastMember nothing
    have object := members.obj nothing
    have items := object.nextElement nothing space ((Laid.leaf outer).lastElement nothing)
    exact items.arr nothing
  exact ⟨written, quoted_literals_are_refused_or_doubled space nothing written⟩

/-- An apostrophe in a string does come back as a double quote. -/
theorem escaped_apostrophes_are_doubled :
    let σ := Spelling.quoted [.bare]
    let text := ("\x7ba: 'x\\'y\\'z'\x7d" : Text).toList
    let v : Json := .obj [("a", .str "x'y'z")]
    let w : Json := .obj [("a", .str "x\"y\"z")]
    Laid σ (.value v) text ∧ Argument.decode text = .ok ⟨w, true⟩ ∧ w ≠ v := by
  intro σ text v w
  have nothing : IsSpaces [] := List.forall_mem_nil _
  have space : IsSpaces [.char ' '] := List.forall_mem_singleton.mpr rfl
  have a : σ.name "a" [.char 'a'] := ⟨.bare, by decide, by decide, List.all_eq_true.mp rfl, rfl⟩
  have string : σ.leaf (.str "x'y'z") ("'x\\'y\\'z'" : Text).toList :=
    .inr ⟨"x'y'z", rfl, List.all_eq_true.mp rfl, rfl⟩
  have members := (Laid.member a space (.leaf string)).lastMember nothing
  have written : Laid σ (.value v) text := members.obj nothing
  have evaluated : (Argument.decode text).toOption.map Argument.repaired = some true := by
    decide +kernel
  have decoded : Argument.decode text = .ok ⟨w, true⟩ := by
    rcases decode_of_quoted nothing nothing written with ⟨fault, refused⟩ | ⟨repaired, decoded⟩
    · rw [List.nil_append, List.append_nil] at refused
      rw [refused] at evaluated
      cases evaluated
    · rw [List.nil_append, List.append_nil] at decoded
      rw [decoded] at evaluated
      cases evaluated
      exact decoded
  have other : w ≠ v := by
    dsimp only [v, w]
    simp
  exact ⟨written, decoded, other⟩

end QueryDesk.Command
