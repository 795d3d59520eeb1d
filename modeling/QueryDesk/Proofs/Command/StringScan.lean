import QueryDesk.Proofs.Command.Repair
import QueryDesk.Proofs.Command.StrictArgument

/-!
# The strings of strict JSON

`StringScan` follows the strings of strict JSON from left to right and knows nothing else of it. It
gets stuck where strict JSON cannot go on: at an apostrophe outside of strings, at an escaped
apostrophe, and at anything but the layout just behind a string. Strict JSON leads it out of all
strings (`StringScan.accepts_of_readUnmarked`), so a text that does not is never read.
-/

namespace QueryDesk.Command

open Json Repair

/-- Where a scan of text stands with respect to the strings of strict JSON. -/
inductive StringScan
  | outside
  | inside
  | escaped
  /-- Just behind a string. -/
  | closed
  /-- The text is not strict JSON, whatever follows. -/
  | stuck
  deriving DecidableEq, Repr

namespace StringScan

/-- Where the scan stands one character later. -/
def step : StringScan → Letter → StringScan
  | outside, c => if c = '\x22' then inside else if c = '\x27' then stuck else outside
  | inside, c => if c = '\x22' then closed else if c = '\\' then escaped else inside
  | escaped, c => if c = '\x27' then stuck else inside
  | closed, c => if isLayout c then outside else stuck
  | stuck, _ => stuck

/-- Where the scan stands after a text. -/
def after (scan : StringScan) (s : List Letter) : StringScan :=
  s.foldl step scan

/-- Whether the text leads the scan out of all strings. -/
def Accepts (scan : StringScan) (s : List Letter) : Prop :=
  scan.after s = outside ∨ scan.after s = closed

theorem after_cons (scan : StringScan) (c : Letter) (s : List Letter) :
    scan.after (c :: s) = (scan.step c).after s :=
  rfl

theorem after_append (scan : StringScan) (s t : List Letter) :
    scan.after (s ++ t) = (scan.after s).after t :=
  List.foldl_append ..

theorem after_stuck (s : List Letter) : stuck.after s = stuck := by
  induction s with
  | nil => rfl
  | cons c s ih => exact ih

theorem not_accepts_stuck (s : List Letter) : ¬ stuck.Accepts s := by
  simp [Accepts, after_stuck]

/-- What stands outside of strings, quotes and apostrophes apart, leads nowhere else. -/
theorem after_outside {s : List Letter} (noMark : ∀ c ∈ s, isQuote c = false) :
    outside.after s = outside := by
  induction s with
  | nil => rfl
  | cons c s ih =>
    obtain ⟨noQuote, noMark⟩ := List.forall_mem_cons.mp noMark
    simp only [isQuote, Bool.or_eq_false_iff, decide_eq_false_iff_not] at noQuote
    have next : outside.step c = outside := by simp [step, noQuote]
    rw [after_cons, next, ih noMark]

/-- What needs no escape in a string leads nowhere else in one. -/
theorem after_inside {s : List Letter} (plain : ∀ c ∈ s, c ≠ '\x22' ∧ c ≠ '\\') :
    inside.after s = inside := by
  induction s with
  | nil => rfl
  | cons c s ih =>
    obtain ⟨first, plain⟩ := List.forall_mem_cons.mp plain
    have next : inside.step c = inside := by simp [step, first]
    rw [after_cons, next, ih plain]

/-- The inside of a string leads nowhere else. -/
theorem after_stringBody {items : List Piece} {body : List Letter}
    (within : StringBody items body) :
    inside.after body = inside := by
  induction within with
  | nil => rfl
  | plain notQuote notEscape _ _ ih =>
    rw [after_cons]
    simpa [step, notQuote, notEscape] using ih
  | @escape e c items body letter _ ih =>
    have noApostrophe : e ≠ '\x27' := by
      rintro rfl
      cases letter
    rw [after_cons, after_cons]
    simpa [step, noApostrophe] using ih
  | @unit a b c d code items body digits _ ih =>
    have digit := isSome_digitValue?_of_foldlM digits
    have plain : ∀ e ∈ [a, b, c, d], e ≠ '\x22' ∧ e ≠ '\\' := fun e member =>
      ne_of_isSome_digitValue? (digit e member)
    have same : .char '\\' :: .char 'u' :: a :: b :: c :: d :: body =
        .char '\\' :: .char 'u' :: ([a, b, c, d] ++ body) := rfl
    have opening : (inside.step '\\').step 'u' = inside := rfl
    rw [same, after_cons, after_cons, opening, after_append, after_inside plain, ih]

/-- Behind a string the scan goes on as outside, if the layout goes on. -/
theorem accepts_closed_iff {s : List Letter} (ends : ∀ c ∈ s.head?, isLayout c = true) :
    closed.Accepts s ↔ outside.Accepts s := by
  cases s with
  | nil => simp [Accepts, after]
  | cons c s =>
    have layout := ends c rfl
    have noQuote : c ≠ '\x22' ∧ c ≠ '\x27' := by
      constructor <;> rintro rfl <;> cases layout
    have same : closed.step c = outside.step c := by simp [step, layout, noQuote]
    rw [Accepts, Accepts, after_cons, after_cons, same]

theorem accepts_append {scan scan' : StringScan} {s : List Letter} (leads : scan.after s = scan')
    (t : List Letter) : scan.Accepts (s ++ t) ↔ scan'.Accepts t := by
  rw [Accepts, Accepts, after_append, leads]

/-- The literal of a string leads just behind it. -/
theorem after_stringText {s : Text} {text : List Letter} (quoted : IsStringText s text) :
    outside.after text = closed := by
  obtain ⟨items, body, within, -, rfl⟩ := quoted
  have opening : outside.step '\x22' = inside := rfl
  rw [List.cons_append, after_cons, opening, after_append, after_stringBody within]
  rfl

/-- What is neither a quote nor an apostrophe may stand before what the scan accepts. -/
theorem accepts_outside_cons {c : Letter} (noMark : isQuote c = false) (s : List Letter) :
    outside.Accepts (c :: s) ↔ outside.Accepts s := by
  have leads : outside.after [c] = outside := after_outside (List.forall_mem_singleton.mpr noMark)
  exact accepts_append leads s

theorem isQuote_eq_false_of_layout {c : Letter} (layout : isLayout c = true) :
    isQuote c = false := by
  refine Bool.eq_false_iff.mpr fun mark => ?_
  rw [isLayout_eq_false (.inr mark)] at layout
  cases layout

theorem isQuote_eq_false_of_isScalarChar {c : Letter} (scalar : isScalarChar c = true) :
    isQuote c = false := by
  refine Bool.eq_false_iff.mpr fun mark => ?_
  simp only [isQuote, Bool.or_eq_true, decide_eq_true_eq] at mark
  rcases mark with rfl | rfl <;> cases scalar

/-- A scalar leads nowhere else. -/
theorem accepts_scalar {policy : NonFinite} {v : Json} {text : List Letter}
    (whole : scalar policy text = .ok (v, [])) (s : List Letter) :
    outside.Accepts (text ++ s) ↔ outside.Accepts s := by
  have leads : outside.after text = outside := after_outside fun c member =>
    isQuote_eq_false_of_isScalarChar ((isScalarChar_of_scalar whole).2 c member)
  exact accepts_append leads s

/-- Behind the literal of a string the scan goes on as before it, if the layout goes on. -/
theorem accepts_stringText {s : Text} {text t : List Letter} (quoted : IsStringText s text)
    (ends : ∀ c ∈ t.head?, isLayout c = true) :
    outside.Accepts (text ++ t) ↔ outside.Accepts t := by
  rw [accepts_append (after_stringText quoted), accepts_closed_iff ends]

theorem accepts_name {s : Text} {text : List Letter} (quoted : IsStringText s text)
    (t : List Letter) :
    outside.Accepts (text ++ .char ':' :: t) ↔ outside.Accepts (.char ':' :: t) := by
  refine accepts_stringText quoted ?_
  rintro c ⟨⟩
  rfl

/-- What may follow a value goes on with the layout. -/
theorem isLayout_of_endsValue {s : List Letter} (ends : EndsValue s) :
    ∀ c ∈ s.head?, isLayout c = true :=
  fun c first => isLayout_of_isFollower (ends c first)

/-- The scan accepts strict JSON. -/
theorem accepts_of_readUnmarked {policy : NonFinite} {s : List Letter} {v : Json}
    (read : readUnmarked policy s = .ok v) : outside.Accepts s := by
  have layout : ∀ c s, isLayout c = true → outside.Accepts s → outside.Accepts (c :: s) :=
    fun c s layout => (accepts_outside_cons (isQuote_eq_false_of_layout layout) s).mpr
  have blanks : ∀ {spaces s : List Letter}, IsSpaces spaces → outside.Accepts s →
      outside.Accepts (spaces ++ s) := IsSpaces.prepend_layout layout
  obtain ⟨before, text, after, blank, spelled, blank', rfl⟩ := spells_of_readUnmarked read
  have tail : EndsValue after ∧ outside.Accepts after := by
    rw [← List.append_nil after]
    exact ⟨.spaces blank' .nil, blanks blank' (.inl rfl)⟩
  refine blanks blank ((laid_of_spells spelled).prepend layout ?_ ?_ after tail.1 tail.2)
  · rintro v text s (whole | ⟨s', rfl, quoted⟩) ends accepted
    · exact (accepts_scalar whole s).mpr accepted
    · exact (accepts_stringText quoted (isLayout_of_endsValue ends)).mpr accepted
  · rintro name text s ⟨quoted, spaces, isText, blank, rfl⟩ accepted
    rw [List.append_assoc]
    refine (accepts_stringText isText ?_).mpr (blanks blank accepted)
    intro c first
    cases spaces with
    | nil =>
      cases first
      rfl
    | cons d spaces =>
      cases first
      exact isLayout_of_isSpace (blank c (List.mem_cons_self ..))

/-- So what the scan does not accept is refused. -/
theorem refused_of_not_accepts {s : List Letter} (stuck : ¬ outside.Accepts s)
    (policy : NonFinite) :
    ∃ fault, readUnmarked policy s = .error fault := by
  cases outcome : readUnmarked policy s with
  | error fault => exact ⟨fault, rfl⟩
  | ok v => exact absurd (accepts_of_readUnmarked outcome) stuck

end StringScan

end QueryDesk.Command
