import QueryDesk.Command.Balance

/-!
# The grammar of argument text

`BalancedText` says declaratively what argument text is: ordinary characters, string literals, and
parentheses around such text again. The one-pass scan of `isBalanced` recognises exactly this
language:

* **soundness of the grammar**: a balanced text leads the scan back to where it stood, at any
  number of open parentheses (`Balance.after_balancedText`);
* **completeness**: what leads the scan from any state to the level state splits into the rest of a
  literal, and one balanced text for each open parenthesis (`Balance.completes_of_after`).

`isBalanced_iff` joins the two.
-/

namespace QueryDesk.Command

/-- A character that is neither a parenthesis nor a quote. -/
def isOrdinary (c : Letter) : Bool :=
  c ≠ '(' && c ≠ ')' && !isQuote c

/-- Argument text: ordinary characters, groups in parentheses and complete string literals. -/
inductive BalancedText : List Letter → Prop
  | nil : BalancedText []
  | ordinary {c : Letter} {s : List Letter} (plain : isOrdinary c = true) (rest : BalancedText s) :
      BalancedText (c :: s)
  | group {inner s : List Letter} (inside : BalancedText inner) (rest : BalancedText s) :
      BalancedText (.char '(' :: inner ++ .char ')' :: s)
  | literal {quote : Letter} {body s : List Letter} (opens : isQuote quote = true)
      (inside : Quoting.Body quote body) (rest : BalancedText s) :
      BalancedText (quote :: body ++ quote :: s)

theorem BalancedText.append {s t : List Letter} (first : BalancedText s) (second : BalancedText t) :
    BalancedText (s ++ t) := by
  induction first with
  | nil => exact second
  | ordinary plain _ ih => exact .ordinary plain ih
  | group inside _ _ ih =>
    rw [List.append_assoc, List.cons_append]
    exact .group inside ih
  | literal opens inside _ ih =>
    rw [List.append_assoc, List.cons_append]
    exact .literal opens inside ih

namespace Balance

theorem after_cons (b : Balance) (c : Letter) (s : List Letter) :
    b.after (c :: s) = (b.step c).bind (·.after s) := rfl

/-! ## Balanced text leads back -/

/-- An ordinary character outside literals changes nothing. -/
theorem step_ordinary {c : Letter} (plain : isOrdinary c = true) (depth : Nat) :
    (Balance.mk .outside depth).step c = some ⟨.outside, depth⟩ := by
  simp only [isOrdinary, Bool.and_eq_true, decide_eq_true_eq, Bool.not_eq_true'] at plain
  obtain ⟨⟨notOpen, notClose⟩, notQuote⟩ := plain
  simp [step, notOpen, notClose, Quoting.step, notQuote]

/-- Within a literal only the place with respect to literals changes. -/
theorem step_within {q : Quoting} (within : q ≠ .outside) (c : Letter) (depth : Nat) :
    (Balance.mk q depth).step c = some ⟨q.step c, depth⟩ := by
  cases q with
  | outside => exact absurd rfl within
  | inside quote => rfl
  | escaped quote => rfl

/-- The body of a literal leads nowhere else, and its closing quote leads outside. -/
theorem after_body {quote : Letter} {body : List Letter} (notEscape : quote ≠ '\\')
    (inside : Quoting.Body quote body) (depth : Nat) (s : List Letter) :
    (Balance.mk (.inside quote) depth).after (body ++ quote :: s) =
      (Balance.mk .outside depth).after s := by
  induction inside with
  | nil =>
    rw [List.nil_append, after_cons, step_within (by simp)]
    simp [Quoting.step, notEscape]
  | plain notQuote notEscape' _ ih =>
    rw [List.cons_append, after_cons, step_within (by simp)]
    simpa [Quoting.step, notQuote, notEscape'] using ih
  | escape c _ ih =>
    rw [List.cons_append, List.cons_append, after_cons, step_within (by simp)]
    simp only [Quoting.step, if_true, Option.bind_some]
    rw [after_cons, step_within (by simp)]
    simpa [Quoting.step] using ih

theorem ne_backslash_of_isQuote {quote : Letter} (opens : isQuote quote = true) : quote ≠ '\\' := by
  rintro rfl
  simp [isQuote] at opens

theorem step_quote {quote : Letter} (opens : isQuote quote = true) (depth : Nat) :
    (Balance.mk .outside depth).step quote = some ⟨.inside quote, depth⟩ := by
  simp only [isQuote, Bool.or_eq_true, decide_eq_true_eq] at opens
  rcases opens with rfl | rfl <;> rfl

/-- A balanced text leads the scan back to where it stood. -/
theorem after_balancedText {s : List Letter} (balanced : BalancedText s) (depth : Nat)
    (t : List Letter) :
    (Balance.mk .outside depth).after (s ++ t) = (Balance.mk .outside depth).after t := by
  induction balanced generalizing depth t with
  | nil => rfl
  | ordinary plain _ ih =>
    rw [List.cons_append, after_cons, step_ordinary plain, Option.bind_some, ih]
  | @group inner s inside rest ihInner ihRest =>
    -- one level up through the inside, and down again at the parenthesis that closes it
    have opened : (Balance.mk .outside depth).step '(' = some ⟨.outside, depth + 1⟩ := rfl
    have closed : (Balance.mk .outside (depth + 1)).step ')' = some ⟨.outside, depth⟩ := rfl
    rw [List.append_assoc, List.cons_append, after_cons, opened, Option.bind_some, ihInner,
      List.cons_append, after_cons, closed, Option.bind_some, ihRest]
  | @literal quote body s opens inside _ ih =>
    rw [List.append_assoc, List.cons_append, after_cons, step_quote opens, Option.bind_some,
      List.cons_append, after_body (ne_backslash_of_isQuote opens) inside, ih]

/-! ## What leads to the level state -/

/-- Text that closes a number of open parentheses: a balanced text before each of the closing
ones, and one after the last. -/
def Closes : Nat → List Letter → Prop
  | 0, s => BalancedText s
  | depth + 1, s =>
    ∃ inner rest, s = inner ++ .char ')' :: rest ∧ BalancedText inner ∧ Closes depth rest

/-- Text that completes what a scan has begun. -/
def Completes (b : Balance) (s : List Letter) : Prop :=
  match b.quoting with
  | .outside => Closes b.depth s
  | .inside quote =>
    ∃ body rest, s = body ++ quote :: rest ∧ Quoting.Body quote body ∧ Closes b.depth rest
  | .escaped quote =>
    ∃ c body rest, s = c :: body ++ quote :: rest ∧ Quoting.Body quote body ∧ Closes b.depth rest

/-- What may stand before every balanced text may stand before every text that closes. -/
theorem Closes.prepend {p : List Letter} (before : ∀ t, BalancedText t → BalancedText (p ++ t))
    {depth : Nat} {s : List Letter} (closes : Closes depth s) : Closes depth (p ++ s) := by
  cases depth with
  | zero => exact before s closes
  | succ depth =>
    obtain ⟨inner, rest, rfl, inside, closes⟩ := closes
    exact ⟨p ++ inner, rest, by rw [List.append_assoc], before inner inside, closes⟩

/-- An opening parenthesis takes one closing parenthesis for itself. -/
theorem Closes.group {depth : Nat} {s : List Letter} (closes : Closes (depth + 1) s) :
    Closes depth (.char '(' :: s) := by
  obtain ⟨inner, rest, rfl, inside, closes⟩ := closes
  -- the first closing parenthesis belongs to the one that opens here
  have before : ∀ t, BalancedText t → BalancedText ((.char '(' :: inner ++ [.char ')']) ++ t) := by
    intro t balanced
    have grouped := BalancedText.group inside balanced
    rw [List.append_assoc]
    exact grouped
  have prepended := Closes.prepend before closes
  rw [List.append_assoc] at prepended
  exact prepended

/-- A complete literal may stand before every text that closes. -/
theorem Closes.literal {depth : Nat} {quote : Letter} {body s : List Letter}
    (opens : isQuote quote = true) (inside : Quoting.Body quote body) (closes : Closes depth s) :
    Closes depth (quote :: body ++ quote :: s) := by
  have before : ∀ t, BalancedText t → BalancedText ((quote :: body ++ [quote]) ++ t) := by
    intro t balanced
    have literal := BalancedText.literal opens inside balanced
    rw [List.append_assoc]
    exact literal
  have prepended := Closes.prepend before closes
  rw [List.append_assoc] at prepended
  exact prepended

/-- What completes the scan one character later completes it together with that character. -/
theorem Completes.of_step {b b' : Balance} {c : Letter} {s : List Letter}
    (next : b.step c = some b')
    (completes : Completes b' s) : Completes b (c :: s) := by
  obtain ⟨quoting, depth⟩ := b
  cases quoting with
  | outside =>
    by_cases isOpen : c = '('
    · subst isOpen
      cases next
      exact Closes.group completes
    by_cases isClose : c = ')'
    · subst isClose
      cases depth with
      | zero => cases next -- nothing is open, so the scan fails
      | succ depth =>
        cases next
        exact ⟨[], s, rfl, .nil, completes⟩
    by_cases opens : isQuote c = true
    · rw [step_quote opens] at next
      cases next
      obtain ⟨body, rest, rfl, inside, closes⟩ := completes
      exact Closes.literal opens inside closes
    · have plain : isOrdinary c = true := by simp [isOrdinary, isOpen, isClose, opens]
      rw [step_ordinary plain] at next
      cases next
      exact Closes.prepend (p := [c]) (fun _ balanced => .ordinary plain balanced) completes
  | inside quote =>
    rw [step_within (by simp)] at next
    cases next
    by_cases escapes : c = '\\'
    · subst escapes
      simp only [Quoting.step, if_true] at completes
      obtain ⟨d, body, rest, rfl, inside, closes⟩ := completes
      exact ⟨.char '\\' :: d :: body, rest, rfl, .escape d inside, closes⟩
    by_cases ends : c = quote
    · subst ends
      simp only [Quoting.step, if_neg escapes, if_true] at completes
      exact ⟨[], s, rfl, .nil, completes⟩
    · simp only [Quoting.step, if_neg escapes, if_neg ends] at completes
      obtain ⟨body, rest, rfl, inside, closes⟩ := completes
      exact ⟨c :: body, rest, rfl, .plain ends escapes inside, closes⟩
  | escaped quote =>
    rw [step_within (by simp)] at next
    cases next
    obtain ⟨body, rest, rfl, inside, closes⟩ := completes
    exact ⟨c, body, rest, rfl, inside, closes⟩

/-- What leads a scan to the level state completes it. -/
theorem completes_of_after {b : Balance} {s : List Letter} (ends : b.after s = some level) :
    Completes b s := by
  -- from the end of the text: at each character the scan may stand in any state
  induction s generalizing b with
  | nil =>
    cases ends
    exact BalancedText.nil
  | cons c s ih =>
    rw [after_cons] at ends
    obtain ⟨b', next, ends⟩ := Option.bind_eq_some_iff.mp ends
    exact Completes.of_step next (ih ends)

end Balance

/-- The scan accepts exactly the texts of the grammar. -/
theorem isBalanced_iff {s : List Letter} : isBalanced s = true ↔ BalancedText s := by
  rw [isBalanced, decide_eq_true_eq]
  constructor
  · exact Balance.completes_of_after
  · intro balanced
    have back := Balance.after_balancedText balanced 0 []
    rw [List.append_nil] at back
    exact back

end QueryDesk.Command
