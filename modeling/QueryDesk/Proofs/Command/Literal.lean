import QueryDesk.Proofs.Command.Recognition
import QueryDesk.Proofs.Command.StrictArgument

/-!
# Text data does not shape a command

A complete literal in double quotes is data: with one literal in its place, another one gives the
same command and the same cuts of its arguments (`literals_do_not_shape_commands`). Neither scan of
argument text takes anything along from a literal it has passed:

* **parentheses**: the scan goes on behind a literal as if it were not there
  (`Balance.after_append_literal`), so whether a call is recognised does not depend on what the
  literal holds (`ofText?_call`);
* **commas**: the literal stays in one piece, and where the other cuts are depends on the text
  around it only (`exists_pieces_append_literal`). Blanks are taken off outside of it
  (`Text.strip_append_append`).
-/

namespace QueryDesk.Command

/-! ## Literals -/

/-- A complete literal in double quotes. -/
def IsStringLiteral (l : List Letter) : Prop :=
  ∃ body, Quoting.Body '\x22' body ∧ l = .char '\x22' :: body ++ [.char '\x22']

/-- What spells a string in JSON is such a literal. -/
theorem isStringLiteral_of_stringBody {items : List Json.Piece} {body : List Letter}
    (inside : Json.StringBody items body) :
    IsStringLiteral (.char '\x22' :: body ++ [.char '\x22']) :=
  ⟨body, body_of_stringBody inside, rfl⟩

namespace IsStringLiteral

variable {l : List Letter}

theorem ne_nil (literal : IsStringLiteral l) : l ≠ [] := by
  obtain ⟨body, -, rfl⟩ := literal
  exact List.cons_ne_nil _ _

/-- A literal starts and ends in a quote, so there is no blank to take off. -/
theorem bare (literal : IsStringLiteral l) : Text.Bare Text.isBlank l := by
  obtain ⟨body, -, rfl⟩ := literal
  refine ⟨?_, ?_⟩
  · rintro _ ⟨rfl⟩
    decide
  · intro c last
    rw [List.getLast?_concat] at last
    cases last
    decide

theorem balanced (literal : IsStringLiteral l) : BalancedText l := by
  obtain ⟨body, inside, rfl⟩ := literal
  exact .literal (by decide) inside .nil

theorem uncut (literal : IsStringLiteral l) (depth : Nat) :
    Uncut ⟨.outside, depth⟩ ⟨.outside, depth⟩ l := by
  obtain ⟨body, inside, rfl⟩ := literal
  exact .literal (by decide) inside depth

end IsStringLiteral

/-! ## The scan for parentheses -/

namespace Balance

/-- As long as the scan goes on, it stands where a scan for literals alone would. -/
theorem quoting_after {b b' : Balance} {s : List Letter} (goes : b.after s = some b') :
    b'.quoting = b.quoting.after s := by
  induction s generalizing b with
  | nil =>
    cases goes
    rfl
  | cons c s ih =>
    rw [after_cons] at goes
    obtain ⟨next, step, goes⟩ := Option.bind_eq_some_iff.mp goes
    rw [ih goes, quoting_step step]
    rfl

/-- A literal that starts outside of literals might as well not be there. -/
theorem after_append_literal {p l : List Letter} (outside : Quoting.outside.after p = .outside)
    (literal : IsStringLiteral l) (q : List Letter) :
    level.after (p ++ l ++ q) = level.after (p ++ q) := by
  rw [List.append_assoc, after_append, after_append]
  cases scanned : level.after p with
  | none => rfl
  | some b =>
    have stands : b.quoting = .outside := (quoting_after scanned).trans outside
    obtain ⟨quoting, depth⟩ := b
    cases stands
    exact after_balancedText literal.balanced depth q

end Balance

/-! ## The scan for commas -/

namespace Nesting

theorem quoting_after (n : Nesting) (s : List Letter) :
    (n.after s).quoting = n.quoting.after s := by
  induction s generalizing n with
  | nil => rfl
  | cons c s ih =>
    show ((n.step c).after s).quoting = (n.quoting.step c).after s
    rw [ih, quoting_step]

end Nesting

/-- The pieces of a text start with the pieces that its front leaves, the last of which goes on in
the first piece of the rest. -/
theorem exists_pieces_append (n : Nesting) (s : List Letter) :
    ∃ (front : List (List Letter)) (last : List Letter), ∀ t, pieces n (s ++ t) =
      front ++ last.foldr consPiece (pieces (n.after s) t) := by
  induction s generalizing n with
  | nil => exact ⟨[], [], fun _ => rfl⟩
  | cons c s ih =>
    obtain ⟨front, last, split⟩ := ih (n.step c)
    by_cases cut : n.cuts c = true
    · refine ⟨[] :: front, last, fun t => ?_⟩
      rw [List.cons_append, pieces, if_pos cut, split]
      rfl
    · cases front with
      | nil =>
        refine ⟨[], c :: last, fun t => ?_⟩
        rw [List.cons_append, pieces, if_neg cut, split]
        rfl
      | cons first front =>
        refine ⟨(c :: first) :: front, last, fun t => ?_⟩
        rw [List.cons_append, pieces, if_neg cut, split]
        rfl

/-- A literal lies within one piece, and nothing else of the pieces depends on it. -/
theorem exists_pieces_append_literal {p : List Letter}
    (outside : Quoting.outside.after p = .outside) (q : List Letter) :
    ∃ front before after back, ∀ l, IsStringLiteral l →
      pieces .top (p ++ l ++ q) = front ++ (before ++ l ++ after) :: back := by
  obtain ⟨front, before, split⟩ := exists_pieces_append .top p
  -- where the scan stands behind `p`, and so behind every literal
  have stands : (Nesting.top.after p).quoting = .outside :=
    (Nesting.quoting_after _ p).trans outside
  generalize Nesting.top.after p = n at split stands
  obtain ⟨quoting, depth⟩ := n
  cases stands
  obtain ⟨after, back, rest⟩ := List.exists_cons_of_ne_nil (pieces_ne_nil ⟨.outside, depth⟩ q)
  refine ⟨front, before, after, back, fun l literal => ?_⟩
  rw [List.append_assoc, split, literal.uncut depth q, rest, Uncut.foldr_consPiece,
    Uncut.foldr_consPiece, List.append_assoc]

/-- The same of segments: blanks are taken off around the literal only. -/
theorem exists_segments_append_literal {p : List Letter}
    (outside : Quoting.outside.after p = .outside) (q : List Letter) :
    ∃ front before after back, ∀ l, IsStringLiteral l →
      segments (p ++ l ++ q) = front ++ (before ++ l ++ after) :: back := by
  obtain ⟨front, before, after, back, split⟩ := exists_pieces_append_literal outside q
  refine ⟨front.map Text.trim, before.dropWhile Text.isBlank, Text.dropEnd Text.isBlank after,
    back.map Text.trim, fun l literal => ?_⟩
  have visible : (p ++ l ++ q).all Text.isBlank = false := by
    obtain ⟨body, -, rfl⟩ := literal
    have quote : Text.isBlank '\x22' = false := by decide
    simp [quote]
  rw [segments, if_neg (Bool.eq_false_iff.mp visible), split l literal, List.map_append,
    List.map_cons, Text.trim, Text.strip_append_append literal.ne_nil literal.bare]

/-! ## Calls -/

/-- A call with a proper head is recognised exactly if its arguments are balanced. -/
theorem ofText?_call {target : Target} {operation : Text}
    (isTarget : ∀ name, target = .collection name → IsName name) (isOperation : IsName operation)
    (u : List Letter) :
    ofText? (callHead target operation ++ (u ++ [.char ')'])) =
      if isBalanced u then some ⟨target, operation, .ofList u⟩ else none := by
  have rendered : (⟨target, operation, .ofList u⟩ : Command).render =
      callHead target operation ++ (u ++ [.char ')']) := by
    rw [render_eq, Text.toList_ofList]
  by_cases balanced : isBalanced u = true
  · have wellFormed : (⟨target, operation, .ofList u⟩ : Command).WellFormed := by
      refine ⟨isTarget, isOperation, ?_⟩
      rw [Text.toList_ofList]
      exact isBalanced_iff.mp balanced
    rw [if_pos balanced, ← rendered]
    exact wellFormed.ofText?_render
  · rw [if_neg balanced]
    by_contra recognised
    obtain ⟨m, recognised⟩ := Option.ne_none_iff_exists'.mp recognised
    obtain ⟨wellFormed, same⟩ := ofText?_eq_some_iff.mp recognised
    rw [← rendered, trim_render, rendered, render_eq] at same
    -- the head without arguments is that of a well-formed command
    have empty : (⟨target, operation, ""⟩ : Command).WellFormed := ⟨isTarget, isOperation, .nil⟩
    obtain ⟨-, -, closed⟩ := wellFormed.head_split empty same
    have inside : m.arguments.toList = u := List.append_inj_left' closed rfl
    rw [← inside] at balanced
    exact balanced (isBalanced_iff.mpr wellFormed.arguments)

/-! ## Main statement -/

/-- **Text data does not shape a command.** Two texts that differ in one complete literal only,
in a place outside of other literals, are both commands or neither; they address the same target
with the same operation; and their arguments have the same segments, but for that literal. -/
theorem literals_do_not_shape_commands {target : Target} {operation : Text} {p l l' : List Letter}
    (isTarget : ∀ name, target = .collection name → IsName name) (isOperation : IsName operation)
    (outside : Quoting.outside.after p = .outside) (q : List Letter) (literal : IsStringLiteral l)
    (literal' : IsStringLiteral l') :
    let text := fun l => callHead target operation ++ (p ++ l ++ q ++ [.char ')'])
    ((∃ m, ofText? (text l) = some m) ↔ ∃ m, ofText? (text l') = some m) ∧
      (∀ m m', ofText? (text l) = some m → ofText? (text l') = some m' →
        m.target = m'.target ∧ m.operation = m'.operation) ∧
      ∃ front before after back,
        segments (p ++ l ++ q) = front ++ (before ++ l ++ after) :: back ∧
        segments (p ++ l' ++ q) = front ++ (before ++ l' ++ after) :: back := by
  intro text
  have same : isBalanced (p ++ l ++ q) = isBalanced (p ++ l' ++ q) := by
    rw [isBalanced, isBalanced, Balance.after_append_literal outside literal,
      Balance.after_append_literal outside literal']
  have recognised : ofText? (text l) = _ := ofText?_call isTarget isOperation (p ++ l ++ q)
  have recognised' : ofText? (text l') = _ := ofText?_call isTarget isOperation (p ++ l' ++ q)
  rw [recognised, recognised', same]
  refine ⟨?_, ?_, ?_⟩
  · by_cases balanced : isBalanced (p ++ l' ++ q) = true
    · rw [if_pos balanced, if_pos balanced]
      exact iff_of_true ⟨_, rfl⟩ ⟨_, rfl⟩
    · rw [if_neg balanced, if_neg balanced]
  · intro m m' found found'
    split at found
    case isTrue balanced =>
      rw [if_pos balanced] at found'
      cases found
      cases found'
      exact ⟨rfl, rfl⟩
    case isFalse => cases found
  · obtain ⟨front, before, after, back, split⟩ := exists_segments_append_literal outside q
    exact ⟨front, before, after, back, split l literal, split l' literal'⟩

/-- A value that would close the call and cut its arguments, behind a backslash that is escaped
itself, in place of a harmless one. -/
theorem quoted_closer_keeps_the_call :
    let p := ("\x7b\"a\": " : Text).toList
    let q := ("\x7d, \x7b\"b\": 1\x7d" : Text).toList
    let l := ("\"x\"" : Text).toList
    let l' := ("\"\\\\\\\"),\"" : Text).toList
    Quoting.outside.after p = .outside ∧ IsStringLiteral l ∧ IsStringLiteral l' ∧
      ((∃ m, ofText? (callHead (.collection "c") "updateOne" ++
          (p ++ l ++ q ++ [.char ')'])) = some m) ↔
        ∃ m, ofText? (callHead (.collection "c") "updateOne" ++
          (p ++ l' ++ q ++ [.char ')'])) = some m) ∧
      ∃ front before after back,
        segments (p ++ l ++ q) = front ++ (before ++ l ++ after) :: back ∧
        segments (p ++ l' ++ q) = front ++ (before ++ l' ++ after) :: back := by
  intro p q l l'
  have isName : ∀ name, Target.collection "c" = .collection name → IsName name := by
    rintro _ ⟨rfl⟩
    exact .of_all (by decide) (by decide)
  have isOperation : IsName "updateOne" := .of_all (by decide) (by decide)
  have outside : Quoting.outside.after p = .outside := by decide
  have literal : IsStringLiteral l := ⟨[.char 'x'], .plain (by decide) (by decide) .nil, rfl⟩
  have literal' : IsStringLiteral l' :=
    isStringLiteral_of_stringBody (.escape (e := '\\') rfl (.escape (e := '\x22') rfl
      (.plain (c := ')') (by decide) (by decide) (by decide)
        (.plain (c := ',') (by decide) (by decide) (by decide) .nil))))
  obtain ⟨recognised, -, cuts⟩ :=
    literals_do_not_shape_commands isName isOperation outside q literal literal'
  exact ⟨outside, literal, literal', recognised, cuts⟩

end QueryDesk.Command
