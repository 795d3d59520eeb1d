import QueryDesk.Desk.Draft
import QueryDesk.Proofs.Command.Recognition

/-!
# Drafts that are commands already

Cleaning takes nothing off the text of a command but blanks, unless the command is itself the call
that drains a cursor (`Draft.commands_are_left_alone`).

* The text starts with `db.` and ends in the closing parenthesis, so of all that cleaning takes off
  only that call can be found in it (`Draft.clean_render_eq`).
* What stands before the closing parenthesis is the end of a balanced text, so it is the opening
  parenthesis of an empty call only if there are no arguments. The name before it is the whole name
  of the operation, since it stands behind a dot (`Draft.drain_suffix_render_iff`).
-/

namespace QueryDesk

/-- A balanced text does not end in an opening parenthesis. -/
theorem Command.BalancedText.getLast?_ne_open {s : List Letter} (balanced : BalancedText s) :
    s.getLast? ≠ some (.char '(') := by
  have closing : ∀ {c : Letter} {s : List Letter}, c ≠ '(' → s.getLast? ≠ some (.char '(') →
      (c :: s).getLast? ≠ some (.char '(') := by
    intro c s notOpen stays
    rw [List.getLast?_cons]
    cases last : s.getLast? with
    | none => simpa using notOpen
    | some d =>
      rw [last] at stays
      simpa using stays
  induction balanced with
  | nil => simp
  | @ordinary c s plain _ ih =>
    refine closing ?_ ih
    rintro rfl
    cases plain
  | group _ _ _ ih =>
    rw [List.getLast?_append_of_ne_nil _ (List.cons_ne_nil _ _)]
    exact closing (by decide) ih
  | @literal quote body s opens _ _ ih =>
    rw [List.getLast?_append_of_ne_nil _ (List.cons_ne_nil _ _)]
    refine closing ?_ ih
    rintro rfl
    cases opens

namespace Command

/-- The call that drains a cursor: `toArray` without arguments. -/
def IsDrain (m : Command) : Prop :=
  m.operation = "toArray" ∧ m.arguments = ""

instance (m : Command) : Decidable m.IsDrain :=
  inferInstanceAs (Decidable (_ ∧ _))

/-- Two names that end one text, each behind a character that no name has, are the same. -/
theorem IsName.split_last {name other : Text} (isName : IsName name) (isOther : IsName other)
    {c d : Letter} (ends : Text.isWord c = false) (ends' : Text.isWord d = false)
    {front front' : List Letter} (same : front ++ c :: name.toList = front' ++ d :: other.toList) :
    name = other := by
  have turned : ∀ {name : Text}, IsName name → IsName (.ofList name.toList.reverse) := by
    intro name isName
    refine ⟨by simpa using isName.nonempty, fun c member => isName.word c ?_⟩
    rwa [Text.toList_ofList, List.mem_reverse] at member
  have mirrored := congrArg List.reverse same
  simp only [List.reverse_append, List.reverse_cons, List.append_assoc, List.singleton_append]
    at mirrored
  have names := ((turned isName).split (turned isOther) ends ends'
    (by simpa only [Text.toList_ofList] using mirrored)).1
  exact Text.toList_inj.mp (List.reverse_injective (Text.ofList.inj names))

/-- The name of an operation stands behind a dot. -/
theorem exists_callHead_eq (target : Target) (operation : Text) :
    ∃ front, callHead target operation = front ++ .char '.' :: operation.toList ++ [.char '('] := by
  cases target with
  | database => exact ⟨("db" : Text).toList, rfl⟩
  | collection name => exact ⟨("db." : Text).toList ++ name.toList, rfl⟩

end Command

namespace Draft

open Command

theorem dropSuffix_eq_self {ending s : List Letter} (other : ¬ ending <:+ s) :
    dropSuffix ending s = s := by
  rw [dropSuffix, if_neg]
  rw [List.isSuffixOf_iff_suffix]
  exact other

/-- An ending that is there is taken off with the blanks before it. -/
theorem dropSuffix_append (s ending : List Letter) :
    dropSuffix ending (s ++ ending) = Text.dropEnd Text.isBlank s := by
  rw [dropSuffix, if_pos (List.isSuffixOf_iff_suffix.mpr (List.suffix_append _ _)),
    List.length_append, Nat.add_sub_cancel, List.take_left]

theorem dropSuffix_ne_self {ending s : List Letter} (nonempty : ending ≠ [])
    (found : ending <:+ s) :
    dropSuffix ending s ≠ s := by
  obtain ⟨front, rfl⟩ := found
  rw [dropSuffix_append]
  intro same
  obtain ⟨post, whole, -⟩ := Text.exists_eq_dropEnd_append Text.isBlank front
  rw [same] at whole
  have shorter := congrArg List.length whole
  have longer := List.length_pos_of_ne_nil nonempty
  simp only [List.length_append] at shorter
  omega

/-- The text of a command ends in a call that drains a cursor exactly if it is that call. -/
theorem drain_suffix_render_iff {m : Command} (wellFormed : m.WellFormed) :
    drain <:+ m.render ↔ m.IsDrain := by
  obtain ⟨front, head⟩ := exists_callHead_eq m.target m.operation
  have call : drain = .char '.' :: ("toArray" : Text).toList ++ [.char '('] ++ [.char ')'] := rfl
  constructor
  · rintro ⟨before, whole⟩
    rw [render_eq, call, ← List.append_assoc, ← List.append_assoc,
      ← List.append_assoc (callHead _ _)] at whole
    have inside := List.append_inj_left' whole rfl
    -- the parenthesis before the last character would be the end of the arguments
    have empty : m.arguments.toList = [] := by
      by_contra nonempty
      have last := congrArg List.getLast? inside
      rw [List.getLast?_concat, List.getLast?_append_of_ne_nil _ nonempty] at last
      exact wellFormed.arguments.getLast?_ne_open last.symm
    rw [empty, List.append_nil, head] at inside
    have isName : IsName "toArray" := .of_all (by decide) (by decide)
    have same := isName.split_last wellFormed.operation not_isWord_dot not_isWord_dot
      (List.append_inj_left' inside rfl)
    exact ⟨same.symm, Text.toList_eq_nil_iff.mp empty⟩
  · rintro ⟨operation, arguments⟩
    refine ⟨front, ?_⟩
    rw [render_eq, head, operation, arguments, call]
    simp

/-- Of the text of a command cleaning takes at most a call that drains a cursor. -/
theorem clean_render_eq (m : Command) : clean m.render = dropSuffix drain m.render := by
  obtain ⟨rest, starts⟩ := m.exists_render_eq
  have noFence : fenced? m.render = none := by
    rw [starts]
    rfl
  have noTicks : untick m.render = m.render := by
    rw [untick, m.trim_render, Text.strip_eq_self (m.bare_render (by decide) (by decide)),
      m.trim_render]
  have noMarker : dropMarker m.render = m.render := by
    rw [dropMarker, if_neg]
    rw [starts]
    intro marked
    have first : some (Letter.char 'd') = some (.char 'm') := congrArg List.head? marked
    cases first
  have noSemicolon : ¬ [.char ';'] <:+ m.render := by
    rintro ⟨front, whole⟩
    rw [render_eq, ← List.append_assoc] at whole
    have last := List.append_inj_right' whole rfl
    exact absurd last (by decide)
  rw [clean, m.trim_render, unfence, noFence]
  simp only []
  rw [noTicks, noMarker, dropSuffix_eq_self noSemicolon]

/-- Cleaning leaves the text of a command as it is exactly if that is no call that drains a
cursor. -/
theorem clean_render_eq_self_iff {m : Command} (wellFormed : m.WellFormed) :
    clean m.render = m.render ↔ ¬ m.IsDrain := by
  rw [clean_render_eq, ← drain_suffix_render_iff wellFormed]
  constructor
  · exact fun same found => dropSuffix_ne_self (by decide) found same
  · exact dropSuffix_eq_self

/-- Cleaning leaves the text of a command with arguments as it is. -/
theorem clean_render {m : Command} (wellFormed : m.WellFormed)
    (nonempty : m.arguments.toList ≠ []) : clean m.render = m.render := by
  refine (clean_render_eq_self_iff wellFormed).mpr fun ⟨_, empty⟩ => nonempty ?_
  rw [empty]
  rfl

theorem clean_trim (t : List Letter) : clean (Text.trim t) = clean t := by
  rw [clean, Text.trim_trim, ← clean]

/-! ## Main statement -/

/-- **Cleaning never damages a command.** A text that is a command loses the blanks around it, and
nothing else unless it is the call that drains a cursor. So it is the same command as before, and
cleaning it once more changes nothing. -/
theorem commands_are_left_alone {t : List Letter} {m : Command} (accepted : ofText? t = some m) :
    (clean t = Text.trim t ↔ ¬ m.IsDrain) ∧
      (¬ m.IsDrain → ofText? (clean t) = ofText? t ∧ clean (clean t) = clean t) := by
  obtain ⟨wellFormed, rendered⟩ := ofText?_eq_some_iff.mp accepted
  have left : clean t = Text.trim t ↔ ¬ m.IsDrain := by
    rw [← clean_trim, ← rendered]
    exact clean_render_eq_self_iff wellFormed
  refine ⟨left, fun other => ?_⟩
  have cleaned := left.mpr other
  refine ⟨?_, ?_⟩
  · rw [cleaned, ← rendered, wellFormed.ofText?_render, accepted]
  · rw [cleaned, clean_trim, cleaned]

/-- The operation only ends in the name of the call, which is the name of the collection. -/
theorem longer_names_are_left_alone :
    ofText? ("\t db.toArray._toArray()\n" : Text).toList =
        some ⟨.collection "toArray", "_toArray", ""⟩ ∧
      ¬ IsDrain ⟨.collection "toArray", "_toArray", ""⟩ ∧
      clean ("\t db.toArray._toArray()\n" : Text).toList = ("db.toArray._toArray()" : Text).toList ∧
      clean (clean ("\t db.toArray._toArray()\n" : Text).toList) =
        ("db.toArray._toArray()" : Text).toList := by
  have accepted : ofText? ("\t db.toArray._toArray()\n" : Text).toList =
      some ⟨.collection "toArray", "_toArray", ""⟩ := by decide
  have other : ¬ IsDrain ⟨.collection "toArray", "_toArray", ""⟩ := by decide
  obtain ⟨left, again⟩ := commands_are_left_alone accepted
  have cleaned := left.mpr other
  exact ⟨accepted, other, cleaned, (again other).2.trans cleaned⟩

end Draft

end QueryDesk
