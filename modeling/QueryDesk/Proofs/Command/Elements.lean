import QueryDesk.Proofs.Command.StrictArgument
import QueryDesk.Proofs.Json.Reading
import Mathlib.Data.List.Forall2

/-!
# Cutting an argument list and reading an array

The scan for top-level commas knows nothing of JSON: it counts open brackets of either kind and
skips literals. Yet on the inside of a strict array it cuts exactly between the elements
(`elements_are_segments`). Each piece that it leaves is an element between blanks
(`pieces_of_elements`), for no element shows it a comma; and such a piece is read, without repair,
as that element (`IsElement.readStrict_trim`).
-/

namespace QueryDesk.Command

open Json

/-- A stretch of text that spells a value, with blanks around it. -/
def IsElement (part : List Letter) (v : Json) : Prop :=
  ∃ before text after, IsSpaces before ∧ Spells .refused (.value v) text ∧ IsSpaces after ∧
    part = before ++ (text ++ after)

namespace IsElement

variable {part : List Letter} {v : Json}

theorem nestedText (element : IsElement part v) : NestedText false part := by
  obtain ⟨before, text, after, blank, spelled, blank', rfl⟩ := element
  exact (nestedText_of_isSpaces blank).append
    ((nestedText_of_spells spelled).append (nestedText_of_isSpaces blank'))

/-- What trimming leaves of the stretch is strict JSON for the value. -/
theorem readStrict_trim (element : IsElement part v) :
    Argument.readStrict (Text.trim part) = .ok v := by
  obtain ⟨before, text, after, blank, spelled, blank', rfl⟩ := element
  have trimmed := isTrimmed_of_spells spelled
  rw [Command.readStrict_trim, Argument.readStrict, trimmed.trim_eq blank blank']
  exact trimmed.readUnmarked_eq_ok_iff.mpr spelled

end IsElement

/-- The pieces of what stands between the brackets of an array are its elements. -/
theorem pieces_of_elements {items : List Json} {text spaces : List Letter} (blank : IsSpaces spaces)
    (spelled : Spells .refused (.elements items) text) :
    List.Forall₂ IsElement (pieces .top (spaces ++ text)) items := by
  -- the index has to be a variable for the induction
  generalize same : Form.elements items = form at spelled
  induction spelled generalizing items spaces with
  | @lastElement v text after first blank' =>
    cases same
    have element : IsElement (spaces ++ (text ++ after)) v :=
      ⟨spaces, text, after, blank, first, blank', rfl⟩
    rw [element.nestedText.uncut_top.pieces_eq]
    exact .cons element .nil
  | @nextElement v text after before more items first blank' blank'' _ _ ihRest =>
    cases same
    have element : IsElement (spaces ++ (text ++ after)) v :=
      ⟨spaces, text, after, blank, first, blank', rfl⟩
    have split : spaces ++ (text ++ (after ++ .char ',' :: (before ++ more))) =
        spaces ++ (text ++ after) ++ .char ',' :: (before ++ more) := by simp
    rw [split, element.nestedText.uncut_top.pieces_append_comma]
    exact .cons element (ihRest blank'' rfl)
  | _ => cases same

theorem not_blank_of_elements {items : List Json} {text : List Letter}
    (spelled : Spells .refused (.elements items) text) : text.all Text.isBlank = false := by
  -- the first element starts with a visible character
  obtain ⟨v, first, more, inside, rfl⟩ : ∃ v first more, Spells .refused (.value v) first ∧
      text = first ++ more := by
    cases spelled with
    | lastElement first => exact ⟨_, _, _, first, rfl⟩
    | nextElement first => exact ⟨_, _, _, first, rfl⟩
  obtain ⟨nonempty, bare⟩ := isTrimmed_of_spells inside
  obtain ⟨c, rest, rfl⟩ := List.exists_cons_of_ne_nil nonempty
  simp [bare.first c rfl]

/-- A text between brackets that is read as an array holds the spelling of its elements. -/
theorem exists_elements_of_readStrict {t : List Letter} {items : List Json}
    (found : Argument.readStrict (.char '[' :: t ++ [.char ']']) = .ok (.arr items))
    (nonempty : items ≠ []) :
    ∃ spaces text, IsSpaces spaces ∧ Spells .refused (.elements items) text ∧
      t = spaces ++ text := by
  have trimmed : Text.trim (.char '[' :: t ++ [.char ']']) = .char '[' :: t ++ [.char ']'] :=
    Text.strip_eq_self (.between (by decide) (by decide) t)
  rw [Argument.readStrict, trimmed] at found
  obtain ⟨before, text, after, blank, spelled, blank', whole⟩ := spells_of_readUnmarked found
  -- neither bracket is a blank, so the value takes up the whole text
  have text_eq : text = .char '[' :: t ++ [.char ']'] := by
    have trimmed' := (isTrimmed_of_spells spelled).trim_eq blank blank'
    rw [← whole, trimmed] at trimmed'
    exact trimmed'.symm
  cases spelled with
  | scalar read =>
    have chars := (isScalarChar_of_scalar read).2
    exact absurd (chars '[' (by simp [text_eq])) (by decide)
  | emptyArr => exact absurd rfl nonempty
  | @arr spaces inner _ blank inside =>
    have split := List.append_cancel_right text_eq
    exact ⟨spaces, inner, blank, inside, (List.cons.inj split).2.symm⟩

/-- **Cuts and elements agree.** If the text between two brackets is a strict array with an element
at least, the text has as many segments, and each is read as the element in its place, strictly as
well as without repair. -/
theorem elements_are_segments {t : List Letter} {items : List Json}
    (found : Argument.readStrict (.char '[' :: t ++ [.char ']']) = .ok (.arr items))
    (nonempty : items ≠ []) :
    (segments t).length = items.length ∧
      List.Forall₂ (fun segment item => Argument.readStrict segment = .ok item ∧
        Argument.decode segment = .ok ⟨item, false⟩) (segments t) items := by
  obtain ⟨spaces, text, blank, spelled, rfl⟩ := exists_elements_of_readStrict found nonempty
  have parts := pieces_of_elements blank spelled
  have visible : (spaces ++ text).all Text.isBlank = false := by
    rw [List.all_append, not_blank_of_elements spelled, Bool.and_false]
  have each : List.Forall₂ (fun segment item => Argument.readStrict segment = .ok item ∧
      Argument.decode segment = .ok ⟨item, false⟩) (segments (spaces ++ text)) items := by
    rw [segments, if_neg (by simp [visible]), List.forall₂_map_left_iff]
    refine parts.imp fun part item element => ?_
    have read := element.readStrict_trim
    exact ⟨read, Argument.decode_of_readStrict read⟩
  exact ⟨each.length_eq, each⟩

/-- An array whose strings hold a bracket and a comma. -/
theorem quoted_comma_is_no_cut :
    let t := ("[\"],\"] , true" : Text).toList
    let items : List Json := [.arr [.str "],"], .bool true]
    Argument.readStrict (.char '[' :: t ++ [.char ']']) = .ok (.arr items) ∧ items ≠ [] ∧
      (segments t).length = items.length ∧
      List.Forall₂ (fun segment item => Argument.readStrict segment = .ok item ∧
        Argument.decode segment = .ok ⟨item, false⟩) (segments t) items := by
  intro t items
  have whole : .char '[' :: t ++ [.char ']'] = ("[[\"],\"] , true]" : Text).toList := by decide
  have read : Argument.readStrict (.char '[' :: t ++ [.char ']']) = .ok (.arr items) := by
    rw [whole]
    cbv
  have nonempty : items ≠ [] := List.cons_ne_nil _ _
  exact ⟨read, nonempty, elements_are_segments read nonempty⟩

end QueryDesk.Command
