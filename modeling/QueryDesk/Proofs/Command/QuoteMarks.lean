import QueryDesk.Proofs.Command.Apostrophe

/-!
# What the repair leaves alone

Whatever the text is, the repair puts quotes into it, takes quotes out of it and turns the ones into
the others; it does nothing else (`repair_changes_quotes_only`). All other characters stay, in their
order. Each pass has this property on its own, because it has it wherever it changes something:

* a name that is found starts the text together with its colon, but for quotes
  (`unquoted_of_name?`);
* a pair of apostrophes and what stands between them start the text, and only the pair changes.
-/

namespace QueryDesk.Command

/-- The text without its quotes of either kind. -/
def unquoted (s : List Letter) : List Letter :=
  s.filter fun c => !isQuote c

theorem unquoted_append (s t : List Letter) : unquoted (s ++ t) = unquoted s ++ unquoted t :=
  List.filter_append ..

theorem unquoted_eq_nil {s : List Letter} (quotes : ∀ c ∈ s, isQuote c = true) : unquoted s = [] :=
  List.filter_eq_nil_iff.mpr fun c member => by simp [quotes c member]

/-- A character stays in front of a text or it does not, whatever the text is. -/
theorem unquoted_cons_congr (c : Letter) {s t : List Letter} (same : unquoted s = unquoted t) :
    unquoted (c :: s) = unquoted (c :: t) := by
  rw [← List.singleton_append, unquoted_append, same, ← unquoted_append, List.singleton_append]

/-- The marks around a text are quotes. -/
theorem unquoted_around (mark : Mark) (s : List Letter) :
    unquoted (mark.around s) = unquoted s := by
  have between : ∀ quote, isQuote quote = true →
      unquoted (quote :: s ++ [quote]) = unquoted s := by
    intro quote isQuote'
    have nothing := unquoted_eq_nil (List.forall_mem_singleton.mpr isQuote')
    rw [← List.singleton_append, unquoted_append, unquoted_append, nothing, List.nil_append,
      List.append_nil]
  cases mark with
  | bare => rfl
  | single => exact between '\x27' rfl
  | double => exact between '\x22' rfl

namespace Repair

/-! ## The pass over the names -/

theorem unquoted_dropQuote (s : List Letter) : unquoted (dropQuote s) = unquoted s := by
  obtain ⟨quote, whole, quotes⟩ := exists_quote_append s
  rw [whole, unquoted_append, unquoted_eq_nil quotes, List.nil_append, ← whole]

/-- A name that is found and its colon start the text, but for quotes. -/
theorem unquoted_of_name? {s name rest : List Letter} (found : name? s = some (name, rest)) :
    unquoted s = unquoted (name ++ .char ':' :: rest) := by
  rw [name?] at found
  split at found
  case h_2 => cases found
  case h_1 c more after named colon =>
    cases found
    let start := dropQuote s
    calc unquoted s
        = unquoted start := (unquoted_dropQuote s).symm
      _ = unquoted (start.takeWhile isNameChar) ++ unquoted (start.dropWhile isNameChar) := by
          rw [← unquoted_append, List.takeWhile_append_dropWhile]
      _ = unquoted (start.takeWhile isNameChar) ++ unquoted (.char ':' :: rest) := by
          rw [← unquoted_dropQuote (start.dropWhile isNameChar), colon]
      _ = unquoted (start.takeWhile isNameChar ++ .char ':' :: rest) := (unquoted_append _ _).symm

/-- The first pass changes quotes only. -/
theorem unquoted_quoteNames (s : List Letter) : unquoted (quoteNames s) = unquoted s := by
  fun_induction quoteNames s with
  | case1 s name rest found _ ih =>
    have whole : .char '\x22' :: name ++ .char '\x22' :: .char ':' :: quoteNames rest =
        Mark.double.around name ++ .char ':' :: quoteNames rest := by simp [Mark.around]
    rw [whole, unquoted_append, unquoted_around, unquoted_cons_congr ':' ih, ← unquoted_append,
      unquoted_of_name? found]
  | case2 absent => rfl
  | case3 c rest absent ih => exact unquoted_cons_congr c ih

/-! ## The pass over the strings -/

/-- The second pass changes quotes only. -/
theorem unquoted_requote (s : List Letter) : unquoted (requote s) = unquoted s := by
  fun_induction requote s with
  | case1 => rfl
  | case2 rest body after found _ ih =>
    obtain ⟨rfl, -⟩ := eq_append_of_apostropheBody? found
    have doubled : .char '\x22' :: body ++ .char '\x22' :: requote after =
        Mark.double.around body ++ requote after := by simp [Mark.around]
    have single : .char '\x27' :: (body ++ .char '\x27' :: after) =
        Mark.single.around body ++ after := by
      simp [Mark.around]
    rw [doubled, single, unquoted_append, unquoted_append, unquoted_around, unquoted_around, ih]
  | case3 rest alone ih => exact unquoted_cons_congr _ ih
  | case4 c rest other ih => exact unquoted_cons_congr c ih

end Repair

/-- **Quotes only.** Without its quotes of either kind, a repaired text is what it was before. -/
theorem repair_changes_quotes_only (s : List Letter) :
    unquoted (Repair.repair s) = unquoted s := by
  rw [Repair.repair, Repair.unquoted_requote, Repair.unquoted_quoteNames]

end QueryDesk.Command
