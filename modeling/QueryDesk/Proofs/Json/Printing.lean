import QueryDesk.Command.Argument
import QueryDesk.Json.Printer
import QueryDesk.Proofs.Json.Reading

/-!
# What is written is read again

The text of a value on the wire is strict JSON for that value, whatever its strings and names hold.
It is put together as it is written:

* a character of a string stands for itself, or it has one of the escapes that the reader knows
  (`exists_stringBody`);
* a whole number is written without leading zeros, as the reader wants it (`scalar_writeInt`);
* items and members stand between the brackets with nothing but commas between them
  (`laid_write`).

Doubles are left aside, and so are the values that the reader does not give back as they are: whole
numbers with too many digits and objects that repeat a name. `HasExactText` says so. Every other
value has a text, and an argument that is such a text, with any blanks around it, decodes to the
value without the repair (`wire_texts_are_decoded`).
-/

namespace QueryDesk.Json

/-! ## Strings -/

/-- A letter escape is read as the character that it was written for. -/
theorem escaped?_of_letterEscape? {c : Letter} {text : List Letter}
    (found : letterEscape? c = some text) : ∃ e, text = [.char '\\', e] ∧ escaped? e = some c := by
  unfold letterEscape? at found
  split at found
  all_goals cases found
  all_goals exact ⟨_, rfl, rfl⟩

theorem ne_of_letterEscape?_eq_none {c : Letter} (absent : letterEscape? c = none) :
    c ≠ '\x22' ∧ c ≠ '\\' := by
  constructor
  · rintro rfl
    cases absent
  · rintro rfl
    cases absent

/-- A unit that is no half of a pair is a character, whatever follows it. -/
theorem pieceText_unit {code : Nat} (whole : code < 0xD800) (items : List Piece) :
    pieceText (.unit code :: items) = Letter.ofNat code :: pieceText items := by
  have notHigh : isHighSurrogate code = false := by
    simp only [isHighSurrogate, Bool.and_eq_false_iff, decide_eq_false_iff_not]
    omega
  have notLow : isLowSurrogate code = false := by
    simp only [isLowSurrogate, Bool.and_eq_false_iff, decide_eq_false_iff_not]
    omega
  cases items with
  | nil => rfl
  | cons item items =>
    cases item with
    | letter c => rfl
    | unit next => simp [pieceText, notHigh]

/-- The escape of a control character is read as its number. -/
theorem value?_digits_of_control {code : Nat} (control : code < 0x20) :
    Text.Hex.value? (Text.Hex.digits 4 code) = some code := by
  have all : ∀ n < 0x20, Text.Hex.value? (Text.Hex.digits 4 n) = some n := by decide
  exact all code control

/-- What is written for the characters of a string are the items of that string. -/
theorem exists_stringBody (s : List Letter) :
    ∃ items, StringBody items (s.flatMap plainCharacter) ∧ pieceText items = s := by
  induction s with
  | nil => exact ⟨[], .nil, rfl⟩
  | cons c s ih =>
    obtain ⟨items, inside, same⟩ := ih
    rw [List.flatMap_cons, plainCharacter]
    cases letter : letterEscape? c with
    | some text =>
      obtain ⟨e, rfl, escaped⟩ := escaped?_of_letterEscape? letter
      exact ⟨.letter c :: items, .escape escaped inside, by rw [pieceText, same]⟩
    | none =>
      by_cases control : c.toNat < 0x20
      · have code := value?_digits_of_control control
        have notHalf : c.toNat < 0xD800 := Nat.lt_trans control (by decide)
        rw [if_pos control]
        refine ⟨.unit c.toNat :: items, .unit code inside, ?_⟩
        rw [pieceText_unit notHalf, Letter.ofNat_toNat, same]
      · obtain ⟨notQuote, notEscape⟩ := ne_of_letterEscape?_eq_none letter
        rw [if_neg control]
        exact ⟨.letter c :: items, .plain notQuote notEscape (Nat.le_of_not_lt control) inside,
          by rw [pieceText, same]⟩

/-- A string on the wire is the literal of that string. -/
theorem isStringText_writeString (s : Text) : IsStringText s (writeString .wire s) := by
  obtain ⟨items, inside, same⟩ := exists_stringBody s.toList
  exact ⟨items, _, inside, by rw [textOf, same, Text.ofList_toList], rfl⟩

/-! ## Whole numbers -/

theorem head?_toDigits {n : Nat} (pos : 0 < n) : (Nat.toDigits 10 n).head? ≠ some '0' := by
  induction n using Nat.strongRecOn with
  | ind n ih =>
    by_cases small : n < 10
    · have digit : ∀ m < 10, 0 < m → [m.digitChar].head? ≠ some '0' := by decide
      rw [Nat.toDigits_of_lt_base small]
      exact digit n small pos
    · have front := ih (n / 10) (by omega) (by omega)
      rw [Nat.toDigits_of_base_le (by decide) (by omega), List.head?_append_of_ne_nil _
        Nat.toDigits_ne_nil]
      exact front

/-- The digits of a number start with one that is zero only if it stands alone. -/
theorem exists_decimalDigits_eq (n : Nat) :
    ∃ c rest, decimalDigits n = .char c :: rest ∧ c.isDigit = true ∧
      (∀ d ∈ rest, d.isDigit = true) ∧ (c = '0' → rest = []) := by
  obtain ⟨c, rest, split⟩ := List.exists_cons_of_ne_nil (Nat.toDigits_ne_nil (n := n) (b := 10))
  have digits : ∀ d ∈ Nat.toDigits 10 n, d.isDigit = true := fun d member =>
    Nat.isDigit_of_mem_toDigits (by decide) (by decide) member
  have leading : c = '0' → rest = [] := by
    rintro rfl
    rcases Nat.eq_zero_or_pos n with rfl | pos
    · cases split
      rfl
    · exact absurd (by rw [split, List.head?_cons]) (head?_toDigits pos)
  rw [split] at digits
  obtain ⟨first, others⟩ := List.forall_mem_cons.mp digits
  refine ⟨c, rest.map .char, by rw [decimalDigits, split, List.map_cons], first, ?_, ?_⟩
  · exact List.forall_mem_map.mpr others
  · intro zero
    rw [leading zero, List.map_nil]

/-- The digits of a number are read as a whole: there is no leading zero but a single one. -/
theorem wholePart?_decimalDigits (n : Nat) :
    wholePart? (decimalDigits n) = some (decimalDigits n, []) := by
  obtain ⟨c, rest, split, first, digits, leading⟩ := exists_decimalDigits_eq n
  rw [split, wholePart?]
  by_cases zero : c = '0'
  · subst zero
    rw [if_pos rfl, leading rfl]
  · rw [if_neg (fun same => zero (Letter.char.inj same)), Letter.isDigit_char, if_pos first,
      List.takeWhile_eq_self_iff.mpr digits, List.dropWhile_eq_nil_iff.mpr digits]

theorem ofDigits_decimalDigits (n : Nat) : Numeral.ofDigits (decimalDigits n) = n := by
  have same := Nat.ofDigitChars_ten_toDigits (n := n)
  rw [Nat.ofDigitChars_eq_foldl] at same
  rw [decimalDigits, Numeral.ofDigits, List.foldl_map]
  exact same

/-- A whole number on the wire is a number without fraction and exponent. -/
theorem number?_writeInt (n : Int) :
    number? (writeInt n) = some (⟨n < 0, decimalDigits n.natAbs, [], none⟩, []) := by
  have size := wholePart?_decimalDigits n.natAbs
  have signed : minus (writeInt n) = (decide (n < 0), decimalDigits n.natAbs) := by
    rw [writeInt]
    split
    case isTrue negative => simp [minus, negative]
    case isFalse natural =>
      obtain ⟨c, rest, split, digit, -⟩ := exists_decimalDigits_eq n.natAbs
      have noMinus : c ≠ '-' := by
        rintro rfl
        cases digit
      rw [split]
      simp [minus, natural, noMinus]
  rw [number?, signed, size]
  rfl

/-- It is read as that number, if it has not too many digits. -/
theorem scalar_writeInt {n : Int} (short : isShort n = true)
    (policy : NonFinite) : scalar policy (writeInt n) = .ok (.int n, []) := by
  have found := number?_writeInt n
  obtain ⟨noName, noNonFinite⟩ := named?_eq_none_of_number? found
  have signed : (if n < 0 then -(n.natAbs : Int) else n.natAbs) = n := by
    split <;> omega
  have valued : (NumberText.mk (n < 0) (decimalDigits n.natAbs) [] none).value =
      .ok (.int n) := by
    simp only [NumberText.value, Nat.not_lt.mpr (isShort_iff.mp short), if_false,
      ofDigits_decimalDigits, decide_eq_true_eq, signed]
  rw [scalar, noName, noNonFinite, found]
  simp [valued, Except.map]

/-! ## Values -/

/-- No double is in the value, no object in it has two members of one name, and its whole numbers
have no more digits than the reader takes. -/
inductive HasExactText : Json → Prop
  | null : HasExactText null
  | bool (b : Bool) : HasExactText (bool b)
  | int {n : Int} (short : isShort n = true) : HasExactText (int n)
  | str (s : Text) : HasExactText (str s)
  | arr {items : List Json} (each : ∀ item ∈ items, HasExactText item) : HasExactText (arr items)
  | obj {members : Members Json} (distinct : members.Distinct)
      (each : ∀ pair ∈ members, HasExactText pair.2) : HasExactText (obj members)

theorem HasExactText.hasFewDigits {v : Json} (exactText : v.HasExactText) :
    v.hasFewDigits = true := by
  induction exactText with
  | int short => exact short
  | arr _ ih => exact everyItem_iff.mpr ih
  | obj _ _ ih => exact everyMember_iff.mpr fun pair member => ⟨rfl, ih pair member⟩
  | _ => rfl

section Strict

variable {policy : NonFinite}

/-- The items of an array are laid out by what is written for them, up to the closing bracket. -/
theorem exists_laid_items {item : Json} {rest : List Json}
    (each : ∀ v ∈ item :: rest, Laid (.strict policy) (.value v) (write .wire v)) :
    ∃ text, Laid (.strict policy) (.elements (item :: rest)) text ∧
      write .wire item ++ writeItems .wire rest = text ++ [.char ']'] := by
  have nothing : IsSpaces [] := List.forall_mem_nil _
  induction rest generalizing item with
  | nil =>
    have first := each item List.mem_cons_self
    exact ⟨_, first.lastElement nothing, by simp [writeItems]⟩
  | cons next rest ih =>
    obtain ⟨first, later⟩ := List.forall_mem_cons.mp each
    obtain ⟨text, laid, same⟩ := ih later
    refine ⟨_, first.nextElement nothing nothing laid, ?_⟩
    simp [writeItems, same]

/-- A member is laid out by its name, a colon and its value. -/
theorem laid_member {pair : Text × Json}
    (value : Laid (.strict policy) (.value pair.2) (write .wire pair.2)) :
    Laid (.strict policy) (.member pair.1 pair.2)
      (writeString .wire pair.1 ++ .char ':' :: write .wire pair.2) := by
  have nothing : IsSpaces [] := List.forall_mem_nil _
  have named := (isStringText_writeString pair.1).isName policy
  exact Laid.member named nothing value

/-- The members of an object are laid out in the same way as the items of an array. -/
theorem exists_laid_members {pair : Text × Json} {rest : List (Text × Json)}
    (each : ∀ p ∈ pair :: rest, Laid (.strict policy) (.value p.2) (write .wire p.2)) :
    ∃ text, Laid (.strict policy) (.members (pair :: rest)) text ∧
      writeString .wire pair.1 ++ .char ':' :: (write .wire pair.2 ++ writeMembers .wire rest) =
        text ++ [.char '\x7d'] := by
  have nothing : IsSpaces [] := List.forall_mem_nil _
  induction rest generalizing pair with
  | nil =>
    have first := laid_member (each pair List.mem_cons_self)
    exact ⟨_, first.lastMember nothing, by simp [writeMembers]⟩
  | cons next rest ih =>
    obtain ⟨value, later⟩ := List.forall_mem_cons.mp each
    obtain ⟨text, laid, same⟩ := ih later
    refine ⟨_, (laid_member value).nextMember nothing nothing laid, ?_⟩
    simp [writeMembers, ← same]

/-- The text of a value on the wire lays it out as strict JSON. -/
theorem laid_write {v : Json} (exactText : v.HasExactText) :
    Laid (.strict policy) (.value v) (write .wire v) := by
  have nothing : IsSpaces [] := List.forall_mem_nil _
  induction exactText with
  | null => exact .leaf (.inl rfl)
  | bool b =>
    cases b with
    | true => exact .leaf (.inl rfl)
    | false => exact .leaf (.inl rfl)
  | @int n short =>
    rw [write]
    exact .leaf (.inl (scalar_writeInt short policy))
  | str s =>
    rw [write]
    exact .leaf (.inr ⟨s, rfl, isStringText_writeString s⟩)
  | @arr items each ih =>
    cases items with
    | nil =>
      rw [write]
      exact .emptyArr nothing
    | cons item rest =>
      obtain ⟨text, laid, same⟩ := exists_laid_items ih
      rw [write, List.cons_append, same]
      exact laid.arr nothing
  | @obj members distinct each ih =>
    cases members with
    | nil =>
      rw [write]
      exact .emptyObj nothing
    | cons pair rest =>
      obtain ⟨text, laid, same⟩ := exists_laid_members ih
      have whole : write .wire (obj (pair :: rest)) = .char '\x7b' :: (text ++ [.char '\x7d']) := by
        rw [← same]
        simp [write]
      rw [whole]
      exact laid.distinct distinct nothing

end Strict

end QueryDesk.Json

/-! ## Arguments -/

namespace QueryDesk.Command

open Json

/-- **Decoding undoes writing.** A value has a text on the wire, and this text, with any blanks
around it, is strict JSON for that value, so it decodes to it and is never repaired. -/
theorem wire_texts_are_decoded {v : Json} {before after : List Letter}
    (blank : ∀ c ∈ before, Text.isBlank c = true) (blank' : ∀ c ∈ after, Text.isBlank c = true)
    (exactText : v.HasExactText) :
    ∃ text, v.wire? = some text ∧
      Argument.readStrict (before ++ (text.toList ++ after)) = .ok v ∧
      Argument.decode (before ++ (text.toList ++ after)) = .ok ⟨v, false⟩ := by
  have laid : Laid (.strict .refused) (.value v) (write .wire v) := laid_write exactText
  obtain ⟨nonempty, bare⟩ := isTrimmed_of_strict laid
  have trimmed : Text.trim (before ++ (write .wire v ++ after)) = write .wire v :=
    Text.strip_between nonempty bare blank blank'
  have strict : Argument.readStrict (before ++ (write .wire v ++ after)) = .ok v := by
    rw [Argument.readStrict, trimmed]
    exact (laid.readUnmarked_eq_or Spelling.isReadable_strict).resolve_right And.left
  exact ⟨.ofList (write .wire v), wire?_eq_some_iff.mpr ⟨exactText.hasFewDigits, rfl⟩, strict,
    Argument.decode_of_readStrict strict⟩

/-- A value that the repair would spoil: apostrophes, colons behind words, quotes, backslashes and
control characters, in names and strings. -/
theorem tricky_strings_are_decoded :
    let before : List Letter := [.char '\u00a0', .char '\n']
    let after : List Letter := [.char '\u2003']
    let v : Json := .obj [("it's", .str "\x7bname: 'x'\x7d"),
      ("a\"b\\", .arr [.int (-120), .null, .bool true, .str "\n\x01 id:'"])]
    (∀ c ∈ before, Text.isBlank c = true) ∧ (∀ c ∈ after, Text.isBlank c = true) ∧
      v.HasExactText ∧
      ∃ text, v.wire? = some text ∧
        Argument.readStrict (before ++ (text.toList ++ after)) = .ok v ∧
        Argument.decode (before ++ (text.toList ++ after)) = .ok ⟨v, false⟩ := by
  intro before after v
  have blank : ∀ c ∈ before, Text.isBlank c = true := List.all_eq_true.mp rfl
  have blank' : ∀ c ∈ after, Text.isBlank c = true := List.all_eq_true.mp rfl
  have items : ∀ item ∈ [Json.int (-120), .null, .bool true, .str "\n\x01 id:'"],
      item.HasExactText := by
    simp only [List.forall_mem_cons]
    exact ⟨.int (isShort_iff.mpr (by decide)), .null, .bool true, .str _, List.forall_mem_nil _⟩
  have exactText : v.HasExactText := by
    refine .obj (by simp [Members.Distinct, Members.names]) ?_
    simp only [List.forall_mem_cons]
    exact ⟨.str _, .arr items, List.forall_mem_nil _⟩
  exact ⟨blank, blank', exactText, wire_texts_are_decoded blank blank' exactText⟩

end QueryDesk.Command
