/-!
# Letters and texts

A text is a list of letters. A letter is a character, or half of a pair of UTF-16 units without the
other half: it stands for no character, but it has a number among the code points, and a text that
was decoded from escapes can hold it. Such a text is like any other until it has to be put into
UTF-8, which has no form for it. Letters and code points are the same thing (`Letter.ofNat_toNat`,
`Letter.toNat_ofNat`).
-/

namespace QueryDesk

/-- A character, or half of a pair of UTF-16 units that stands alone. -/
inductive Letter
  | char (c : Char)
  /-- The half of a pair, by its distance from U+D800. -/
  | half (n : Fin 2048)
  deriving DecidableEq, Repr, Inhabited

namespace Letter

instance : Coe Char Letter := ⟨char⟩

/-- The code point of a letter. -/
def toNat : Letter → Nat
  | char c => c.toNat
  | half n => 0xD800 + n.val

/-- The letter of a code point. -/
def ofNat (n : Nat) : Letter :=
  if h : 0xD800 ≤ n ∧ n < 0xE000 then half ⟨n - 0xD800, by omega⟩ else char (Char.ofNat n)

@[simp] theorem toNat_char (c : Char) : (char c).toNat = c.toNat := rfl

/-- No character has the number of a half. -/
theorem toNat_char_lt_or_le (c : Char) : c.toNat < 0xD800 ∨ 0xE000 ≤ c.toNat := by
  rcases c.valid with low | ⟨high, -⟩
  · exact .inl low
  · exact .inr high

@[simp] theorem ofNat_toNat (c : Letter) : ofNat c.toNat = c := by
  cases c with
  | char c =>
    have outside := toNat_char_lt_or_le c
    rw [toNat, ofNat, dif_neg (by omega), Char.ofNat_toNat]
  | half n =>
    have bound := n.isLt
    rw [toNat, ofNat, dif_pos (by omega)]
    simp

theorem toNat_ofNat {n : Nat} (h : n < 0x110000) : (ofNat n).toNat = n := by
  rw [ofNat]
  split
  case isTrue inside => simp only [toNat]; omega
  case isFalse outside =>
    have valid : n.isValidChar := by
      rw [Nat.isValidChar]
      omega
    rw [toNat_char, Char.ofNat, dif_pos valid]
    rfl

/-- Whether the letter is a character. -/
def isCharacter : Letter → Bool
  | char _ => true
  | half _ => false

@[simp] theorem isCharacter_char (c : Char) : (char c).isCharacter = true := rfl

/-- Whether the letter is a digit of ASCII. -/
def isDigit : Letter → Bool
  | char c => c.isDigit
  | half _ => false

/-- Whether the letter is a letter or a digit of ASCII. -/
def isAlphanum : Letter → Bool
  | char c => c.isAlphanum
  | half _ => false

@[simp] theorem isDigit_char (c : Char) : (char c).isDigit = c.isDigit := rfl

@[simp] theorem isAlphanum_char (c : Char) : (char c).isAlphanum = c.isAlphanum := rfl

theorem isAlphanum_of_isDigit {c : Letter} (digit : c.isDigit = true) : c.isAlphanum = true := by
  cases c with
  | char c =>
    rw [isDigit_char] at digit
    rw [isAlphanum_char, Char.isAlphanum, digit, Bool.or_true]
  | half _ => cases digit

/-- A letter of ASCII in its small form, and any other as it is. -/
def toLower : Letter → Letter
  | char c => char c.toLower
  | half n => half n

def toUpper : Letter → Letter
  | char c => char c.toUpper
  | half n => half n

end Letter

/-- A text is made of letters. -/
structure Text where
  /-- The text of some letters. -/
  ofList ::
  /-- The letters of the text. -/
  toList : List Letter
  deriving DecidableEq, Repr, Inhabited

namespace Text

/-- A text of characters. -/
def ofString (s : String) : Text :=
  ofList (s.toList.map .char)

instance : Coe String Text := ⟨ofString⟩

instance : Append Text := ⟨fun s t => ofList (s.toList ++ t.toList)⟩

@[simp] theorem toList_ofList (s : List Letter) : (ofList s).toList = s := rfl

@[simp] theorem ofList_toList (s : Text) : ofList s.toList = s := rfl

@[simp] theorem toList_ofString (s : String) : (ofString s).toList = s.toList.map .char := rfl

@[simp] theorem toList_append (s t : Text) : (s ++ t).toList = s.toList ++ t.toList := rfl

theorem toList_inj {s t : Text} : s.toList = t.toList ↔ s = t := by
  constructor
  · intro equal
    cases s
    cases t
    exact congrArg ofList equal
  · rintro rfl
    rfl

theorem toList_eq_nil_iff {s : Text} : s.toList = [] ↔ s = "" := by
  rw [← toList_inj]
  rfl

@[simp] theorem ofString_inj {s t : String} : ofString s = ofString t ↔ s = t := by
  constructor
  · intro equal
    exact String.toList_inj.mp (List.map_inj_right (fun _ _ => Letter.char.inj) |>.mp
      (toList_inj.mpr equal))
  · rintro rfl
    rfl

/-- The number of letters. -/
def length (s : Text) : Nat :=
  s.toList.length

@[simp] theorem length_toList (s : Text) : s.toList.length = s.length := rfl

def isEmpty (s : Text) : Bool :=
  s.toList.isEmpty

/-- Whether the text has a form in UTF-8, which is made of characters only. -/
def isEncodable (s : Text) : Bool :=
  s.toList.all Letter.isCharacter

/-- Texts with a separator between them. -/
def intercalate (separator : Text) (texts : List Text) : Text :=
  ofList (separator.toList.intercalate (texts.map toList))

end Text

end QueryDesk
