import QueryDesk.Text.Hex

/-!
# Text in bytes

`Encoding.detect` finds out how a text is encoded: by its byte order mark, or by where zeros stand
among its first four bytes, which is telling for a text that starts with two ASCII characters.
`decode?` then gives the letters, or nothing if the bytes are no text in that encoding. Half of a
pair of UTF-16 units without its partner is read as the letter that it is, also where the encoding
does not allow for it; `encode` finds it again when the text is to be sent.
-/

namespace QueryDesk.Text

/-- Which byte of a number comes first. -/
inductive ByteOrder
  | greatestFirst
  | leastFirst
  deriving DecidableEq, Repr

/-- How a text is encoded in bytes. -/
inductive Encoding
  | utf8
  | utf16 (order : ByteOrder)
  | utf32 (order : ByteOrder)
  deriving DecidableEq, Repr

/-- The letter of a code point below U+110000. -/
def ofCode? (n : Nat) : Option Letter :=
  if 0x110000 ≤ n then none else some (.ofNat n)

/-! ## One encoding at a time -/

/-- What a byte after the first one of a character adds to its code point. -/
def continuation? (b : UInt8) : Option Nat :=
  if 0x80 ≤ b.toNat && b.toNat < 0xC0 then some (b.toNat - 0x80) else none

/-- The letter of two bytes. -/
def twoBytes? (a b : UInt8) : Option Letter := do
  ofCode? ((a.toNat - 0xC0) * 0x40 + (← continuation? b))

/-- The letter of three bytes, which must need them. -/
def threeBytes? (a b c : UInt8) : Option Letter := do
  let code := ((a.toNat - 0xE0) * 0x40 + (← continuation? b)) * 0x40 + (← continuation? c)
  if code < 0x800 then none else ofCode? code

/-- The letter of four bytes, which must need them. -/
def fourBytes? (a b c d : UInt8) : Option Letter := do
  let upper := ((a.toNat - 0xF0) * 0x40 + (← continuation? b)) * 0x40 + (← continuation? c)
  let code := upper * 0x40 + (← continuation? d)
  if code < 0x10000 then none else ofCode? code

/-- The letters of bytes in UTF-8. -/
def decodeUtf8? : List UInt8 → Option (List Letter)
  | [] => some []
  | a :: rest =>
    if a.toNat < 0x80 then (decodeUtf8? rest).map (Letter.ofNat a.toNat :: ·)
    else if a.toNat < 0xC2 then none
    else
      match rest with
      | [] => none
      | b :: rest =>
        if a.toNat < 0xE0 then do
          let first ← twoBytes? a b
          return first :: (← decodeUtf8? rest)
        else
          match rest with
          | [] => none
          | c :: rest =>
            if a.toNat < 0xF0 then do
              let first ← threeBytes? a b c
              return first :: (← decodeUtf8? rest)
            else
              match rest with
              | [] => none
              | d :: rest => do
                if 0xF5 ≤ a.toNat then none
                let first ← fourBytes? a b c d
                return first :: (← decodeUtf8? rest)

def unit (order : ByteOrder) (a b : UInt8) : Nat :=
  match order with
  | .greatestFirst => a.toNat * 0x100 + b.toNat
  | .leastFirst => b.toNat * 0x100 + a.toNat

/-- The UTF-16 units of bytes. -/
def units? (order : ByteOrder) : List UInt8 → Option (List Nat)
  | [] => some []
  | [_] => none
  | a :: b :: rest => (units? order rest).map (unit order a b :: ·)

/-- The letters of UTF-16 units. -/
def ofUnits? : List Nat → Option (List Letter)
  | [] => some []
  | [u] => (ofCode? u).map ([·])
  | u :: v :: rest =>
    if 0xD800 ≤ u && u < 0xDC00 && 0xDC00 ≤ v && v < 0xE000 then do
      let first ← ofCode? (0x10000 + (u - 0xD800) * 0x400 + (v - 0xDC00))
      return first :: (← ofUnits? rest)
    else do
      let first ← ofCode? u
      return first :: (← ofUnits? (v :: rest))

/-- The letters of bytes in UTF-32. -/
def decodeUtf32? (order : ByteOrder) : List UInt8 → Option (List Letter)
  | [] => some []
  | a :: b :: c :: d :: rest => do
    let code :=
      match order with
      | .greatestFirst => unit order a b * 0x10000 + unit order c d
      | .leastFirst => unit order c d * 0x10000 + unit order a b
    return (← ofCode? code) :: (← decodeUtf32? order rest)
  | _ => none

namespace Encoding

/-- The letters of bytes in a known encoding. -/
def letters? : Encoding → List UInt8 → Option (List Letter)
  | utf8, bytes => decodeUtf8? bytes
  | utf16 order, bytes => (units? order bytes).bind ofUnits?
  | utf32 order, bytes => decodeUtf32? order bytes

/-- The encoding of bytes without a byte order mark, by the zeros among the first four; of exactly
two bytes, by a zero among them. -/
def byZeros : List UInt8 → Encoding
  | 0 :: b :: _ :: _ :: _ => if b = 0 then utf32 .greatestFirst else utf16 .greatestFirst
  | _ :: 0 :: c :: d :: _ => if c = 0 && d = 0 then utf32 .leastFirst else utf16 .leastFirst
  | [0, _] => utf16 .greatestFirst
  | [_, 0] => utf16 .leastFirst
  | _ => utf8

/-- The encoding of bytes, and the bytes after the byte order mark. -/
def detect : List UInt8 → Encoding × List UInt8
  -- the mark of UTF-32 starts with that of UTF-16, so it is looked for first
  | 0x00 :: 0x00 :: 0xFE :: 0xFF :: rest => (utf32 .greatestFirst, rest)
  | 0xFF :: 0xFE :: 0x00 :: 0x00 :: rest => (utf32 .leastFirst, rest)
  | 0xFE :: 0xFF :: rest => (utf16 .greatestFirst, rest)
  | 0xFF :: 0xFE :: rest => (utf16 .leastFirst, rest)
  | 0xEF :: 0xBB :: 0xBF :: rest => (utf8, rest)
  | bytes => (byZeros bytes, bytes)

end Encoding

/-- The letters of bytes in the encoding that they show. -/
def decode? (bytes : List UInt8) : Option (List Letter) :=
  (Encoding.detect bytes).1.letters? (Encoding.detect bytes).2

/-- The bytes of characters in UTF-8. -/
def utf8Bytes (s : String) : List UInt8 :=
  s.toUTF8.toList

/-! ## The characters of a text -/

/-- Halves of pairs in a row, for which UTF-8 has no form. -/
structure LoneHalves where
  /-- The letters before the first half. -/
  offset : Nat
  first : Fin 2048
  /-- How many halves stand there. -/
  count : Nat
  deriving DecidableEq, Repr

def LoneHalves.message (found : LoneHalves) : Text :=
  let code := ofList (Hex.digits 4 (Letter.half found.first).toNat)
  let place : Text :=
    if found.count = 1 then "character '\\u" ++ code ++ "' in position " ++ toString found.offset
    else "characters in position " ++ toString found.offset ++ "-" ++
      toString (found.offset + found.count - 1)
  "'utf-8' codec can't encode " ++ place ++ ": surrogates not allowed"

/-- The characters of a text that starts `offset` letters into a whole one. -/
def charactersFrom (offset : Nat) : List Letter → Except LoneHalves (List Char)
  | [] => .ok []
  | .char c :: rest => (charactersFrom (offset + 1) rest).map (c :: ·)
  | .half n :: rest =>
    .error ⟨offset, n, 1 + (rest.takeWhile fun c => !c.isCharacter).length⟩

/-- A text as a string of characters, in which it can be sent; the first halves that stand alone
keep it from that. -/
def encode (s : Text) : Except LoneHalves String :=
  (charactersFrom 0 s.toList).map .ofList

theorem charactersFrom_map_char (offset : Nat) (characters : List Char) :
    charactersFrom offset (characters.map .char) = .ok characters := by
  induction characters generalizing offset with
  | nil => rfl
  | cons c rest ih =>
    rw [List.map_cons, charactersFrom, ih]
    rfl

theorem map_char_of_charactersFrom {offset : Nat} {letters : List Letter} {characters : List Char}
    (read : charactersFrom offset letters = .ok characters) : characters.map .char = letters := by
  induction letters generalizing offset characters with
  | nil =>
    cases read
    rfl
  | cons c rest ih =>
    cases c with
    | half n => cases read
    | char c =>
      rw [charactersFrom] at read
      cases others : charactersFrom (offset + 1) rest with
      | error found =>
        rw [others] at read
        cases read
      | ok more =>
        rw [others] at read
        cases read
        rw [List.map_cons, ih others]

/-- A text is encoded as the string that it is, if it is one. -/
theorem encode_eq_ok_iff {s : Text} {string : String} :
    s.encode = .ok string ↔ ofString string = s := by
  constructor
  · intro encoded
    rw [encode] at encoded
    cases read : charactersFrom 0 s.toList with
    | error found =>
      rw [read] at encoded
      cases encoded
    | ok characters =>
      rw [read] at encoded
      cases encoded
      rw [← toList_inj, toList_ofString, String.toList_ofList]
      exact map_char_of_charactersFrom read
  · rintro rfl
    rw [encode, toList_ofString, charactersFrom_map_char]
    exact congrArg Except.ok (String.ofList_toList)

theorem exists_map_char_of_all {letters : List Letter}
    (all : letters.all Letter.isCharacter = true) :
    ∃ characters : List Char, characters.map .char = letters := by
  induction letters with
  | nil => exact ⟨[], rfl⟩
  | cons c rest ih =>
    rw [List.all_cons, Bool.and_eq_true] at all
    obtain ⟨more, rfl⟩ := ih all.2
    cases c with
    | half n => cases all.1
    | char c => exact ⟨c :: more, rfl⟩

/-- A text has a form in UTF-8 exactly if it is a string. -/
theorem isEncodable_iff {s : Text} : s.isEncodable = true ↔ ∃ string, ofString string = s := by
  constructor
  · intro all
    obtain ⟨characters, same⟩ := exists_map_char_of_all all
    refine ⟨.ofList characters, ?_⟩
    rw [← toList_inj, toList_ofString, String.toList_ofList, same]
  · rintro ⟨string, rfl⟩
    rw [isEncodable, toList_ofString, List.all_map]
    exact List.all_eq_true.mpr fun _ _ => rfl

end QueryDesk.Text
