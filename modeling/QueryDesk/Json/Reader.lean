import QueryDesk.Json.Literal

/-!
# Reading JSON text

`Json.value` reads the value at the start of a text, `Json.elements` and `Json.members` the inside
of an array and of an object, and `Json.member` one member. Each returns what it read together with
the rest of the text, which is shorter; that is why reading ends. Faults are found from left to
right and the first one wins. `Json.read` reads a whole text, and of a repeated member name the last
value and the first place stay.
-/

namespace QueryDesk.Json

/-- What was read at the start of `s`, and what follows it. -/
structure Read (s : List Letter) (α : Type) where
  value : α
  rest : List Letter
  /-- Reading uses up characters. -/
  shorter : rest.length < s.length

/-- A text from its first token on. -/
def token (s : List Letter) : { t : List Letter // t.length ≤ s.length } :=
  ⟨skipSpace s, length_skipSpace_le s⟩

/-- What follows a character, if the text starts with it. -/
def expect (c : Letter) : (s : List Letter) → Option { t : List Letter // t.length < s.length }
  | [] => none
  | d :: rest => if d = c then some ⟨rest, by simp⟩ else none

/-- A string whose opening quote is behind. -/
def string (s : List Letter) : Except Stop (Read s Text) :=
  match h : pieces (s.length + 1) s with
  | .error stop => .error stop
  | .ok (items, rest) => .ok ⟨.ofList (pieceText items), rest, length_lt_of_pieces h⟩

/-- A name or a number. -/
def atom (policy : NonFinite) (s : List Letter) : Except Stop (Read s Json) :=
  match h : scalar policy s with
  | .error stop => .error stop
  | .ok (v, rest) => .ok ⟨v, rest, length_lt_of_scalar h⟩

mutual

/-- The value at the start of a text. -/
def value (policy : NonFinite) (s : List Letter) : Except Stop (Read s Json) :=
  match s with
  | .char '\x22' :: rest =>
    match string rest with
    | .error stop => .error stop
    | .ok text =>
      .ok ⟨.str text.value, text.rest, by
        have := text.shorter; simp only [List.length_cons]; omega⟩
  | .char '[' :: rest =>
    match token rest with
    | ⟨inside, bound⟩ =>
      match expect ']' inside with
      | some ⟨after, short⟩ => .ok ⟨.arr [], after, by simp only [List.length_cons]; omega⟩
      | none =>
        match elements policy inside with
        | .error stop => .error stop
        | .ok items =>
          .ok ⟨.arr items.value, items.rest, by
            have := items.shorter; simp only [List.length_cons]; omega⟩
  | .char '\x7b' :: rest =>
    match token rest with
    | ⟨inside, bound⟩ =>
      match expect '\x7d' inside with
      | some ⟨after, short⟩ => .ok ⟨.obj [], after, by simp only [List.length_cons]; omega⟩
      | none =>
        match members policy inside with
        | .error stop => .error stop
        | .ok pairs =>
          .ok ⟨.obj (Members.ofPairs pairs.value), pairs.rest, by
            have := pairs.shorter; simp only [List.length_cons]; omega⟩
  | s => atom policy s
termination_by 2 * s.length
decreasing_by all_goals simp only [List.length_cons] at *; omega

/-- The items of an array from the first one on, up to the closing bracket. -/
def elements (policy : NonFinite) (s : List Letter) : Except Stop (Read s (List Json)) :=
  match value policy s with
  | .error stop => .error stop
  | .ok first =>
    match token first.rest with
    | ⟨follow, bound⟩ =>
      match expect ']' follow with
      | some ⟨after, short⟩ => .ok ⟨[first.value], after, by have := first.shorter; omega⟩
      | none =>
        match expect ',' follow with
        | none => .error (.syntaxWith .comma follow.length)
        | some ⟨more, short⟩ =>
          match token more with
          | ⟨next, bound'⟩ =>
            match elements policy next with
            | .error stop => .error stop
            | .ok items =>
              .ok ⟨first.value :: items.value, items.rest, by
                have := first.shorter; have := items.shorter; omega⟩
termination_by 2 * s.length + 1
decreasing_by
  · omega
  · have := first.shorter
    omega

/-- A member: its name, a colon and its value. -/
def member (policy : NonFinite) (s : List Letter) : Except Stop (Read s (Text × Json)) :=
  match expect '\x22' s with
  | none => .error (.syntaxWith .memberName s.length)
  | some ⟨rest, short⟩ =>
    match string rest with
    | .error stop => .error stop
    | .ok name =>
      match token name.rest with
      | ⟨follow, bound⟩ =>
        match expect ':' follow with
        | none => .error (.syntaxWith .colon follow.length)
        | some ⟨afterColon, short'⟩ =>
          match token afterColon with
          | ⟨start, bound'⟩ =>
            match value policy start with
            | .error stop => .error stop
            | .ok v =>
              .ok ⟨(name.value, v.value), v.rest, by
                have := name.shorter; have := v.shorter; omega⟩
termination_by 2 * s.length
decreasing_by
  have := name.shorter
  omega

/-- The members of an object from the first one on, up to the closing brace. -/
def members (policy : NonFinite) (s : List Letter) : Except Stop (Read s (List (Text × Json))) :=
  match member policy s with
  | .error stop => .error stop
  | .ok first =>
    match token first.rest with
    | ⟨follow, bound⟩ =>
      match expect '\x7d' follow with
      | some ⟨after, short⟩ => .ok ⟨[first.value], after, by have := first.shorter; omega⟩
      | none =>
        match expect ',' follow with
        | none => .error (.syntaxWith .comma follow.length)
        | some ⟨more, short⟩ =>
          match token more with
          | ⟨next, bound'⟩ =>
            match members policy next with
            | .error stop => .error stop
            | .ok pairs =>
              .ok ⟨first.value :: pairs.value, pairs.rest, by
                have := first.shorter; have := pairs.shorter; omega⟩
termination_by 2 * s.length + 1
decreasing_by
  · omega
  · have := first.shorter
    omega

end

/-! ## Whole texts -/

/-- The value that a text consists of, apart from blanks around it. -/
def whole (policy : NonFinite) (s : List Letter) : Except Stop Json :=
  match value policy (skipSpace s) with
  | .error stop => .error stop
  | .ok first =>
    match skipSpace first.rest with
    | [] => .ok first.value
    | other => .error (.syntaxWith .extraData other.length)

/-- The cause of a failed reading, with its place in the text. -/
def Stop.fault (s : List Letter) : Stop → ReadFault
  | .syntaxWith fault left => .syntaxAt fault (.ofOffset s (s.length - left))
  | .tooManyDigits count => .tooManyDigits count
  | .nonFinite name => .nonFinite name

def read (policy : NonFinite) (s : List Letter) : Except ReadFault Json :=
  match whole policy s with
  | .ok value => .ok value
  | .error stop => .error (stop.fault s)

/-- Reads a text as one JSON value; a byte order mark at its start is a fault. -/
def readUnmarked (policy : NonFinite) (s : List Letter) : Except ReadFault Json :=
  match s with
  | .char '\ufeff' :: _ => .error (.syntaxAt .byteOrderMark (.ofOffset s 0))
  | _ => read policy s

/-- There is no value in an empty text. -/
theorem readUnmarked_nil (policy : NonFinite) :
    readUnmarked policy [] = .error (.syntaxAt .value ⟨0, 1, 1⟩) := by
  have none : value policy [] = .error (.syntaxWith .value 0) := by
    unfold value
    rfl
  simp [readUnmarked, read, whole, skipSpace, none, Stop.fault, Text.Place.ofOffset]

end QueryDesk.Json
