import QueryDesk.Text.Quoted

/-!
# Options of regular expressions

The options of a regular expression are the bits of one number. An expression can also turn options
on itself, by groups such as `(?im)` at its start; `Pattern.compiledFlags` counts them in. Extended
JSON names the options by letters, and the text of a compiled expression by names.
-/

namespace QueryDesk.Pattern

/-- Whether a number has a bit. A negative number has all high bits. -/
def hasBit (flags : Int) (bit : Nat) : Bool :=
  flags / bit % 2 == 1

/-- The bit of expressions that ignore blanks and comments. -/
def verbose : Nat := 64

/-- The bit of expressions whose classes hold ASCII characters only. -/
def ascii : Nat := 256

/-- The bit of expressions whose classes hold characters of all scripts. -/
def allScripts : Nat := 32

/-- The options that extended JSON has a letter for. -/
def letters : List (Nat × Letter) :=
  [(2, 'i'), (4, 'l'), (8, 'm'), (16, 's'), (32, 'u'), (64, 'x')]

def optionLetters (flags : Int) : Text :=
  .ofList ((letters.filter fun (bit, _) => hasBit flags bit).map Prod.snd)

/-! ## Options that an expression turns on -/

/-- The bit that a letter in a group at the start stands for. -/
def groupBit? : Letter → Option Nat
  | .char 't' => some 1
  | .char 'i' => some 2
  | .char 'L' => some 4
  | .char 'm' => some 8
  | .char 's' => some 16
  | .char 'u' => some 32
  | .char 'x' => some 64
  | .char 'a' => some 256
  | _ => none

/-- The text after the first `stop`; a backslash takes the next character along. -/
def after (stop : Letter) : List Letter → List Letter
  | [] => []
  | .char '\\' :: [] => []
  | .char '\\' :: _ :: rest => after stop rest
  | c :: rest => if c = stop then rest else after stop rest

/-- Going on after a character lengthens no text. -/
theorem length_after_le (stop : Letter) (s : List Letter) : (after stop s).length ≤ s.length := by
  fun_induction after stop s with
  | case1 => exact Nat.le_refl _
  | case2 => exact Nat.zero_le _
  | case3 _ rest ih => simp only [List.length_cons]; omega
  | case4 rest => simp
  | case5 _ rest _ ih => simp only [List.length_cons]; omega

/-- The options that are on after the groups at the start of an expression. Comments before them do
not matter, and neither do blanks where blanks are ignored. -/
def withGroups (flags : Nat) : List Letter → Nat
  | [] => flags
  | .char '(' :: .char '?' :: .char '#' :: rest => withGroups flags (after ')' rest)
  | .char '(' :: .char '?' :: rest =>
    match rest.dropWhile fun c => (groupBit? c).isSome with
    | .char ')' :: _ =>
      let names := rest.takeWhile fun c => (groupBit? c).isSome
      withGroups ((names.filterMap groupBit?).foldl (· ||| ·) flags) (rest.drop (names.length + 1))
    | _ => flags
  | c :: rest =>
    if hasBit flags verbose && (c = ' ' || (0x09 ≤ c.toNat && c.toNat ≤ 0x0D)) then
      withGroups flags rest
    else if hasBit flags verbose && c = '#' then withGroups flags (after '\n' rest)
    else flags
termination_by s => s.length
decreasing_by
  · have := length_after_le ')' rest
    simp only [List.length_cons]
    omega
  · simp only [List.length_cons, List.length_drop]
    omega
  · simp
  · have := length_after_le '\n' rest
    simp only [List.length_cons]
    omega

/-- The options of a compiled expression: those it was given and those it turns on. Its classes hold
characters of all scripts unless ASCII is asked for. -/
def compiledFlags (source : Text) (flags : Nat) : Nat :=
  let flags := withGroups flags source.toList
  if hasBit flags ascii then flags else flags ||| allScripts

/-! ## The text of a compiled expression -/

/-- The options that a text names, in its order. -/
def names : List (Nat × Text) :=
  [(1, "TEMPLATE"), (2, "IGNORECASE"), (4, "LOCALE"), (8, "MULTILINE"), (16, "DOTALL"),
    (32, "UNICODE"), (64, "VERBOSE"), (128, "DEBUG"), (256, "ASCII")]

/-- The options that a text names. That classes hold characters of all scripts goes without saying,
and bits without a name are written as a number. -/
def optionNames (flags : Nat) : List Text :=
  let told := if hasBit flags allScripts && !hasBit flags 4 && !hasBit flags ascii then
    flags - allScripts else flags
  (names.filter fun (bit, _) => hasBit told bit).map (fun (_, name) => "re." ++ name) ++
    if told / 512 = 0 then []
    else [.ofList (.char '0' :: .char 'x' :: (Nat.toDigits 16 (told / 512 * 512)).map .char)]

/-- How many characters of the quoted expression its text shows. -/
def shownLength : Nat := 200

/-- The text of a compiled expression: the start of the quoted expression, and the options. -/
def compiledText (source : Text) (flags : Nat) : Text :=
  let shown := Text.ofList ((Text.quotedChars source.toList).take shownLength)
  let options := Text.intercalate "|" (optionNames flags)
  "re.compile(" ++ shown ++ (if options.isEmpty then "" else ", " ++ options : Text) ++ ")"

end QueryDesk.Pattern
