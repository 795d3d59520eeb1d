import QueryDesk.Json.Members
import QueryDesk.Text.Blank

/-!
# Files of settings

A file of settings holds a variable a line: a name, an equals sign and a value, which may stand
between quotes and then run over several lines. The word `export` in front of the name, blanks and
comments do not matter. A line that is none of this is skipped. A value may refer to other variables
by `$` and a name in braces, with a default after `:-`.
-/

namespace QueryDesk.Settings

/-- A variable; without an equals sign it has no value. -/
abbrev Binding := Text × Option Text

namespace File

/-- The text with a line feed at the end of every line, whatever the line ended in. -/
def unifyLines : List Letter → List Letter
  | [] => []
  | .char '\r' :: .char '\n' :: rest => .char '\n' :: unifyLines rest
  | .char '\r' :: rest => .char '\n' :: unifyLines rest
  | c :: rest => c :: unifyLines rest

/-- A blank within a line. -/
def isInner (c : Letter) : Bool :=
  Text.isBlank c && c ≠ '\n'

/-- The text after the rest of the line. -/
def nextLine (s : List Letter) : List Letter :=
  (s.dropWhile (· ≠ .char '\n')).drop 1

/-- The text after the word `export` and blanks. -/
def dropExport (s : List Letter) : List Letter :=
  let word : Text := "export"
  let rest := s.drop 6
  if word.toList.isPrefixOf s && (rest.head?.map isInner).getD false then
    rest.dropWhile isInner
  else s

/-! ## Values -/

/-- The text up to the closing quote, and what follows it. A backslash protects a quote, unless no
other quote follows. -/
def upToQuote? (quote : Letter) : List Letter → Option (List Letter × List Letter)
  | [] => none
  | [c] => if c = quote then some ([], []) else none
  | c :: d :: rest =>
    if c = quote then some ([], d :: rest)
    else if c = '\\' && d = quote then
      match upToQuote? quote rest with
      | some (text, follow) => some (c :: d :: text, follow)
      -- no other quote follows, so this one closes and the backslash is part of the text
      | none => some ([c], rest)
    else (upToQuote? quote (d :: rest)).map fun (text, follow) => (c :: text, follow)

/-- The character that a letter after a backslash stands for between double quotes. -/
def doubleEscape? : Letter → Option Letter
  | .char '\\' => some (.char '\\')
  | .char '\x27' => some (.char '\x27')
  | .char '\x22' => some (.char '\x22')
  | .char 'a' => some (.char '\x07')
  | .char 'b' => some (.char '\x08')
  | .char 'f' => some (.char '\x0c')
  | .char 'n' => some (.char '\n')
  | .char 'r' => some (.char '\r')
  | .char 't' => some (.char '\t')
  | .char 'v' => some (.char '\x0b')
  | _ => none

def singleEscape? : Letter → Option Letter
  | .char '\\' => some (.char '\\')
  | .char '\x27' => some (.char '\x27')
  | _ => none

/-- The text with its escapes resolved. -/
def unescape (escape? : Letter → Option Letter) : List Letter → List Letter
  | [] => []
  | [c] => [c]
  | c :: d :: rest =>
    match if c = '\\' then escape? d else none with
    | some e => e :: unescape escape? rest
    | none => c :: unescape escape? (d :: rest)

/-- The text before a comment, which follows a blank. -/
def dropComment : List Letter → List Letter
  | [] => []
  | c :: rest =>
    if Text.isBlank c && (rest.dropWhile Text.isBlank).head? = some (.char '#') then []
    else c :: dropComment rest

/-- A value after the equals sign and blanks, and what follows it. -/
def value? (s : List Letter) : Option (List Letter × List Letter) :=
  match s with
  | .char '\x27' :: rest =>
    (upToQuote? '\x27' rest).map fun (text, follow) => (unescape singleEscape? text, follow)
  | .char '\x22' :: rest =>
    (upToQuote? '\x22' rest).map fun (text, follow) => (unescape doubleEscape? text, follow)
  | _ =>
    let line := s.takeWhile (· ≠ .char '\n')
    some (Text.dropEnd Text.isBlank (dropComment line), s.dropWhile (· ≠ .char '\n'))

/-! ## Lines -/

/-- A name at the start of a text, bare or between apostrophes, and what follows it. -/
def name? (s : List Letter) : Option (List Letter × List Letter) :=
  let isBare (c : Letter) : Bool := c ≠ '=' && c ≠ '#' && !Text.isBlank c
  match s with
  | .char '\x27' :: rest =>
    match rest.takeWhile (· ≠ .char '\x27'), rest.dropWhile (· ≠ .char '\x27') with
    | c :: name, _ :: follow => some (c :: name, follow)
    | _, _ => none
  | _ =>
    match s.takeWhile isBare with
    | [] => none
    | name => some (name, s.dropWhile isBare)

/-- The text after a comment and the end of the line, if nothing else stands there. -/
def lineEnd? (s : List Letter) : Option (List Letter) :=
  let follow := s.dropWhile isInner
  let rest := if follow.head? = some (.char '#') then follow.dropWhile (· ≠ .char '\n') else follow
  match rest with
  | [] => some []
  | .char '\n' :: rest => some rest
  | _ => none

/-- The binding of a name, and what follows its line. -/
def bound (name : List Letter) (s : List Letter) : Option Binding × List Letter :=
  let s := s.dropWhile isInner
  let (value, follow) :=
    match s with
    | .char '=' :: rest =>
      let start := rest.dropWhile isInner
      match value? start with
      | some (text, follow) => (some (some (Text.ofList text)), follow)
      | none => (none, start)
    | _ => (some none, s)
  match value, lineEnd? follow with
  | some value, some rest => (some (.ofList name, value), rest)
  | _, _ => (none, nextLine follow)

/-- The binding at the start of a text, if there is one, and the text after its line. -/
def binding (s : List Letter) : Option Binding × List Letter :=
  let s := dropExport (s.dropWhile Text.isBlank)
  if s.head? = some (.char '#') then (none, nextLine s)
  else
    match name? s with
    | some (name, follow) => bound name follow
    | none => (none, nextLine s)

/-- The bindings of a text; each takes up a character at least, so `fuel` is its length. -/
def bindings : (fuel : Nat) → List Letter → List Binding
  | 0, _ => []
  | _, [] => []
  | fuel + 1, s =>
    let (found, rest) := binding s
    found.toList ++ bindings fuel rest

/-! ## References -/

/-- A reference to a variable after `$` and the opening brace: the name, the default, and what
follows it. -/
def reference? (s : List Letter) : Option (List Letter × List Letter × List Letter) :=
  let name := s.takeWhile (fun c => c ≠ .char '\x7d' && c ≠ .char ':')
  match s.dropWhile (fun c => c ≠ .char '\x7d' && c ≠ .char ':') with
  | .char ':' :: .char '-' :: rest =>
    match rest.dropWhile (· ≠ .char '\x7d') with
    | _ :: follow => some (name, rest.takeWhile (· ≠ .char '\x7d'), follow)
    | [] => none
  | .char '\x7d' :: follow => some (name, [], follow)
  | _ => none

/-- The text with its references resolved; `fuel` is its length. -/
def resolve (known : Members (Option Text)) : (fuel : Nat) → List Letter → List Letter
  | 0, s => s
  | _, [] => []
  | fuel + 1, c :: rest =>
    -- a dollar sign without a complete reference stands for itself
    let opens := c = '$' && rest.head? = some (.char '\x7b')
    match if opens then reference? (rest.drop 1) else none with
    | some (name, default, follow) =>
      let text :=
        match known.get? (.ofList name) with
        | some value => (value.getD "").toList
        | none => default
      text ++ resolve known fuel follow
    | none => c :: resolve known fuel rest

end File

/-- Variables of an environment, the later ones stronger. -/
def strongest (weak strong : Members (Option Text)) : Members (Option Text) :=
  strong.foldl (fun all pair => all.put pair.1 pair.2) weak

/-- The variables of an environment as bindings. -/
def environmentBindings (environment : List (Text × Text)) : Members (Option Text) :=
  environment.map fun (name, value) => (name, some value)

/-- The value of a variable of an environment. -/
def inEnvironment? (environment : List (Text × Text)) (name : Text) : Option Text :=
  (environment.find? fun pair => pair.1 == name).map Prod.snd

/-- Whether a reference looks in the file or in the environment first. -/
inductive Precedence
  | fileFirst
  | environmentFirst
  deriving DecidableEq, Repr

/-- The variables of a file. References are resolved with the variables before and those of the
environment. -/
def ofFile (precedence : Precedence) (environment : List (Text × Text)) (text : Text) :
    Members (Option Text) :=
  let s := File.unifyLines text.toList
  (File.bindings (s.length + 1) s).foldl (fun found pair =>
    let outer := environmentBindings environment
    let known :=
      match precedence with
      | .fileFirst => strongest outer found
      | .environmentFirst => strongest found outer
    let value := pair.2.map fun text =>
      Text.ofList (File.resolve known (text.length + 1) text.toList)
    found.put pair.1 value) []

end QueryDesk.Settings
