import QueryDesk.Text.Blank
import QueryDesk.Text.Word

/-!
# The command in a draft

A draft is what a generator answers to a query. It often wraps the command it was asked for: in a
markdown fence with or without the name of a language, in backticks, behind the answer marker of its
instructions, or with a semicolon or a call that drains a cursor at the end. `Draft.clean` takes
each of these off once, in a fixed order, and leaves everything else of the draft as it is.
-/

namespace QueryDesk.Draft

/-- The mark that opens and closes a fence. -/
def fence : List Letter :=
  [.char '\x60', .char '\x60', .char '\x60']

/-- What stands between an opening mark at the start and a closing mark at the end. -/
def fenced? (s : List Letter) : Option (List Letter) :=
  let rest := s.drop 3
  if fence.isPrefixOf s && fence.isSuffixOf rest then some (rest.take (rest.length - 3)) else none

/-- The characters in the name of a language. -/
def isTagChar (c : Letter) : Bool :=
  Text.isWord c || c = '+' || c = '-'

/-- The inside of a fence without the line that names a language. -/
def dropTag (s : List Letter) : List Letter :=
  match s.dropWhile isTagChar with
  | .char '\n' :: rest => rest
  | _ => s

/-- The inside of the fence around a text, or the text if there is none. -/
def unfence (s : List Letter) : List Letter :=
  match fenced? s with
  | some inside => Text.trim (dropTag inside)
  | none => s

/-- The text without the backticks around it. -/
def untick (s : List Letter) : List Letter :=
  Text.trim (Text.strip (· = .char '\x60') (Text.trim s))

/-- What the answers in the instructions start with. -/
def marker : List Letter :=
  ("mongo-ai:" : Text).toList

/-- The text without the answer marker, in any letter case, and the blanks behind it. -/
def dropMarker (s : List Letter) : List Letter :=
  if (s.take marker.length).map Letter.toLower = marker then
    (s.drop marker.length).dropWhile Text.isBlank
  else s

/-- The text without an ending, and the blanks before it. -/
def dropSuffix (ending s : List Letter) : List Letter :=
  if ending.isSuffixOf s then Text.dropEnd Text.isBlank (s.take (s.length - ending.length)) else s

/-- The call that turns a cursor into an array. The desk drains every cursor anyway. -/
def drain : List Letter :=
  (".toArray()" : Text).toList

/-- The command in a draft. -/
def clean (s : List Letter) : List Letter :=
  dropSuffix drain (dropSuffix [.char ';'] (dropMarker (untick (unfence (Text.trim s)))))

/-- The command in a draft; a missing draft holds none. -/
def command (draft : Option Text) : Text :=
  .ofList (clean (draft.getD "").toList)

end QueryDesk.Draft
