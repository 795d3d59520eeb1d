import QueryDesk.Completion.Basic
import QueryDesk.Number.Numeral
import QueryDesk.Schema.Fault
import QueryDesk.Settings.File

/-!
# Settings

The settings are read from the variables of the environment, and where a variable is not set there,
from a file. Case does not matter in their names. Three of them have to be given; two of these must
not be blank. All faults are reported together, in the order of the settings.
-/

namespace QueryDesk

/-- The settings of the service. -/
structure Settings where
  uri : Text
  database : Text
  key : Text
  model : Text
  base : Text
  /-- How many seconds a completion may take. -/
  timeout : Double
  host : Text
  portNumber : Int
  /-- The origins that browsers may call from, separated by commas. -/
  origins : Text
  /-- How many documents are found at most. -/
  limit : Nat
  level : Text

namespace Settings

/-- The variables that hold settings, in the order of the settings. -/
def variableNames : List Text :=
  ["MONGODB_URI", "DB_NAME", "LLM_API_KEY", "LLM_MODEL", "LLM_API_BASE", "LLM_TIMEOUT_S", "HOST",
    "PORT", "CORS_ALLOW_ORIGINS", "FIND_LIMIT", "LOG_LEVEL"]

/-! ## Where a setting comes from -/

/-- A name in small letters, as far as they are ASCII. -/
def foldCase (name : Text) : List Letter :=
  name.toList.map Letter.toLower

/-- The last variable of a name in any letter case. -/
def lookup? (bindings : Members (Option Text)) (name : Text) : Option Text :=
  ((bindings.filter fun pair => foldCase pair.1 = foldCase name).getLast?).bind Prod.snd

/-- The variables that settings are read from. -/
structure Source where
  environment : List (Text × Text) := []
  /-- The text of the file, if there is one. -/
  file : Option Text := none

/-- The variables of the file. -/
def Source.fileBindings (source : Source) : Members (Option Text) :=
  (source.file.map (ofFile .fileFirst source.environment)).getD []

/-- The value of a variable: that of the environment, else that of the file. -/
def Source.value? (source : Source) (name : Text) : Option Text :=
  lookup? (environmentBindings source.environment) name <|> lookup? source.fileBindings name

/-! ## Reading one setting -/

/-- A text without the white space around it, in which a number is looked for. -/
def numberText (text : Text) : List Letter :=
  Text.strip Text.isWhite text.toList

/-- A text that has to be given. -/
def required (source : Source) (name : Text) : Except Schema.Fault Text :=
  match source.value? name with
  | some text => .ok text
  | none => .error ⟨name, .missing⟩

/-- A text that has to be given and not to be blank, without blanks around it. -/
def filled (source : Source) (name : Text) : Except Schema.Fault Text :=
  match required source name with
  | .error fault => .error fault
  | .ok text => if Text.isBlankText text then .error ⟨name, .blank⟩ else .ok (Text.trimmed text)

/-- A text with a default. -/
def text (source : Source) (name default : Text) : Text :=
  (source.value? name).getD default

def whole (source : Source) (name : Text) (default : Int) : Except Schema.Fault Int :=
  match source.value? name with
  | none => .ok default
  | some text =>
    match Numeral.wholeNumber? (numberText text) with
    | some n => .ok n
    | none => .error ⟨name, .notWhole⟩

def number (source : Source) (name : Text) (default : Double) : Except Schema.Fault Double :=
  match source.value? name with
  | none => .ok default
  | some text =>
    match Numeral.ofText? (numberText text) with
    | some n => .ok n.toDouble
    | none => .error ⟨name, .notNumber⟩

/-- How many documents are found at most; below one, every document would be hidden. -/
def findLimit (source : Source) : Except Schema.Fault Nat :=
  match whole source "FIND_LIMIT" 5 with
  | .error fault => .error fault
  | .ok n => if n < 1 then .error ⟨"FIND_LIMIT", .limitBelowOne⟩ else .ok n.toNat

/-! ## All settings -/

/-- The settings, or everything that is wrong with them. -/
def read (source : Source) : Except (List Schema.Fault) Settings :=
  let uri := required source "MONGODB_URI"
  let database := filled source "DB_NAME"
  let key := filled source "LLM_API_KEY"
  let timeout := number source "LLM_TIMEOUT_S" (.ofInt 30)
  let portNumber := whole source "PORT" 3000
  let limit := findLimit source
  match uri, database, key, timeout, portNumber, limit with
  | .ok uri, .ok database, .ok key, .ok timeout, .ok portNumber, .ok limit =>
    .ok { uri, database, key, timeout, portNumber, limit
          model := text source "LLM_MODEL" Completion.defaultModel
          base := text source "LLM_API_BASE" Completion.defaultBase
          host := text source "HOST" "0.0.0.0"
          origins := text source "CORS_ALLOW_ORIGINS" "*"
          level := text source "LOG_LEVEL" "INFO" }
  | _, _, _, _, _, _ =>
    .error ([Schema.fault? uri, Schema.fault? database, Schema.fault? key, Schema.fault? timeout,
      Schema.fault? portNumber, Schema.fault? limit].filterMap id)

def faultMessage (faults : List Schema.Fault) : Text :=
  let count := faults.length
  "Invalid environment configuration: " ++ toString count ++ " " ++
    (if count = 1 then "validation error" else "validation errors") ++ " for Settings"

/-- The parts of a text between commas. -/
def commaParts : List Letter → List (List Letter)
  | [] => [[]]
  | c :: rest =>
    if c = ',' then [] :: commaParts rest
    else
      match commaParts rest with
      | [] => [[c]]
      | part :: parts => (c :: part) :: parts

def originList (settings : Settings) : List Text :=
  ((commaParts settings.origins.toList).map Text.trim).filterMap fun part =>
    if part.isEmpty then none else some (.ofList part)

/-- How the completion service is reached. -/
def completion (settings : Settings) : Completion.Config :=
  { key := .str settings.key, model := .str settings.model, base := .str settings.base
    timeout := .double settings.timeout }

end Settings

end QueryDesk
