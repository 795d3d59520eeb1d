import QueryDesk.Json.Bytes
import QueryDesk.Json.Printer
import QueryDesk.Store.Display
import QueryDesk.Store.Reply
import QueryDesk.Text.Blank

/-!
# A chat completion as generator

Drafts come from a service that completes chats. `Completion.call` says what is sent to it,
`Completion.content` what is taken from its answer: the text that the steps of `textPath` lead to,
whatever they go through. `Completion.complete` puts the two together. A failure of the service is
told as one; `Failure.escaping?` are the faults that are not.
-/

namespace QueryDesk.Completion

/-! ## Configuration -/

/-- The model that is asked unless another one is named. -/
def defaultModel : Text := "gpt-4o-mini"

/-- The address that is called unless another one is named. -/
def defaultBase : Text := "https://api.openai.com/v1"

/-- How the service is reached. Only a call shows whether model and base are of use. -/
structure Config where
  key : Value
  model : Value := .str defaultModel
  base : Value := .str defaultBase
  /-- How many seconds an answer may take. -/
  timeout : Value := .double (.ofInt 30)

/-- Why fields make no configuration. -/
inductive ConfigFault
  | unexpected (field : Text)
  | missingKey
  deriving DecidableEq, Repr

def ConfigFault.message : ConfigFault → Text
  | unexpected field => "LLMConfig.__init__() got an unexpected keyword argument '" ++ field ++ "'"
  | missingKey => "LLMConfig.__init__() missing 1 required positional argument: 'api_key'"

def Config.fields : List Text :=
  ["api_key", "model", "api_base", "timeout_s"]

/-- The configuration that fields make; all but the key have a default. -/
def Config.ofFields (fields : Members Value) : Except ConfigFault Config :=
  -- a field that does not belong here is reported before a missing key
  match fields.names.find? fun name => !Config.fields.contains name with
  | some name => .error (.unexpected name)
  | none =>
    match fields.get? "api_key" with
    | none => .error .missingKey
    | some key =>
      let standard : Config := { key }
      .ok { standard with
        model := (fields.get? "model").getD standard.model
        base := (fields.get? "api_base").getD standard.base
        timeout := (fields.get? "timeout_s").getD standard.timeout }

/-! ## What can come of a call -/

/-- What comes back from a call. -/
inductive Outcome
  | delivered (body : List UInt8)
  /-- The service answers with the status of a failure. -/
  | refused (status : Int)
  /-- The service cannot be reached. -/
  | unreachable
  | timedOut
  /-- Something else goes wrong. -/
  | broken (fault : Fault)

inductive Failure
  /-- The base of the address is no text. -/
  | notText (type : Text)
  | bytes
  /-- The key or the model cannot be written. -/
  | unwritable (reason : Unwritable)
  /-- The address has no scheme. -/
  | address (url : Text)
  | status (code : Int)
  | connection
  | timeout
  /-- The answer has another shape. -/
  | format
  /-- What is in the place of the text is no text. -/
  | noText
  | broken (fault : Fault)
  deriving DecidableEq, Repr

def Failure.message : Failure → Text
  | notText type => "'" ++ type ++ "' object has no attribute 'rstrip'"
  | bytes => "a bytes-like object is required, not 'str'"
  | unwritable reason => reason.message
  | address url => "unknown url type: " ++ Text.quoted url
  | status code => "LLM HTTP error: " ++ toString code
  | connection => "LLM connection error"
  | timeout => "LLM request timed out"
  | format => "Unexpected LLM response format"
  | noText => "LLM returned no text content"
  | broken fault => fault.text

/-- The fault that ends the call as it is, if the failure is not told as one of the service. -/
def Failure.escaping? : Failure → Option Fault
  | failure@(notText _) => some ⟨.missingAttribute, failure.message⟩
  | failure@bytes => some ⟨.type, failure.message⟩
  | unwritable reason => some reason.fault
  | failure@(address _) => some ⟨.value, failure.message⟩
  | broken fault => some fault
  | status _ | connection | timeout | format | noText => none

/-! ## The call -/

structure Call where
  url : Text
  key : Text
  body : Text
  timeout : Value

def Call.headers (c : Call) : List (Text × Text) :=
  [("Authorization", "Bearer " ++ c.key), ("Content-type", "application/json")]

/-- The address under a base; slashes at the end of the base do not matter, blanks at its start are
dropped, and so is the word that marks an address. -/
def address (base : Text) : Text :=
  let whole := Text.dropEnd (· = .char '/') base.toList ++ ("/chat/completions" : Text).toList
  let bare := whole.dropWhile Text.isBlank
  let marker : Text := "URL:"
  .ofList (if marker.toList.isPrefixOf bare then (bare.drop 4).dropWhile Text.isBlank else bare)

/-- An address without its fragment, which follows the last number sign. -/
def withoutFragment (url : List Letter) : List Letter :=
  match (url.reverse.dropWhile (· ≠ .char '#')).drop 1 with
  | [] => if url.contains (.char '#') then [] else url
  | rest => rest.reverse

/-- Whether an address starts with a scheme: characters up to a colon, with no slash among them. -/
def hasScheme (url : List Letter) : Bool :=
  let part := withoutFragment url
  let isOther (c : Letter) : Bool := c ≠ '/' && c ≠ ':'
  !(part.takeWhile isOther).isEmpty && (part.dropWhile isOther).head? = some (.char ':')

def chatMessage (role content : Text) : Value :=
  .doc [("role", .str role), ("content", .str content)]

/-- What the service is sent. -/
def payload (config : Config) (instructions query : Text) : Value :=
  .doc [("model", config.model), ("temperature", .int 0),
    ("messages", .arr [chatMessage "system" instructions, chatMessage "user" query])]

def baseText : Value → Except Failure Text
  | .str s | .code s | .scopedCode s _ => .ok s
  | .bytes _ | .byteArray _ | .binary _ _ => .error .bytes
  | other => .error (.notText other.fullTypeName)

/-- The text of what a query is sent as. -/
def payloadText (config : Config) (instructions query : Text) : Except Unwritable Text := do
  match (← (payload config instructions query).verbatim .accepted).spaced? with
  | some text => return text
  | none => throw .tooManyDigits

/-- The call for a query. The base is looked at first, then the key, the model and the whole
address. -/
def call (config : Config) (instructions query : Text) : Except Failure Call := do
  let url := address (← baseText config.base)
  let key ← config.key.plainName.mapError .unwritable
  let body ← (payloadText config instructions query).mapError .unwritable
  if hasScheme url.toList then
    return { url, key, body, timeout := config.timeout }
  else throw (.address url)

/-! ## The answer -/

/-- A step from a value into it. -/
inductive Step
  | place (n : Nat)
  | member (name : Text)
  deriving DecidableEq, Repr

/-- What a step leads to. A text has places as an array has; at each one is a text of one character.
-/
def Step.find? : Step → Json → Option Json
  | place n, .arr items => items[n]?
  | place n, .str s => s.toList[n]?.map fun c => .str (.ofList [c])
  | member name, .obj members => Members.get? members name
  | _, _ => none

/-- What some steps lead to, one after the other. -/
def walk? : List Step → Json → Option Json
  | [], value => some value
  | step :: rest, value => (step.find? value).bind (walk? rest)

/-- The steps to the text of an answer. -/
def textPath : List Step :=
  [.member "choices", .place 0, .member "message", .member "content"]

/-- The text of an answer. -/
def content (answer : Json) : Except Failure Text :=
  match walk? textPath answer with
  | some (.str text) => .ok text
  | some _ => .error .noText
  | none => .error .format

/-- The text in the body of an answer. -/
def ofBody (body : List UInt8) : Except Failure Text :=
  match Json.readBytes body with
  | .ok answer => content answer
  | .error _ => .error .format

/-- The draft that an outcome gives. -/
def Outcome.draft : Outcome → Except Failure Text
  | delivered body => ofBody body
  | refused status => .error (.status status)
  | unreachable => .error .connection
  | timedOut => .error .timeout
  | broken fault => .error (.broken fault)

/-- The call for a query, if one is made, and the draft, given what would come back. -/
def complete (config : Config) (instructions query : Text) (outcome : Outcome) :
    Option Call × Except Failure Text :=
  match call config instructions query with
  | .error failure => (none, .error failure)
  | .ok call => (some call, outcome.draft)

end QueryDesk.Completion
