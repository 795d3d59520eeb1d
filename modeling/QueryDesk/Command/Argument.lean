import QueryDesk.Command.Repair
import QueryDesk.Json.Reader
import QueryDesk.Text.Blank

/-!
# Decoding one argument

An argument is first read as strict JSON, in which the names of non-finite numbers are refused. Only
if that fails is the repaired text read in the same way. An argument that is blank stands for an
empty document. `Argument.decode_of_readStrict` says that text which is strict JSON is never
repaired.
-/

namespace QueryDesk.Command

structure Argument where
  value : Json
  /-- Whether the text had to be repaired. -/
  repaired : Bool

/-- Argument text that is no JSON, even after repair. -/
structure MalformedArgument where
  /-- The text without blanks around it. -/
  text : List Letter
  /-- The fault of the repaired text. -/
  reason : Json.ReadFault

namespace Argument

/-- Reads argument text as strict JSON. -/
def readStrict (s : List Letter) : Except Json.ReadFault Json :=
  Json.readUnmarked .refused (Text.trim s)

/-- Decodes argument text. -/
def decode (s : List Letter) : Except MalformedArgument Argument :=
  let text := Text.trim s
  if text.isEmpty then .ok ⟨.obj [], false⟩
  else
    match Json.readUnmarked .refused text with
    | .ok value => .ok ⟨value, false⟩
    | .error _ =>
      match Json.readUnmarked .refused (Repair.repair text) with
      | .ok value => .ok ⟨value, true⟩
      | .error reason => .error ⟨text, reason⟩

/-- Text that is strict JSON decodes to what it says and is not repaired. -/
theorem decode_of_readStrict {s : List Letter} {value : Json} (h : readStrict s = .ok value) :
    decode s = .ok ⟨value, false⟩ := by
  unfold readStrict at h
  unfold decode
  cases whole : Text.trim s with
  | nil => rw [whole, Json.readUnmarked_nil] at h; cases h
  | cons c rest => rw [whole] at h; simp [h]

end Argument

/-- The text that was tried after repair. -/
def MalformedArgument.repaired (m : MalformedArgument) : List Letter :=
  Repair.repair m.text

def MalformedArgument.message (m : MalformedArgument) : Text :=
  "Invalid JSON syntax for MongoDB argument: " ++ .ofList m.text

end QueryDesk.Command
