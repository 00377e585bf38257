import NodeSupply.Failure
import NodeSupply.Json.Reader

/-!
Reading what an API server says of its own answers.
-/

namespace NodeSupply

open Json

namespace ApiError

def fieldSpecs : List FieldSpec :=
  [needed "status" readString, defaulted "message" readString, defaulted "reason" readString,
    needed "code" readU16]

def ofJson : Reader ApiError := fun j => do
  let f ← readFields "ErrorResponse" fieldSpecs j
  let status ← f.get "status" readString
  let message ← f.getD "message" readString ""
  let reason ← f.getD "reason" readString ""
  let code ← f.get "code" readU16
  return { status, message, reason, code }

end ApiError

/-! What a status object must be made of; nothing of it is used. -/

namespace StatusObject

def causeSpecs : List FieldSpec :=
  [defaulted "reason" readString, defaulted "message" readString, defaulted "field" readString]

def detailSpecs : List FieldSpec :=
  [defaulted "name" readString, defaulted "group" readString, defaulted "kind" readString,
    defaulted "uid" readString, defaulted "causes" (readList (readFields "StatusCause" causeSpecs)),
    defaulted "retryAfterSeconds" readU32]

def readSummary : Reader Bool :=
  readVariant [("Success", true), ("Failure", false)] "`Success` or `Failure`"

def fieldSpecs : List FieldSpec :=
  [optional "status" readSummary, defaulted "code" readU16,
    defaulted "message" readString, defaulted "reason" readString,
    optional "details" (readFields "StatusDetails" detailSpecs)]

/-- Reads a status object. -/
def read : Reader Unit := fun j => (readFields "Status" fieldSpecs j).map fun _ => ()

end StatusObject

end NodeSupply
