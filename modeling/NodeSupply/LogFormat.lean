import NodeSupply.Json.Reader

/-!
The forms in which log lines can be written.
-/

namespace NodeSupply

inductive LogFormat where
  | text
  | json
deriving DecidableEq

namespace LogFormat

def name : LogFormat → String
  | .text => "text"
  | .json => "json"

def ofJson : Reader LogFormat :=
  Json.readVariant [("text", .text), ("json", .json)] "`text` or `json`"

/-- Whether a form is taken on: only the first one that is asked for is. -/
def isInstalled (already : Option LogFormat) : Bool := already.isNone

end LogFormat

end NodeSupply
