import NodeSupply.Cluster.Call
import NodeSupply.Json.Parser
import NodeSupply.Text.FormEncoding
import NodeSupply.Wire.ApiError
import NodeSupply.Wire.Node
import NodeSupply.Wire.NodeClass

/-!
Calls on a cluster behind an API server: the HTTP request that a call becomes, and what the response
says in answer to the call.
-/

namespace NodeSupply

/-- An HTTP request: its method, the path and query, and the body if there is one. -/
structure HttpRequest where
  method : String
  target : String
  body : Option Json := none

structure HttpResponse where
  status : Nat
  body : String

namespace HttpResponse

def phrase (status : Nat) : String :=
  match status with
  | 400 => "Bad Request"
  | 401 => "Unauthorized"
  | 402 => "Payment Required"
  | 403 => "Forbidden"
  | 404 => "Not Found"
  | 405 => "Method Not Allowed"
  | 406 => "Not Acceptable"
  | 407 => "Proxy Authentication Required"
  | 408 => "Request Timeout"
  | 409 => "Conflict"
  | 410 => "Gone"
  | 411 => "Length Required"
  | 412 => "Precondition Failed"
  | 413 => "Payload Too Large"
  | 414 => "URI Too Long"
  | 415 => "Unsupported Media Type"
  | 416 => "Range Not Satisfiable"
  | 417 => "Expectation Failed"
  | 418 => "I'm a teapot"
  | 421 => "Misdirected Request"
  | 422 => "Unprocessable Entity"
  | 423 => "Locked"
  | 424 => "Failed Dependency"
  | 425 => "Too Early"
  | 426 => "Upgrade Required"
  | 428 => "Precondition Required"
  | 429 => "Too Many Requests"
  | 431 => "Request Header Fields Too Large"
  | 451 => "Unavailable For Legal Reasons"
  | 500 => "Internal Server Error"
  | 501 => "Not Implemented"
  | 502 => "Bad Gateway"
  | 503 => "Service Unavailable"
  | 504 => "Gateway Timeout"
  | 505 => "HTTP Version Not Supported"
  | 506 => "Variant Also Negotiates"
  | 507 => "Insufficient Storage"
  | 508 => "Loop Detected"
  | 510 => "Not Extended"
  | 511 => "Network Authentication Required"
  | _ => "<unknown status code>"

def isError (r : HttpResponse) : Bool := 400 ≤ r.status && r.status ≤ 599

/-- The error of a response whose body does not tell it. -/
def untoldError (r : HttpResponse) : ApiError where
  status := toString r.status ++ " " ++ phrase r.status
  message := Text.quote r.body
  reason := "Failed to parse error data"
  code := UInt16.ofNat r.status

def apiError (r : HttpResponse) : ApiError :=
  match Json.parseLoosely? r.body with
  | none => r.untoldError
  | some j =>
    match ApiError.ofJson j with
    | .ok e => e
    | .error _ => r.untoldError

/-- What a response says, read as a given kind of thing. Parts of the body that are not used need
not be representable. -/
def read (r : HttpResponse) (reader : Reader α) : Except ClusterFault α :=
  if r.isError then .error (.api r.apiError)
  else
    match Json.parseLoosely? r.body with
    | none => .error .unreadable
    | some j => (reader j).mapError fun _ => .unreadable

end HttpResponse

namespace Remote

open Json

/-! ### Requests -/

def claimsPath : String := "/apis/karpenter.sh/v1/nodeclaims"

def nodesPath : String := "/api/v1/nodes"

def classesPath (kind : NodeClassKind) : String :=
  "/apis/" ++ kind.group ++ "/" ++ kind.version ++ "/" ++ kind.plural

def isPathChar (c : Char) : Bool :=
  let n := c.toNat
  0x21 ≤ n && !(n = 0x23 || n = 0x3C || n = 0x3E || n = 0x3F || n = 0x60 || n = 0x7F)

def isQueryChar (c : Char) : Bool :=
  let n := c.toNat
  0x21 ≤ n && !(n = 0x22 || n = 0x23 || n = 0x3C || n = 0x3E || n = 0x7F)

/-- The most octets that a path, query and fragment have together. -/
def greatestTargetSize : Nat := 65534

/-- The path and query of a text, without a fragment; none if the text is too long or a character
has no place there. -/
def target? (text : String) : Option String :=
  let cs := text.toList.takeWhile (· ≠ '#')
  let path := cs.takeWhile (· ≠ '?')
  let query := (cs.dropWhile (· ≠ '?')).drop 1
  if text.utf8ByteSize ≤ greatestTargetSize && path.all isPathChar && query.all isQueryChar then
    some (String.ofList cs)
  else none

/-- The path of an object, which must have a name. -/
def objectPath? (collection name query : String) : Option String :=
  if name = "" then none else target? (collection ++ "/" ++ name ++ query)

/-- The path and query that list what a selector matches. -/
def listTarget? (collection : String) (selector : LabelSet) : Option String :=
  target? <| collection ++ "?" ++
    if selector.isEmpty then ""
    else "&labelSelector=" ++ Text.formEncode (LabelSet.selectorText selector)

def request? : Call → Option HttpRequest
  | .getNodeClaim name => (objectPath? claimsPath name "").map fun target => ⟨"GET", target, none⟩
  | .createNodeClaim claim => some ⟨"POST", claimsPath ++ "?", some claim.toJson⟩
  | .deleteNodeClaim name =>
    (objectPath? claimsPath name "?").map fun target => ⟨"DELETE", target, some (.object [])⟩
  | .listNodeClaims selector =>
    (listTarget? claimsPath selector).map fun target => ⟨"GET", target, none⟩
  | .nodeClassExists kind name =>
    (objectPath? (classesPath kind) name "").map fun target => ⟨"GET", target, none⟩
  | .createNodeClass manifest =>
    some ⟨"POST", classesPath manifest.kind ++ "?", some manifest.toJson⟩
  | .listNodes selector =>
    (listTarget? nodesPath selector).map fun target => ⟨"GET", target, none⟩

/-! ### Responses -/

def listMetadataSpecs : List FieldSpec :=
  [optional "continue" readString, optional "remainingItemCount" readI64,
    optional "resourceVersion" readString, optional "selfLink" readString]

def listSpecs (read : Reader α) : List FieldSpec :=
  [defaulted "metadata" (readOpenFields "ListMeta" listMetadataSpecs),
    needed "items" (nullable (readList read))]

/-- Judges the members that are not fields, which must be representable. -/
def judgeOthers (specs : List FieldSpec) : List (String × Json) → Except ReadError Unit
  | [] => .ok ()
  | (key, j) :: rest =>
    if specs.any fun spec => spec.name = key then judgeOthers specs rest
    else
      match readAny j with
      | .error e => .error e
      | .ok _ => judgeOthers specs rest

/-- Reads the items of a list object; null counts as no items. -/
def readListObject (read : Reader α) : Reader (List α)
  | .object members => do
    judgeMembers (listSpecs read) [] members
    judgeOthers (listSpecs read) members
    let items ← Fields.get members "items" (nullable (readList read))
    return items.getD []
  | j => .error (j.mismatch "struct ObjectList")

/-- Reads what a deletion is answered with: a status, or the object on its way out. All of it must
be representable. -/
def readDeletion : Reader Unit := fun j => do
  let value ← readAny j
  match value.field "kind" with
  | .string "Status" => StatusObject.read j
  | _ => (NodeClaim.ofJson j).map fun _ => ()

/-- Takes the answer that an object was not found for a plain no. -/
def existence : Except ClusterFault NodeClass → Except ClusterFault Bool
  | .ok _ => .ok true
  | .error (.api e) => if e.reason = "NotFound" then .ok false else .error (.api e)
  | .error f => .error f

/-- What a response says in answer to a call. -/
def answer (response : HttpResponse) : (c : Call) → c.Outcome
  | .getNodeClaim _ => response.read NodeClaim.ofJson
  | .createNodeClaim _ => response.read NodeClaim.ofJson
  | .deleteNodeClaim _ => response.read readDeletion
  | .listNodeClaims _ => response.read (readListObject NodeClaim.ofJson)
  | .nodeClassExists kind _ => existence (response.read (NodeClass.ofJson kind))
  | .createNodeClass manifest => (response.read (NodeClass.ofJson manifest.kind)).map fun _ => ()
  | .listNodes _ => response.read (readListObject Node.ofJson)

/-- The outcome of a call that gets a response if it can be sent, and the request that was sent. -/
def exchange (response : HttpResponse) (c : Call) : c.Outcome × Option HttpRequest :=
  match request? c with
  | none => (.error .unsendable, none)
  | some request => (answer response c, some request)

end Remote

end NodeSupply
