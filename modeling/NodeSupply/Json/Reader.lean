import NodeSupply.Json.Printer

/-!
Reading typed values out of JSON. A record is given as an object, or as an array of its fields in
declaration order. The members of an object are judged in the order in which they stand, and only
if all of them are good is a missing one reported.
-/

namespace NodeSupply

/-- Why a JSON value is not of the type that is read. -/
inductive ReadError where
  | missingField (name : String)
  | repeatedField (name : String)
  | wrongType (found : String) (expected : String)
  | wrongValue (found : String) (expected : String)
  | unknownVariant (name : String) (known : String)
  | wrongLength (found : Nat) (expected : String)
  | badTime (reason : String)
deriving DecidableEq

def ReadError.message : ReadError → String
  | .missingField name => "missing field `" ++ name ++ "`"
  | .repeatedField name => "duplicate field `" ++ name ++ "`"
  | .wrongType found expected => "invalid type: " ++ found ++ ", expected " ++ expected
  | .wrongValue found expected => "invalid value: " ++ found ++ ", expected " ++ expected
  | .unknownVariant name known => "unknown variant `" ++ name ++ "`, expected " ++ known
  | .wrongLength found expected => "invalid length " ++ toString found ++ ", expected " ++ expected
  | .badTime reason => reason

abbrev Reader (α : Type) := Json → Except ReadError α

namespace Json

/-- What a value is, in the words of an error. -/
def kind : Json → String
  | .null => "null"
  | .bool b => "boolean `" ++ (if b then "true" else "false") ++ "`"
  | .int n => "integer `" ++ toString n ++ "`"
  | .real x => "floating point `" ++ numberLayout.text x ++ "`"
  | .string s => "string " ++ Text.quote s
  | .array _ => "sequence"
  | .object _ => "map"
  | .unrepresentable => "unrepresentable value"

/-- The error for a value of another type than the expected one. -/
def mismatch (j : Json) (expected : String) : ReadError := .wrongType j.kind expected

def readString : Reader String
  | .string s => .ok s
  | j => .error (j.mismatch "a string")

def readBool : Reader Bool
  | .bool b => .ok b
  | j => .error (j.mismatch "a boolean")

/-- Reads a whole number below a bound. -/
def readNatBelow (bound : Nat) (expected : String) : Reader Nat
  | .int n =>
    if 0 ≤ n ∧ n < bound then .ok n.toNat
    else .error (.wrongValue (Json.int n).kind expected)
  | j => .error (j.mismatch expected)

def readU16 : Reader UInt16 := fun j => (readNatBelow UInt16.size "u16" j).map UInt16.ofNat

def readU32 : Reader UInt32 := fun j => (readNatBelow UInt32.size "u32" j).map UInt32.ofNat

def readU64 : Reader UInt64 := fun j => (readNatBelow UInt64.size "u64" j).map UInt64.ofNat

/-- Reads a whole number with a sign, of a number of bits. -/
def readSigned (bits : Nat) (expected : String) : Reader Int
  | .int n =>
    if -(1 <<< (bits - 1) : Nat) ≤ n ∧ n < (1 <<< (bits - 1) : Nat) then .ok n
    else .error (.wrongValue (Json.int n).kind expected)
  | j => .error (j.mismatch expected)

def readI32 : Reader Int := readSigned 32 "i32"

def readI64 : Reader Int := readSigned 64 "i64"

def readAny : Reader Json := fun j =>
  if j.isRepresentable then .ok j.sorted else .error (j.mismatch "a representable value")

def nullable (read : Reader α) : Reader (Option α)
  | .null => .ok none
  | j => (read j).map some

def readItems (read : Reader α) : List Json → Except ReadError (List α)
  | [] => .ok []
  | j :: rest => do
    let a ← read j
    let others ← readItems read rest
    return a :: others

def readList (read : Reader α) : Reader (List α)
  | .array items => readItems read items
  | j => .error (j.mismatch "a sequence")

/-- Reads the texts of an object's members one after the other. -/
def readBindings : List (String × Json) → Except ReadError (List (String × String))
  | [] => .ok []
  | (key, j) :: rest => do
    let s ← readString j
    let others ← readBindings rest
    return (key, s) :: others

def readTextMap : Reader (KeyMap String)
  | .object members => (readBindings members).map KeyMap.ofList
  | j => .error (j.mismatch "a map")

def readUnit : Reader Unit
  | .null => .ok ()
  | j => .error (j.mismatch "unit")

/-- The variant of a name, in words for the error if there is none. -/
def variantNamed (variants : List (String × α)) (known : String) (name : String) :
    Except ReadError α :=
  match variants.lookup name with
  | some a => .ok a
  | none => .error (.unknownVariant name known)

/-- Reads a variant without content: its name, or an object with its name bound to null. -/
def readVariant (variants : List (String × α)) (known : String) : Reader α
  | .string name => variantNamed variants known name
  | .object [(name, content)] => do
    let a ← variantNamed variants known name
    readUnit content
    return a
  | .object _ => .error (.wrongValue "map" "map with a single key")
  | j => .error (j.mismatch "string or map")

/-- A field of a record, for judging what stands in its place. -/
structure FieldSpec where
  name : String
  accepts : Json → Except ReadError Unit
  /-- Whether the field may be left off the end of an array. -/
  omittable : Bool

def needed (name : String) (read : Reader α) : FieldSpec :=
  ⟨name, fun j => (read j).map fun _ => (), false⟩

def defaulted (name : String) (read : Reader α) : FieldSpec :=
  ⟨name, fun j => (read j).map fun _ => (), true⟩

/-- A field that may be left off or null. -/
def optional (name : String) (read : Reader α) : FieldSpec := defaulted name (nullable read)

abbrev Fields := List (String × Json)

/-- Judges the members in the order given; a field may be there only once. -/
def judgeMembers (specs : List FieldSpec) (seen : List String) :
    List (String × Json) → Except ReadError Unit
  | [] => .ok ()
  | (key, j) :: rest =>
    match specs.find? fun spec => spec.name = key with
    | none => judgeMembers specs seen rest
    | some spec =>
      if seen.contains key then .error (.repeatedField key)
      else
        match spec.accepts j with
        | .error e => .error e
        | .ok () => judgeMembers specs (key :: seen) rest

/-- Names the items of an array by the fields in declaration order. An array that ends before a
needed field is reported with the place of that field, one with items to spare with its length. -/
def nameItems (typeName : String) (count given : Nat) :
    (place : Nat) → List FieldSpec → List Json → Except ReadError Fields
  | _, [], [] => .ok []
  | _, [], _ :: _ => .error (.wrongLength given "fewer elements in array")
  | place, spec :: specs, [] =>
    if spec.omittable then nameItems typeName count given (place + 1) specs []
    else .error (.wrongLength place
      ("struct " ++ typeName ++ " with " ++ toString count ++ " elements"))
  | place, spec :: specs, j :: rest =>
    match spec.accepts j with
    | .error e => .error e
    | .ok () =>
      (nameItems typeName count given (place + 1) specs rest).map fun fields =>
        (spec.name, j) :: fields

/-- The fields of a record given as an object or as an array. -/
def readFields (typeName : String) (specs : List FieldSpec) : Reader Fields
  | .object members => (judgeMembers specs [] members).map fun _ => members
  | .array items => nameItems typeName specs.length items.length 0 specs items
  | j => .error (j.mismatch ("struct " ++ typeName))

/-- The value of a field that has to be there. -/
def Fields.get (fields : Fields) (name : String) (read : Reader α) : Except ReadError α :=
  match fields.lookup name with
  | some j => read j
  | none => .error (.missingField name)

/-- The value of a field, or its default. -/
def Fields.getD (fields : Fields) (name : String) (read : Reader α) (default : α) :
    Except ReadError α :=
  match fields.lookup name with
  | some j => read j
  | none => .ok default

/-- The value of a field that may be left off or null. -/
def Fields.get? (fields : Fields) (name : String) (read : Reader α) :
    Except ReadError (Option α) :=
  fields.getD name (nullable read) none

end Json

end NodeSupply
