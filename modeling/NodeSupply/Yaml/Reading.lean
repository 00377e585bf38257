import NodeSupply.Text.Hex
import NodeSupply.Yaml.Node

/-!
Typed values in the nodes of a document. What a scalar stands for depends on what is looked for:
any scalar is a text, and only one without quotes is a number or a truth value.
-/

namespace NodeSupply.Yaml

/-- The number that digits stand for in some base, unless one is no digit or there is none. -/
def numeral? (base : Nat) (digits : List Char) : Option Nat :=
  if digits.isEmpty then none
  else
    digits.foldl
      (fun value c => do
        let digit ← Text.hexValue? c
        if digit < base then return base * (← value) + digit else none)
      (some 0)

/-- The unsigned number that a scalar without quotes stands for. A decimal one has no zero in front. -/
def unsigned? (text : List Char) : Option Nat :=
  let text := if text.head? = some '+' then text.tail else text
  match text with
  | '0' :: 'x' :: digits => numeral? 16 digits
  | '0' :: 'o' :: digits => numeral? 8 digits
  | '0' :: 'b' :: digits => numeral? 2 digits
  | ['0'] => some 0
  | '0' :: _ => none
  | _ => numeral? 10 text

/-- The truth value that a scalar without quotes stands for. -/
def truth? (text : String) : Option Bool :=
  if ["true", "True", "TRUE"].contains text then some true
  else if ["false", "False", "FALSE"].contains text then some false
  else none

/-- Whether a scalar without quotes says that there is no value. -/
def isNullWord (text : String) : Bool :=
  ["null", "Null", "NULL", "~"].contains text

/-- A way to read a value of some type at a node of a document. -/
abbrev Reading (α : Type) := Document → Node → Option α

namespace Reading

def text : Reading String := fun d n =>
  match d.resolve n with
  | some (.scalar _ _ text) => some text
  | _ => none

/-- The text of a scalar that may stand for a value of a type. A kept block may if it is tagged. -/
def typedText (tag : Tag) : Reading String := fun d n =>
  match d.resolve n with
  | some (.scalar p style text) =>
    if style = .plain || (style = .literal && p.tag = some tag) then some text else none
  | _ => none

def bool : Reading Bool := fun d n => do truth? (← typedText .bool d n)

def u64 : Reading UInt64 := fun d n => do
  let value ← unsigned? (← typedText .int d n).toList
  if value < UInt64.size then return UInt64.ofNat value else none

/-- A value that may be missing. A tag other than that of a missing value says that it is there. -/
def optional {α : Type} (read : Reading α) : Reading (Option α) := fun d n =>
  match d.resolve n with
  | some (.scalar p .plain text) =>
    match p.tag with
    | none => if text.isEmpty || isNullWord text then some none else (read d n).map some
    | some tag =>
      if tag ≠ .null then (read d n).map some
      else if isNullWord text then some none
      else none
  | _ => (read d n).map some

/-- A name, written as a scalar or as a local tag on a node without a value. -/
def name : Reading String := fun d n =>
  match d.resolve n with
  | some (.scalar p style text) =>
    match p.tag.bind Tag.localName? with
    | none => some text
    | some name => if style = .plain && (text.isEmpty || isNullWord text) then some name else none
  | _ => none

/-- The entries of a mapping that are among some names; none of these may stand twice. -/
def namedEntries (names : List String) (d : Document) :
    List (Node × Node) → Option (List (String × Node))
  | [] => some []
  | (key, value) :: rest => do
    let key ← text d key
    let named ← namedEntries names d rest
    if !names.contains key then return named
    else if (named.lookup key).isSome then none
    else return (key, value) :: named

/-- The fields of a record, which a mapping gives by name. Nothing at all is a record without
fields. -/
def fields (names : List String) : Reading (List (String × Node)) := fun d n =>
  match d.resolve n with
  | some (.mapping _ entries) => namedEntries names d entries
  | some (.scalar _ .plain text) => if text.isEmpty then some [] else none
  | _ => none

def field? {α : Type} (key : String) (read : Reading α) (d : Document)
    (fields : List (String × Node)) : Option (Option α) :=
  match fields.lookup key with
  | none => some none
  | some n => (read d n).map some

def fieldD {α : Type} (key : String) (read : Reading α) (default : α) (d : Document)
    (fields : List (String × Node)) : Option α :=
  (field? key read d fields).map fun value => value.getD default

end Reading

end NodeSupply.Yaml
