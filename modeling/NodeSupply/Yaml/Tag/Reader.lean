import NodeSupply.Yaml.Scalar.Quoted
import NodeSupply.Yaml.Token

/-!
Tags and directives as they are written: a handle stands for the space that a directive gives it,
and octets can be written as a percent sign and two digits.
-/

namespace NodeSupply.Yaml.TagText

/-- How many octets encode a character, by the first of them. -/
def encodingLength? (first : Nat) : Option Nat :=
  if first < 0x80 then some 1
  else if first / 0x20 = 6 then some 2
  else if first / 0x10 = 0xE then some 3
  else if first / 8 = 0x1E then some 4
  else none

def octet? (c : Cursor) : Option (Nat × Cursor) :=
  match c.rest with
  | '%' :: high :: low :: _ => do
    let value ← QuotedScalar.hexValue? 2 0 [high, low]
    return (value, c.skip 3)
  | _ => none

/-- The octets that continue a character. -/
def continuation? : (count : Nat) → List UInt8 → Cursor → Option (List UInt8 × Cursor)
  | 0, done, c => some (done, c)
  | count + 1, done, c => do
    let (value, c) ← octet? c
    if value / 0x40 = 2 then continuation? count (done ++ [UInt8.ofNat value]) c else none

/-- The octets of a character written with percent signs. -/
def escaped? (c : Cursor) : Option (List UInt8 × Cursor) := do
  let (first, c) ← octet? c
  let length ← encodingLength? first
  continuation? (length - 1) [UInt8.ofNat first] c

/-- Reads the characters of a tag behind the octets read so far. -/
def octets (verbatim : Bool) : (fuel : Nat) → List UInt8 → Cursor → Option (List UInt8 × Cursor)
  | 0, _, _ => none
  | fuel + 1, done, c =>
    match c.head? with
    | none => some (done, c)
    | some x =>
      if !isTagChar verbatim x then some (done, c)
      else if x = '%' then
        match escaped? c with
        | some (more, c) => octets verbatim fuel (done ++ more) c
        | none => none
      else octets verbatim fuel (done ++ [UInt8.ofNat x.toNat]) c.next

/-- Reads the characters of a tag behind those of a handle; a zero ends the tag. -/
def suffix (verbatim : Bool) (handle : List Char) (c : Cursor) : Option (List UInt8 × Cursor) := do
  let start := handle.map fun x => UInt8.ofNat x.toNat
  let (read, c) ← octets verbatim (c.rest.length + 1) start c
  return (read.takeWhile (· ≠ 0), c)

/-- As `suffix`, where something must be there. -/
def someSuffix (verbatim : Bool) (c : Cursor) : Option (List UInt8 × Cursor) := do
  let (read, next) ← suffix verbatim [] c
  if next.index = c.index then none else return (read, next)

/-- The exclamation mark, the name and, if it is there, the second exclamation mark that are next. -/
def handle? (c : Cursor) : Option (String × List Char × Bool × Cursor) :=
  if !c.sees '!' then none
  else
    let (name, c) := c.next.span isWordChar
    if c.sees '!' then some (String.ofList ('!' :: name ++ ['!']), name, true, c.next)
    else some (String.ofList ('!' :: name), name, false, c)

def read (inFlow : Bool) (c : Cursor) : Option (Token × Cursor) := do
  let (token, c) ←
    if c.ahead 1 = some '<' then do
      let (suffix, c) ← someSuffix true (c.skip 2)
      if c.sees '>' then some (Token.tag "" suffix, c.next) else none
    else do
      let (handle, name, closed, c) ← handle? c
      if closed then do
        let (suffix, c) ← someSuffix false c
        some (Token.tag handle suffix, c)
      else do
        let (suffix, c) ← suffix false name c
        some (if suffix.isEmpty then Token.tag "" Tag.nonSpecific.octets else Token.tag "!" suffix, c)
  if endsToken c.head? || (inFlow && c.sees ',') then return (token, c) else none

/-- At most nine digits, and at least one. -/
def versionPart? (c : Cursor) : Option (Nat × Cursor) :=
  let (digits, c) := c.span Char.isDigit
  if digits.isEmpty || 9 < digits.length then none
  else some (digits.foldl (fun n x => 10 * n + (x.toNat - 48)) 0, c)

/-- Reads the directive that is next. There are those for the version and for handles of tags. -/
def directive (c : Cursor) : Option (Token × Cursor) := do
  let (name, c) := c.next.span isWordChar
  if name.isEmpty || !endsToken c.head? then none
  let c' := c.skipWhile isSpace
  let (token, c) ←
    if name = "YAML".toList then do
      let (major, c) ← versionPart? c'
      if !c.sees '.' then none
      let (minor, c) ← versionPart? c.next
      some (Token.versionDirective major minor, c)
    else if name = "TAG".toList then do
      let (handle, name, closed, c) ← handle? c'
      if !closed && !name.isEmpty then none
      if !c.head?.any isSpace then none
      let (space, c) ← someSuffix true (c.skipWhile isSpace)
      if !endsToken c.head? then none
      some (Token.tagDirective handle space, c)
    else none
  let c := (c.skipWhile isSpace).skipComment
  if endsLine c.head? then return (token, c.skipLineBreak) else none

end NodeSupply.Yaml.TagText
