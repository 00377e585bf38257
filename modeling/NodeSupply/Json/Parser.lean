import NodeSupply.Json.Number
import NodeSupply.Text.Hex

/-!
Reading JSON text. The grammar is strict: no trailing text, no control characters in strings, no
comma too many. What is well written may still be unrepresentable: a number beyond the finite
doubles, a string with half of a surrogate pair alone, an object with such a key, and an array or
object on a level below the 127th.
-/

namespace NodeSupply.Json

def fourHex? : List Char → Option (Nat × List Char)
  | a :: b :: c :: d :: rest => do
    let a ← Text.hexValue? a
    let b ← Text.hexValue? b
    let c ← Text.hexValue? c
    let d ← Text.hexValue? d
    return (((a * 16 + b) * 16 + c) * 16 + d, rest)
  | _ => none

/-- The escape of the second half of a surrogate pair and what follows it. -/
def lowHalf? : List Char → Option (Nat × List Char)
  | '\\' :: 'u' :: cs => do
    let (low, rest) ← fourHex? cs
    if 0xDC00 ≤ low && low < 0xE000 then return (low, rest) else none
  | _ => none

/-- The character of an escape behind `\u`, of two escapes if it is half of a pair. Half of a pair
alone is no character. -/
def unicodeEscape? (cs : List Char) : Option (Option Char × List Char) := do
  let (code, rest) ← fourHex? cs
  if code < 0xD800 || 0xE000 ≤ code then return (some (Char.ofNat code), rest)
  else if 0xDC00 ≤ code then return (none, rest)
  else
    match lowHalf? rest with
    | some (low, rest) =>
      return (some (Char.ofNat (0x10000 + (code - 0xD800) * 0x400 + (low - 0xDC00))), rest)
    | none => return (none, rest)

def shortEscape? (c : Char) : Option Char :=
  if c = '\x22' ∨ c = '\\' ∨ c = '/' then some c
  else if c = 'b' then some (Char.ofNat 8)
  else if c = 'f' then some (Char.ofNat 12)
  else if c = 'n' then some '\n'
  else if c = 'r' then some '\r'
  else if c = 't' then some '\t'
  else none

/-- The characters of a string up to its closing quote, if each of them is one; `done` holds those
read, last first. -/
def stringBody : (fuel : Nat) → (done : Option (List Char)) → List Char →
    Option (Option String × List Char)
  | 0, _, _ => none
  | _ + 1, _, [] => none
  | fuel + 1, done, c :: rest =>
    if c = '\x22' then some (done.map fun cs => String.ofList cs.reverse, rest)
    else if c = '\\' then
      match rest with
      | 'u' :: rest =>
        match unicodeEscape? rest with
        | some (c, rest) => stringBody fuel (do return (← c) :: (← done)) rest
        | none => none
      | e :: rest =>
        match shortEscape? e with
        | some c => stringBody fuel (done.map (c :: ·)) rest
        | none => none
      | [] => none
    else if c.toNat < 0x20 then none
    else stringBody fuel (done.map (c :: ·)) rest

/-- Skips the white space that JSON allows between tokens. -/
def skipSpace (cs : List Char) : List Char :=
  cs.dropWhile fun c => c = ' ' || c = '\n' || c = '\t' || c = '\r'

/-- Drops the given characters from the front, which must be there. -/
def expect? : (expected : List Char) → List Char → Option (List Char)
  | [], cs => some cs
  | e :: expected, c :: cs => if e = c then expect? expected cs else none
  | _ :: _, [] => none

/-- A value that is neither array nor object, given by its first character and the rest. -/
def scalar? (fuel : Nat) (c : Char) (rest : List Char) : Option (Json × List Char) :=
  if c = '\x22' then
    (stringBody fuel (some []) rest).map fun (s, rest) =>
      ((s.map .string).getD .unrepresentable, rest)
  else if c = 'n' then (expect? ['u', 'l', 'l'] rest).map fun rest => (.null, rest)
  else if c = 't' then (expect? ['r', 'u', 'e'] rest).map fun rest => (.bool true, rest)
  else if c = 'f' then (expect? ['a', 'l', 's', 'e'] rest).map fun rest => (.bool false, rest)
  else if c = '-' then number? true rest
  else number? false (c :: rest)

/-- An array or object that is open, with what it holds so far, last first. An object is lost when
one of its keys is no text. -/
inductive Frame where
  | array (items : List Json)
  | object (members : Option (List (String × Json))) (key : Option String)

namespace Frame

def opened? (c : Char) : Option Frame :=
  if c = '[' then some (.array [])
  else if c = '\x7b' then some (.object (some []) none)
  else none

def closer : Frame → Char
  | .array _ => ']'
  | .object _ _ => '\x7d'

def add (j : Json) : Frame → Frame
  | .array items => .array (j :: items)
  | .object members key => .object (do return (← key, j) :: (← members)) none

/-- Reads on to where a value is due, in an object behind a key and a colon. -/
def next? (fuel : Nat) (cs : List Char) : Frame → Option (Frame × List Char)
  | .array items => some (.array items, cs)
  | .object members _ =>
    match skipSpace cs with
    | '\x22' :: rest => do
      let (key, rest) ← stringBody fuel (some []) rest
      match skipSpace rest with
      | ':' :: rest => return (.object members key, rest)
      | _ => none
    | _ => none

/-- The levels on which arrays and objects have values. -/
def deepest : Nat := 127

/-- The value of an array or object that is closed, which stands inside `depth` others. -/
def value (depth : Nat) (frame : Frame) : Json :=
  if deepest ≤ depth then .unrepresentable
  else
    match frame with
    | .array items => .array items.reverse
    | .object members _ => (members.map fun m => .object m.reverse).getD .unrepresentable

end Frame

/-- Reads a value and what follows it, inside of `depth` open frames. Either the value of the
innermost frame that is due has been read, or it has not begun. The fuel has to exceed the number
of characters. -/
def read? : (fuel : Nat) → (ended : Option Json) → (depth : Nat) → List Frame → List Char →
    Option (Json × List Char)
  | 0, _, _, _, _ => none
  | fuel + 1, none, depth, frames, cs =>
    match skipSpace cs with
    | [] => none
    | c :: rest =>
      match Frame.opened? c with
      | none =>
        match scalar? fuel c rest with
        | some (j, rest) => read? fuel (some j) depth frames rest
        | none => none
      | some frame =>
        match skipSpace rest with
        | [] => none
        | d :: inner =>
          if d = frame.closer then read? fuel (some (frame.value depth)) depth frames inner
          else
            match frame.next? fuel (d :: inner) with
            | some (frame, rest) => read? fuel none (depth + 1) (frame :: frames) rest
            | none => none
  | _ + 1, some j, _, [], cs => some (j, cs)
  | fuel + 1, some j, depth, frame :: frames, cs =>
    match skipSpace cs with
    | [] => none
    | c :: rest =>
      let frame := frame.add j
      if c = frame.closer then read? fuel (some (frame.value (depth - 1))) (depth - 1) frames rest
      else if c = ',' then
        match frame.next? fuel rest with
        | some (frame, rest) => read? fuel none depth (frame :: frames) rest
        | none => none
      else none

/-- The value that a text stands for, parts of which may be unrepresentable. Objects have their
members in the order written. -/
def parseLoosely? (text : String) : Option Json :=
  let cs := text.toList
  match read? (cs.length + 1) none 0 [] cs with
  | some (j, rest) => if (skipSpace rest).isEmpty then some j else none
  | none => none

/-- The value that a text stands for, if all of it is representable. -/
def parse? (text : String) : Option Json :=
  (parseLoosely? text).filter isRepresentable

end NodeSupply.Json
