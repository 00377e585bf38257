import NodeSupply.Text.Hex
import NodeSupply.Yaml.Scalar.Folding

/-!
Scalars in single and in double quotes. Between single quotes the quote itself is written twice;
between double quotes a backslash begins an escape.
-/

namespace NodeSupply.Yaml.QuotedScalar

def shortEscape? : Char → Option Char
  | '0' => some '\u0000'
  | 'a' => some '\u0007'
  | 'b' => some '\u0008'
  | 't' | '\t' => some '\t'
  | 'n' => some '\n'
  | 'v' => some '\u000B'
  | 'f' => some '\u000C'
  | 'r' => some '\r'
  | 'e' => some '\u001B'
  | ' ' => some ' '
  | '\x22' => some '\x22'
  | '/' => some '/'
  | '\\' => some '\\'
  | 'N' => some '\u0085'
  | '_' => some '\u00A0'
  | 'L' => some '\u2028'
  | 'P' => some '\u2029'
  | _ => none

/-- How many digits follow the letter of an escape that has some. -/
def escapeLength? : Char → Option Nat
  | 'x' => some 2
  | 'u' => some 4
  | 'U' => some 8
  | _ => none

/-- The value of as many hexadecimal digits as are asked for. -/
def hexValue? : (count : Nat) → (value : Nat) → List Char → Option Nat
  | 0, value, _ => some value
  | _ + 1, _, [] => none
  | count + 1, value, c :: rest => do hexValue? count (16 * value + (← Text.hexValue? c)) rest

def escape? (c : Cursor) : Option (Char × Cursor) := do
  let letter ← c.head?
  match escapeLength? letter with
  | none => return (← shortEscape? letter, c.next)
  | some count =>
    let value ← hexValue? count 0 c.next.rest
    if value.isValidChar then return (Char.ofNat value, c.skip (count + 1))
    else none

/-- Reads a word behind the characters read so far, of which the last is first. The answer says
whether an escaped line break ended it. -/
def word (quote : Char) : (fuel : Nat) → List Char → Cursor → Option (List Char × Bool × Cursor)
  | 0, _, _ => none
  | fuel + 1, done, c =>
    match c.head? with
    | none => some (done, false, c)
    | some x =>
      if isGap x then some (done, false, c)
      else if x = quote then
        if quote = '\x27' && c.ahead 1 = some quote then word quote fuel (x :: done) (c.skip 2)
        else some (done, false, c)
      else if quote = '\x22' && x = '\\' then
        if (c.ahead 1).any isBreak then some (done, true, c.next.skipLineBreak)
        else
          match escape? c.next with
          | some (x, c) => word quote fuel (x :: done) c
          | none => none
      else word quote fuel (x :: done) c.next

/-- Reads words and the gaps between them up to the closing quote. -/
def words (quote : Char) : (fuel : Nat) → List Char → Cursor → Option (List Char × Cursor)
  | 0, _, _ => none
  | fuel + 1, done, c =>
    if c.atDocumentMark || c.rest.isEmpty then none
    else do
      let (done, escaped, c) ← word quote (c.rest.length + 1) done c
      if c.sees quote then return (done, c.next)
      let (gap, c) ← Gap.next 0 escaped c
      words quote fuel (gap.text.reverse ++ done) c

def read (quote : Char) (c : Cursor) : Option (String × Cursor) := do
  let (done, c) ← words quote (c.rest.length + 1) [] c.next
  return (String.ofList done.reverse, c)

end NodeSupply.Yaml.QuotedScalar
