import NodeSupply.Yaml.Characters

/-!
A place in a YAML text, which knows its column and what follows it.
-/

namespace NodeSupply.Yaml

/-- A place in a text: the octets of UTF-8 before it, the lines before it, the characters before it
on its own line, and the text behind it. -/
structure Cursor where
  index : Nat := 0
  line : Nat := 0
  column : Nat := 0
  rest : List Char

namespace Cursor

/-- The character some places ahead. -/
def ahead (c : Cursor) (n : Nat) : Option Char :=
  c.rest[n]?

def head? (c : Cursor) : Option Char :=
  c.rest.head?

def sees (c : Cursor) (x : Char) : Bool :=
  c.head? = some x

def next (c : Cursor) : Cursor :=
  match c.rest with
  | [] => c
  | x :: rest => { c with index := c.index + x.utf8Size, column := c.column + 1, rest }

def skip : Nat → Cursor → Cursor
  | 0, c => c
  | n + 1, c => skip n c.next

/-- Behind as many characters as satisfy a condition, and those characters. -/
def span (p : Char → Bool) (c : Cursor) : List Char × Cursor :=
  let passed := c.rest.takeWhile p
  (passed, c.skip passed.length)

def skipWhile (p : Char → Bool) (c : Cursor) : Cursor :=
  (c.span p).2

/-- The line break that is next, as scalars keep it, and the first place of the line behind it. -/
def lineBreak? (c : Cursor) : Option (Char × Cursor) :=
  let lineStart (octets : Nat) (rest : List Char) : Cursor :=
    { index := c.index + octets, line := c.line + 1, column := 0, rest }
  match c.rest with
  | '\r' :: '\n' :: rest => some ('\n', lineStart 2 rest)
  | x :: rest =>
    if isPlainBreak x then some ('\n', lineStart x.utf8Size rest)
    else if isBreak x then some (x, lineStart x.utf8Size rest)
    else none
  | [] => none

def skipLineBreak (c : Cursor) : Cursor :=
  match c.lineBreak? with
  | some (_, c) => c
  | none => c

def skipComment (c : Cursor) : Cursor :=
  if c.sees '#' then c.skipWhile fun x => !isBreak x else c

/-- Whether three equal characters open a line as a word of their own. -/
def atMark (c : Cursor) (x : Char) : Bool :=
  c.column = 0 && c.rest.take 3 = [x, x, x] && endsToken (c.ahead 3)

/-- Whether a mark that begins or ends a document is next. -/
def atDocumentMark (c : Cursor) : Bool :=
  c.atMark '-' || c.atMark '.'

end Cursor

end NodeSupply.Yaml
