import NodeSupply.Yaml.Scalar.Block
import NodeSupply.Yaml.Scalar.Plain
import NodeSupply.Yaml.Tag.Reader

/-!
Cutting a YAML text into tokens.

Whether a node is a key shows only at the colon behind it. So the lexer remembers where the last
node began that may be one, and at a colon puts the missing tokens in front of it. Outside of
brackets and braces the indentation opens and closes the blocks.
-/

namespace NodeSupply.Yaml

/-- A node that is a key if a colon follows it. -/
structure PendingKey where
  /-- How many tokens stand in front of it. -/
  position : Nat
  line : Nat
  column : Nat
  index : Nat
  /-- Whether it stands where only a key can stand. -/
  required : Bool

structure Lexer where
  cursor : Cursor
  tokens : Array Token := #[]
  /-- The columns of the blocks that are open, the innermost first. -/
  columns : List Nat := []
  /-- The last node that may be a key, among those that stand in no inner bracket. -/
  pending : Option PendingKey := none
  /-- The same for what stands around the innermost bracket or brace that is open. -/
  outer : List (Option PendingKey) := []
  /-- Whether a key may begin at this place. -/
  keyAllowed : Bool := true

namespace Lexer

def inFlow (l : Lexer) : Bool :=
  !l.outer.isEmpty

/-- The first column at which a line of a scalar may begin. -/
def minColumn (l : Lexer) : Nat :=
  match l.columns with
  | [] => 0
  | column :: _ => column + 1

def push (token : Token) (l : Lexer) : Lexer :=
  { l with tokens := l.tokens.push token }

/-- Puts a token in front of the one at a position. -/
def insert (position : Nat) (token : Token) (l : Lexer) : Lexer :=
  { l with tokens := l.tokens.insertIdxIfInBounds position token }

/-- Moves on by some characters, for which a token stands. -/
def pushAhead (count : Nat) (token : Token) (l : Lexer) : Lexer :=
  { l.push token with cursor := l.cursor.skip count }

/-- Opens a block at a column to the right of all open ones; its first token gets a position. -/
def openBlock (column position : Nat) (token : Token) (l : Lexer) : Lexer :=
  if l.inFlow || column < l.minColumn then l
  else { l.insert position token with columns := column :: l.columns }

/-- Closes the blocks to which a column does not belong. -/
def closeBlocks (belongs : Nat → Bool) (l : Lexer) : Lexer :=
  if l.inFlow then l
  else
    let closed := l.columns.takeWhile fun column => !belongs column
    { l with
      columns := l.columns.drop closed.length
      tokens := l.tokens ++ closed.map fun _ => Token.blockEnd }

def maxKeyLength : Nat := 1024

/-- The pending key if a colon at this place would still make it one. It must end on the line on
which it begins. -/
def usableKey? (l : Lexer) : Option PendingKey :=
  l.pending.filter fun key =>
    key.line = l.cursor.line && l.cursor.index ≤ key.index + maxKeyLength

/-- Gives up the pending key, which must not be a required one. -/
def dropKey (l : Lexer) : Option Lexer :=
  if l.pending.any (·.required) then none else some { l with pending := none }

/-- Notes that the node that begins here may be a key. -/
def noteKey (l : Lexer) : Option Lexer :=
  if !l.keyAllowed then some l
  else do
    let l ← l.dropKey
    let pending : PendingKey :=
      { position := l.tokens.size
        line := l.cursor.line
        column := l.cursor.column
        index := l.cursor.index
        required := !l.inFlow && l.columns.head? = some l.cursor.column }
    return { l with pending }

/-- Skips white space, comments and line breaks. Where a key may begin tabs are no white space, so
that they cannot indent. -/
def skipGap : (fuel : Nat) → Lexer → Lexer
  | 0, l => l
  | fuel + 1, l =>
    let c := l.cursor
    let c := if c.column = 0 && c.sees byteOrderMark then c.next else c
    let c := c.skipWhile fun x => x = ' ' || (l.inFlow || !l.keyAllowed) && x = '\t'
    let c := c.skipComment
    match c.lineBreak? with
    | none => { l with cursor := c }
    | some (_, c) => skipGap fuel { l with cursor := c, keyAllowed := l.keyAllowed || !l.inFlow }

/-- A mark between documents or a directive: all blocks end before it. -/
def betweenDocuments (l : Lexer) : Option Lexer := do
  let l ← (l.closeBlocks fun _ => false).dropKey
  return { l with keyAllowed := false }

def openFlow (token : Token) (l : Lexer) : Option Lexer := do
  let l ← l.noteKey
  return { l.pushAhead 1 token with outer := l.pending :: l.outer, pending := none, keyAllowed := true }

def closeFlow (token : Token) (l : Lexer) : Option Lexer := do
  let l ← l.dropKey
  let l := { l.pushAhead 1 token with keyAllowed := false }
  match l.outer with
  | [] => return l
  | pending :: outer => return { l with pending, outer }

def flowEntry (l : Lexer) : Option Lexer := do
  let l ← l.dropKey
  return { l.pushAhead 1 .flowEntry with keyAllowed := true }

def blockEntry (l : Lexer) : Option Lexer :=
  if !l.inFlow && !l.keyAllowed then none
  else do
    let l ← (l.openBlock l.cursor.column l.tokens.size .blockSequenceStart).dropKey
    return { l.pushAhead 1 .blockEntry with keyAllowed := true }

/-- The question mark in front of a key. -/
def explicitKey (l : Lexer) : Option Lexer :=
  if !l.inFlow && !l.keyAllowed then none
  else do
    let l ← (l.openBlock l.cursor.column l.tokens.size .blockMappingStart).dropKey
    return { l.pushAhead 1 .key with keyAllowed := !l.inFlow }

/-- The colon behind a key, be it one that is pending or one behind a question mark. -/
def value (l : Lexer) : Option Lexer :=
  match l.usableKey? with
  | some key =>
    let l := (l.insert key.position .key).openBlock key.column key.position .blockMappingStart
    some { l.pushAhead 1 .value with pending := none, keyAllowed := false }
  | none =>
    if l.pending.any (·.required) || (!l.inFlow && !l.keyAllowed) then none
    else
      let l := l.openBlock l.cursor.column l.tokens.size .blockMappingStart
      some { l.pushAhead 1 .value with pending := none, keyAllowed := !l.inFlow }

/-- An anchor, or the use of one. -/
def name (token : String → Token) (l : Lexer) : Option Lexer := do
  let l ← l.noteKey
  let (word, c) := l.cursor.next.span isWordChar
  if !word.isEmpty && (endsToken c.head? || c.head?.any fun x => "?:,]\x7d%@\x60".contains x) then
    return { l.push (token (String.ofList word)) with cursor := c, keyAllowed := false }
  else none

def tag (l : Lexer) : Option Lexer := do
  let l ← l.noteKey
  let (token, cursor) ← TagText.read l.inFlow l.cursor
  return { l.push token with cursor, keyAllowed := false }

def directive (l : Lexer) : Option Lexer := do
  let l ← l.betweenDocuments
  let (token, cursor) ← TagText.directive l.cursor
  return { l.push token with cursor }

def documentMark (token : Token) (l : Lexer) : Option Lexer := do
  let l ← l.betweenDocuments
  return l.pushAhead 3 token

def block (style : ScalarStyle) (l : Lexer) : Option Lexer := do
  let l ← l.dropKey
  let (text, cursor) ← BlockScalar.read (style = .literal) l.minColumn l.cursor
  return { l.push (.scalar style text) with cursor, keyAllowed := true }

def quoted (style : ScalarStyle) (quote : Char) (l : Lexer) : Option Lexer := do
  let l ← l.noteKey
  let (text, cursor) ← QuotedScalar.read quote l.cursor
  return { l.push (.scalar style text) with cursor, keyAllowed := false }

def plain (l : Lexer) : Option Lexer := do
  let l ← l.noteKey
  let (text, keyAllowed, cursor) ← PlainScalar.read l.inFlow l.minColumn l.cursor
  return { l.push (.scalar .plain text) with cursor, keyAllowed }

/-- Whether a plain scalar can begin with a character, given the one behind it. -/
def beginsPlain (l : Lexer) (x : Char) (second : Option Char) : Bool :=
  !isIndicator x && !isGap x || x = '-' && !second.any isSpace ||
    !l.inFlow && (x = '?' || x = ':') && !endsToken second

def token (x : Char) (l : Lexer) : Option Lexer :=
  let second := l.cursor.ahead 1
  if l.cursor.column = 0 && x = '%' then l.directive
  else if l.cursor.atMark '-' then l.documentMark .documentStart
  else if l.cursor.atMark '.' then l.documentMark .documentEnd
  else if x = '[' then l.openFlow .flowSequenceStart
  else if x = '\x7b' then l.openFlow .flowMappingStart
  else if x = ']' then l.closeFlow .flowSequenceEnd
  else if x = '\x7d' then l.closeFlow .flowMappingEnd
  else if x = ',' then l.flowEntry
  else if x = '-' && endsToken second then l.blockEntry
  else if x = '?' && (l.inFlow || endsToken second) then l.explicitKey
  else if x = ':' && (l.inFlow || endsToken second) then l.value
  else if x = '*' then l.name .alias
  else if x = '&' then l.name .anchor
  else if x = '!' then l.tag
  else if x = '|' && !l.inFlow then l.block .literal
  else if x = '>' && !l.inFlow then l.block .folded
  else if x = '\x27' then l.quoted .singleQuoted x
  else if x = '\x22' then l.quoted .doubleQuoted x
  else if l.beginsPlain x second then l.plain
  else none

/-- Reads on up to the end of the text, where all blocks end. -/
def run : (fuel : Nat) → Lexer → Option (Array Token)
  | 0, _ => none
  | fuel + 1, l =>
    let l := l.skipGap (l.cursor.rest.length + 1)
    match l.cursor.head? with
    | none => do
      let l ← (l.closeBlocks fun _ => false).dropKey
      return l.tokens
    | some x =>
      match (l.closeBlocks (· ≤ l.cursor.column)).token x with
      | some l => run fuel l
      | none => none

end Lexer

/-- The tokens of a text, unless it holds characters that may not be in one. -/
def tokens? (text : List Char) : Option (List Token) :=
  if text.all isPrintable then
    (Lexer.run (text.length + 1) { cursor := { rest := text } }).map Array.toList
  else none

end NodeSupply.Yaml
