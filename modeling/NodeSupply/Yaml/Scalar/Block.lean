import NodeSupply.Yaml.Cursor

/-!
Scalars that fill the indented lines below a header. The header is a bar if lines are kept and an
angle bracket if they are joined; digits and signs behind it fix the indentation and what becomes of
the line breaks at the end.
-/

namespace NodeSupply.Yaml.BlockScalar

/-- What becomes of the line breaks at the end of a block. -/
inductive Chomping where
  /-- All are dropped. -/
  | strip
  /-- One is kept. -/
  | clip
  /-- All are kept. -/
  | keep
deriving DecidableEq

def chomping? (c : Cursor) : Option Chomping × Cursor :=
  if c.sees '+' then (some .keep, c.next)
  else if c.sees '-' then (some .strip, c.next)
  else (none, c)

/-- The indentation that is next, if it is stated; it is not zero. -/
def indentation? (c : Cursor) : Option (Option Nat × Cursor) :=
  match c.head? with
  | some x =>
    if x = '0' then none
    else if x.isDigit then some (some (x.toNat - 48), c.next)
    else some (none, c)
  | none => some (none, c)

/-- Reads the header, behind its first character, and the line break at its end. -/
def header (c : Cursor) : Option (Chomping × Option Nat × Cursor) := do
  let (before, c) := chomping? c
  let (increment, c) ← indentation? c
  let (after, c) := if before.isNone && increment.isSome then chomping? c else (none, c)
  let c := (c.skipWhile isSpace).skipComment
  if endsLine c.head? then return ((before.or after).getD .clip, increment, c.skipLineBreak)
  else none

/-- Skips indentation and empty lines, of which the line breaks are collected. While the indentation
is unknown all spaces count to it, and the widest is found. -/
def emptyLines (indent : Option Nat) :
    (fuel widest : Nat) → List Char → Cursor → Option (Nat × List Char × Cursor)
  | 0, _, _, _ => none
  | fuel + 1, widest, breaks, c =>
    let inIndentation (c : Cursor) : Bool := indent.all fun n => c.column < n
    let spaces := (c.rest.takeWhile (· = ' ')).length
    let c := c.skip (match indent with | none => spaces | some n => min spaces (n - c.column))
    if inIndentation c && c.sees '\t' then none
    else
      match c.lineBreak? with
      | some (x, next) => emptyLines indent fuel (max widest c.column) (breaks ++ [x]) next
      | none => some (max widest c.column, breaks, c)

/-- What has been read of a block. -/
structure Progress where
  /-- The characters, of which the last is first. -/
  done : List Char := []
  /-- The break at the end of the last line. -/
  lineEnd : Option Char := none
  /-- The breaks of the empty lines behind it. -/
  breaks : List Char := []
  /-- Whether the last line began with white space, as lines do that are not joined. -/
  indented : Bool := false

/-- What stands between the last line and the one to come. -/
def Progress.joint (p : Progress) (isLiteral indentedNext : Bool) : List Char :=
  if !isLiteral && p.lineEnd = some '\n' && !p.indented && !indentedNext then
    if p.breaks.isEmpty then [' '] else p.breaks
  else p.lineEnd.toList ++ p.breaks

/-- Reads the lines at a column. -/
def lines (isLiteral : Bool) (column : Nat) :
    (fuel : Nat) → Progress → Cursor → Option (Progress × Cursor)
  | 0, _, _ => none
  | fuel + 1, p, c =>
    if c.column ≠ column || c.rest.isEmpty then some (p, c)
    else do
      let indented := c.head?.any isSpace
      let (line, c) := c.span fun x => !isBreak x
      let done := line.reverse ++ (p.joint isLiteral indented).reverse ++ p.done
      let lineEnd := c.lineBreak?.map (·.1)
      let (_, breaks, c) ← emptyLines (some column) (c.rest.length + 1) 0 [] c.skipLineBreak
      lines isLiteral column fuel { done, lineEnd, breaks, indented } c

/-- Reads a block, of which the lines begin at a column or behind it. A stated indentation counts from
the column of the block around it. -/
def read (isLiteral : Bool) (minColumn : Nat) (c : Cursor) : Option (String × Cursor) := do
  let (chomping, increment, c) ← header c.next
  let stated := increment.map fun n => (minColumn - 1) + n
  let (widest, breaks, c) ← emptyLines stated (c.rest.length + 1) 0 [] c
  let column := stated.getD (max widest (max minColumn 1))
  let (p, c) ← lines isLiteral column (c.rest.length + 1) { breaks } c
  let tail :=
    match chomping with
    | .strip => []
    | .clip => p.lineEnd.toList
    | .keep => p.lineEnd.toList ++ p.breaks
  return (String.ofList (p.done.reverse ++ tail), c)

end NodeSupply.Yaml.BlockScalar
