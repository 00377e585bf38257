import NodeSupply.Yaml.Cursor

/-!
Folding: how the white space and line breaks between two words of a scalar become part of it.
-/

namespace NodeSupply.Yaml

/-- The white space and line breaks between two words of a scalar that is not a block. Of white
space only that before the first break is kept. -/
structure Gap where
  /-- Whether a line has ended, be it by an escaped break. -/
  broken : Bool := false
  spaces : List Char := []
  firstBreak : Option Char := none
  moreBreaks : List Char := []

namespace Gap

/-- What a gap contributes to a scalar: one line break becomes a space, of several all but the
first stay, and white space beside line breaks is lost. -/
def text (g : Gap) : List Char :=
  if !g.broken then g.spaces
  else if g.firstBreak = some '\n' then
    if g.moreBreaks.isEmpty then [' '] else g.moreBreaks
  else g.firstBreak.toList ++ g.moreBreaks

def addSpace (g : Gap) (c : Char) : Gap :=
  if g.broken then g else { g with spaces := g.spaces ++ [c] }

def addBreak (g : Gap) (c : Char) : Gap :=
  if g.broken then { g with moreBreaks := g.moreBreaks ++ [c] }
  else { g with broken := true, firstBreak := some c }

/-- Reads on through a gap. A tab in front of the column where a line may begin is refused. -/
def read (tabColumn : Nat) : (fuel : Nat) → Gap → Cursor → Option (Gap × Cursor)
  | 0, _, _ => none
  | fuel + 1, g, c =>
    match c.head? with
    | none => some (g, c)
    | some x =>
      if isSpace x then
        if g.broken && x = '\t' && c.column < tabColumn then none
        else read tabColumn fuel (g.addSpace x) c.next
      else
        match c.lineBreak? with
        | some (x, c) => read tabColumn fuel (g.addBreak x) c
        | none => some (g, c)

/-- The gap that is next; `broken` says that the line before it has ended by an escaped break. -/
def next (tabColumn : Nat) (broken : Bool) (c : Cursor) : Option (Gap × Cursor) :=
  read tabColumn (c.rest.length + 1) { broken } c

end Gap

end NodeSupply.Yaml
