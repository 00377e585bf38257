import NodeSupply.Yaml.Scalar.Folding

/-!
Scalars without quotes.
-/

namespace NodeSupply.Yaml.PlainScalar

/-- Whether the next character ends a plain scalar even though it is not white space. -/
def endsAt (inFlow : Bool) (c : Cursor) : Bool :=
  match c.head? with
  | none => true
  | some x => x = ':' && endsToken (c.ahead 1) || inFlow && isFlowIndicator x

/-- Whether a colon is next that is refused inside brackets and braces. -/
def refusedAt (inFlow : Bool) (c : Cursor) : Bool :=
  inFlow && c.sees ':' && (c.ahead 1).any fun x => isFlowIndicator x || x = '?'

/-- Reads a word behind the characters read so far, of which the last is first. -/
def word (inFlow : Bool) : (fuel : Nat) → List Char → Cursor → Option (List Char × Cursor)
  | 0, _, _ => none
  | fuel + 1, done, c =>
    match c.head? with
    | none => some (done, c)
    | some x =>
      if isGap x then some (done, c)
      else if refusedAt inFlow c then none
      else if endsAt inFlow c then some (done, c)
      else word inFlow fuel (x :: done) c.next

/-- Reads the words of a scalar and the gaps between them; `gap` lies in front of the next word.
The answer says whether a line has ended behind the last word. -/
def words (inFlow : Bool) (minColumn : Nat) :
    (fuel : Nat) → List Char → Gap → Cursor → Option (List Char × Bool × Cursor)
  | 0, _, _, _ => none
  | fuel + 1, done, gap, c =>
    if c.atDocumentMark || c.sees '#' then some (done, gap.broken, c)
    else do
      let (read, c) ← word inFlow (c.rest.length + 1) [] c
      let done := if read.isEmpty then done else read ++ gap.text.reverse ++ done
      let broken := read.isEmpty && gap.broken
      if !c.head?.any isGap then return (done, broken, c)
      let (gap, c) ← Gap.next minColumn false c
      if !inFlow && c.column < minColumn then return (done, gap.broken, c)
      words inFlow minColumn fuel done gap c

/-- Reads a plain scalar, of which no line may begin before a column unless it stands inside
brackets or braces. The answer says whether a line has ended behind it. -/
def read (inFlow : Bool) (minColumn : Nat) (c : Cursor) : Option (String × Bool × Cursor) := do
  let (done, broken, c) ← words inFlow minColumn (c.rest.length + 1) [] {} c
  return (String.ofList done.reverse, broken, c)

end NodeSupply.Yaml.PlainScalar
