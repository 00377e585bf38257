import NodeSupply.Text.Blank
import NodeSupply.Timestamp.Basic

/-!
Moments as RFC 3339 text. Reading allows blanks before numbers and around separators, a blank or
either case of T between date and time, and any number of fraction digits, of which nine count.
Writing gives universal time in whole seconds.
-/

namespace NodeSupply.Timestamp

/-- Why a text is not a moment. -/
inductive TimeError where
  | outOfRange
  | invalid
  | tooShort
  | tooLong
  /-- The moment is out of range in universal time, though not in local time. -/
  | impossible
deriving DecidableEq

def TimeError.message : TimeError → String
  | .outOfRange => "input is out of range"
  | .invalid => "input contains invalid characters"
  | .tooShort => "premature end of input"
  | .tooLong => "trailing input"
  | .impossible => "no possible date and time matching input"

def skipBlanks (cs : List Char) : List Char := cs.dropWhile Text.isBlank

/-- A number of at least one digit and at most `width` of them. -/
def number (width : Nat) (cs : List Char) : Except TimeError (Nat × List Char) :=
  let digits := (cs.take width).takeWhile Char.isDigit
  if digits.isEmpty then .error (if cs.isEmpty then .tooShort else .invalid)
  else
    let n := digits.foldl (fun n c => 10 * n + (c.toNat - 48)) 0
    if 1 <<< 63 ≤ n then .error .outOfRange else .ok (n, cs.drop digits.length)

/-- A number within bounds, with blanks before it. -/
def numberIn (low high width : Nat) (cs : List Char) : Except TimeError (Nat × List Char) := do
  let (n, rest) ← number width (skipBlanks cs)
  if low ≤ n ∧ n ≤ high then .ok (n, rest) else .error .outOfRange

/-- A year: four digits, or any number of them behind a sign. It fits 32 bits. -/
def year (cs : List Char) : Except TimeError (Int × List Char) := do
  let (n, rest) ←
    match skipBlanks cs with
    | '-' :: cs => (number cs.length cs).map fun (n, rest) => (-(n : Int), rest)
    | '+' :: cs => (number cs.length cs).map fun (n, rest) => ((n : Int), rest)
    | cs => (number 4 cs).map fun (n, rest) => ((n : Int), rest)
  if Int32.minValue.toInt ≤ n ∧ n ≤ Int32.maxValue.toInt then .ok (n, rest) else .error .outOfRange

def separator (c : Char) (cs : List Char) : Except TimeError (List Char) :=
  match skipBlanks cs with
  | [] => .error .tooShort
  | first :: rest => if first = c then .ok rest else .error .invalid

/-- The nanoseconds of a fraction, if there is one. -/
def fraction : List Char → Except TimeError (Nat × List Char)
  | '.' :: cs => do
    let (n, rest) ← number 9 cs
    let used := cs.length - rest.length
    .ok (n * Nat.pow 10 (9 - used), rest.dropWhile Char.isDigit)
  | cs => .ok (0, cs)

/-- Two digits that stand one after the other. Fewer than two octets are too short. -/
def twoDigits : List Char → Except TimeError ((Nat × Nat) × List Char)
  | a :: b :: rest =>
    if a.isDigit && b.isDigit then .ok ((a.toNat - 48, b.toNat - 48), rest) else .error .invalid
  | [c] => .error (if c.utf8Size < 2 then .tooShort else .invalid)
  | [] => .error .tooShort

/-- The seconds by which local time runs ahead. -/
def offset (cs : List Char) : Except TimeError (Int × List Char) :=
  match cs with
  | 'z' :: rest | 'Z' :: rest => .ok (0, rest)
  | [] => .error .tooShort
  | sign :: rest =>
    if (['u', 't', 'c'] : List Char).isPrefixOf (cs.map Char.toLower) then .ok (0, cs.drop 3)
    else if sign = '+' ∨ sign = '-' ∨ sign.toNat = 0x2212 then do
      let ((h₁, h₂), rest) ← twoDigits rest
      let ((m₁, m₂), rest) ← twoDigits (rest.dropWhile fun c => c = ':' || Text.isBlank c)
      if 6 ≤ m₁ then .error .outOfRange
      else
        let seconds : Int := (h₁ * 10 + h₂) * 3600 + (m₁ * 10 + m₂) * 60
        .ok (if sign = '+' then seconds else -seconds, rest)
    else .error .invalid

def dateEnd : List Char → Except TimeError (List Char)
  | [] => .error .tooShort
  | c :: rest => if c = 't' ∨ c = 'T' ∨ c = ' ' then .ok rest else .error .invalid

def firstDate : Date := ⟨-262143, 1, 1⟩

def lastDate : Date := ⟨262142, 12, 31⟩

/-- Whether a date whose month and day can occur is in the calendar. -/
def isInCalendar (date : Date) : Bool :=
  firstDate.year ≤ date.year && date.year ≤ lastDate.year &&
    date.day ≤ daysInMonth date.year date.month

/-- The moment of a local date, time of day and offset. -/
def ofLocal (date : Date) (hour minute second nanos : Nat) (offset : Int) :
    Except TimeError Timestamp :=
  if !isInCalendar date ∨ 86400 ≤ offset ∨ offset ≤ -86400 then .error .outOfRange
  else
    let leap := second = 60
    let ofDay : Int := hour * 3600 + minute * 60 + (if leap then 59 else second)
    let seconds := date.toDays * 86400 + ofDay - offset
    if seconds < firstDate.toDays * 86400 ∨ (lastDate.toDays + 1) * 86400 ≤ seconds then
      .error .impossible
    else .ok ⟨seconds, if leap then 1000000000 + nanos else nanos⟩

def parse (text : String) : Except TimeError Timestamp := do
  let (year, cs) ← year text.toList
  let cs ← separator '-' cs
  let (month, cs) ← numberIn 1 12 2 cs
  let cs ← separator '-' cs
  let (day, cs) ← numberIn 1 31 2 cs
  let cs ← dateEnd cs
  let (hour, cs) ← numberIn 0 23 2 cs
  let cs ← separator ':' cs
  let (minute, cs) ← numberIn 0 59 2 cs
  let cs ← separator ':' cs
  let (second, cs) ← numberIn 0 60 2 cs
  let (nanos, cs) ← fraction cs
  let (offset, cs) ← offset (skipBlanks cs)
  if (skipBlanks cs).isEmpty then
    ofLocal ⟨year, month, day⟩ hour minute second nanos offset
  else .error .tooLong

/-- A number with zeros in front, up to a width. -/
def padded (width n : Nat) : String :=
  let digits := toString n
  String.ofList (List.replicate (width - digits.length) '0') ++ digits

/-- A year in four digits, with a sign if it needs more or lies before year zero. -/
def yearText (year : Int) : String :=
  if 0 ≤ year ∧ year ≤ 9999 then padded 4 year.toNat
  else (if year < 0 then "-" else "+") ++ padded 4 year.natAbs

/-- Writes a moment in universal time, without its fraction. -/
def text (t : Timestamp) : String :=
  let date := Date.ofDays (t.seconds / 86400)
  let ofDay := (t.seconds % 86400).toNat
  let second := ofDay % 60 + (if 1000000000 ≤ t.nanos then 1 else 0)
  yearText date.year ++ "-" ++ padded 2 date.month ++ "-" ++ padded 2 date.day ++ "T" ++
    padded 2 (ofDay / 3600) ++ ":" ++ padded 2 (ofDay / 60 % 60) ++ ":" ++ padded 2 second ++ "Z"

end NodeSupply.Timestamp
