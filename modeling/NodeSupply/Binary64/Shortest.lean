import NodeSupply.Binary64.Basic

/-!
The shortest decimal digits that read back as a given double, and the layouts in which they are
written. Among the decimals of least length the nearest to the number is taken; which of two equally
near ones that is, the layout says.
-/

namespace NodeSupply.Binary64

/-- The bounds between which reals round to a magnitude, and whether they do so at the bounds. -/
structure Neighbourhood where
  low : Nat
  middle : Nat
  high : Nat
  closed : Bool

/-- The reals that round to a magnitude, in quarters of a unit. -/
def neighbourhood (units : Nat) : Neighbourhood :=
  let s := dropped units 1
  let below := if units = 1 <<< (52 + s) && s ≠ 0 then 1 <<< s else 2 <<< s
  { low := 4 * units - below
    middle := 4 * units
    high := 4 * units + 2 <<< s
    closed := (units >>> s) % 2 = 0 }

/-- A decimal as its digits and the exponent of the last one. -/
structure Decimal where
  digits : Nat
  exponent : Int
deriving DecidableEq

/-- The decimal as a quotient, in quarters of a unit. -/
def Decimal.quarters (d : Decimal) : Nat × Nat :=
  if 0 ≤ d.exponent then (d.digits * Nat.pow 10 d.exponent.toNat * (4 * unit), 1)
  else (d.digits * (4 * unit), Nat.pow 10 (-d.exponent).toNat)

/-- Whether a decimal reads back as the magnitude of a neighbourhood. -/
def Neighbourhood.holds (n : Neighbourhood) (d : Decimal) : Bool :=
  let (num, den) := d.quarters
  if n.closed then n.low * den ≤ num && num ≤ n.high * den
  else n.low * den < num && num < n.high * den

/-- How far a decimal lies from the magnitude, as a numerator over the decimal's denominator. -/
def Neighbourhood.distance (n : Neighbourhood) (d : Decimal) : Nat :=
  let (num, den) := d.quarters
  (num - n.middle * den) + (n.middle * den - num)

/-- The greatest decimal with a given last place that is not above the magnitude. -/
def Neighbourhood.floorAt (n : Neighbourhood) (place : Int) : Decimal :=
  if 0 ≤ place then ⟨n.middle / (4 * unit * Nat.pow 10 place.toNat), place⟩
  else ⟨n.middle * Nat.pow 10 (-place).toNat / (4 * unit), place⟩

/-- Whether of two neighbours of the magnitude the lower is nearer. A tie goes upwards, or to the
even one. -/
def Neighbourhood.prefersBelow (n : Neighbourhood) (tiesToEven : Bool) (below above : Decimal) :
    Bool :=
  if n.distance below = n.distance above then tiesToEven && below.digits % 2 = 0
  else n.distance below < n.distance above

/-- The nearer of the two neighbours of the magnitude at a last place, if one reads back. -/
def Neighbourhood.at? (n : Neighbourhood) (tiesToEven : Bool) (place : Int) : Option Decimal :=
  let below := n.floorAt place
  let above : Decimal := ⟨below.digits + 1, place⟩
  match n.holds below, n.holds above with
  | true, true => some (if n.prefersBelow tiesToEven below above then below else above)
  | true, false => some below
  | false, true => some above
  | false, false => none

/-- The first hit at a last place from `place` downwards. -/
def Neighbourhood.search (n : Neighbourhood) (tiesToEven : Bool) :
    (fuel : Nat) → (place : Int) → Decimal
  | 0, place => n.floorAt place
  | fuel + 1, place =>
    match n.at? tiesToEven place with
    | some d => d
    | none => n.search tiesToEven fuel (place - 1)

/-- The shortest decimal that reads back as a magnitude; no double needs more places than these. -/
def shortest (tiesToEven : Bool) (units : Nat) : Decimal :=
  (neighbourhood units).search tiesToEven 700 309

/-- How a number is written: where ties between its shortest decimals go, which exponents of the
leading digit are written in full, and whether a positive exponent has a sign. -/
structure Layout where
  tiesToEven : Bool
  leastInFull : Int
  greatestInFull : Int
  plusSign : Bool
  notANumber : String
  infinity : String

def trimZeros (digits : List Char) : List Char :=
  (digits.reverse.dropWhile (· = '0')).reverse

/-- The text of digits whose leading one has the given exponent. -/
def Layout.place (layout : Layout) (digits : List Char) (exponent : Int) : List Char :=
  if layout.leastInFull ≤ exponent && exponent ≤ layout.greatestInFull then
    if exponent < 0 then
      '0' :: '.' :: (List.replicate (-exponent - 1).toNat '0' ++ digits)
    else
      let whole := exponent.toNat + 1
      let front := digits.take whole
      let back := digits.drop whole
      front ++ List.replicate (whole - front.length) '0' ++ '.' :: (if back.isEmpty then ['0'] else back)
  else
    let sign := if exponent < 0 then ['-'] else if layout.plusSign then ['+'] else []
    let fraction := digits.drop 1
    digits.take 1 ++ (if fraction.isEmpty then [] else '.' :: fraction) ++
      'e' :: sign ++ (toString exponent.natAbs).toList

def Layout.text (layout : Layout) : Binary64 → String
  | .nan => layout.notANumber
  | .infinite s => (if s then "-" else "") ++ layout.infinity
  | .finite s m =>
    let sign := if s then "-" else ""
    if m.units = 0 then sign ++ "0.0"
    else
      let d := shortest layout.tiesToEven m.units
      let all := (toString d.digits).toList
      sign ++ String.ofList (layout.place (trimZeros all) (d.exponent + all.length - 1))

end NodeSupply.Binary64
