import NodeSupply.Json.Basic

/-!
Reading numbers. Of the digits of a number only so many count as fit 64 bits, and the power of ten
is put on in doubles, so a number need not become the nearest double.
-/

namespace NodeSupply.Json

/-- Puts digits behind a number as long as it fits 64 bits. Gives the number and how many digits
were left off. -/
def appendDigits (n : Nat) : List Char → Nat × Nat
  | [] => (n, 0)
  | c :: rest =>
    let longer := 10 * n + (c.toNat - 48)
    if longer < UInt64.size then appendDigits longer rest else (n, rest.length + 1)

/-- The greatest exponent of a power of ten that is a finite double. -/
def greatestPower : Nat := 308

def powerOfTen (exponent : Nat) : Binary64 := .ofNat (Nat.pow 10 exponent)

/-- A double over a power of ten, which is divided out by the greatest power for as long as more
than that is left. -/
def overPowerOfTen (x : Binary64) (exponent : Nat) : Binary64 :=
  if exponent ≤ greatestPower then x / powerOfTen exponent
  else if x.isZero then x
  else overPowerOfTen (x / powerOfTen greatestPower) (exponent - greatestPower)
termination_by exponent
decreasing_by simp only [greatestPower] at *; omega

/-- A number with a power of ten, if it is a finite double. -/
def scaled? (n : Nat) (exponent : Int) : Option Binary64 :=
  let x := Binary64.ofNat n
  if exponent < 0 then some (overPowerOfTen x exponent.natAbs)
  else if x.isZero then some x
  else if greatestPower < exponent.toNat then none
  else
    let product := x * powerOfTen exponent.toNat
    if product.isFinite then some product else none

/-- A number as it is written, without its sign. -/
structure Numeral where
  whole : List Char
  fraction : Option (List Char)
  exponent : Option Int

/-- The value of a numeral. One without fraction and exponent is a whole number if it fits. -/
def Numeral.value (negative : Bool) (numeral : Numeral) : Json :=
  let real (n : Nat) (exponent : Int) : Json :=
    match scaled? n exponent with
    | some x => .real (if negative then -x else x)
    | none => .unrepresentable
  let (n, beyond) := appendDigits 0 numeral.whole
  if numeral.fraction.isNone && numeral.exponent.isNone && beyond = 0 then
    if !negative then .int n
    else if 0 < n && n ≤ 1 <<< 63 then .int (-(n : Int))
    else real n 0
  else
    let fraction := numeral.fraction.getD []
    let (n, leftOff) := appendDigits n fraction
    let places := fraction.length - leftOff
    real n (beyond - places + numeral.exponent.getD 0)

/-- The digits that come first, of which there must be one, and what follows them. -/
def digits? (cs : List Char) : Option (List Char × List Char) :=
  let digits := cs.takeWhile Char.isDigit
  if digits.isEmpty then none else some (digits, cs.dropWhile Char.isDigit)

/-- The digits behind a point, if one is next. -/
def fraction? : List Char → Option (Option (List Char) × List Char)
  | '.' :: cs => (digits? cs).map fun (digits, rest) => (some digits, rest)
  | cs => some (none, cs)

/-- The exponent with its letter and sign, if one is next. -/
def exponent? : List Char → Option (Option Int × List Char)
  | 'e' :: cs | 'E' :: cs =>
    let (negative, cs) :=
      match cs with
      | '-' :: rest => (true, rest)
      | '+' :: rest => (false, rest)
      | _ => (false, cs)
    (digits? cs).map fun (digits, rest) =>
      let n : Int := digits.foldl (fun n c => 10 * n + (c.toNat - 48)) 0
      (some (if negative then -n else n), rest)
  | cs => some (none, cs)

/-- A number and what follows it; the sign has been read. No zero may stand before other digits. -/
def number? (negative : Bool) (cs : List Char) : Option (Json × List Char) := do
  let (whole, cs) ← digits? cs
  if whole.head? = some '0' && 1 < whole.length then none
  else
    let (fraction, cs) ← fraction? cs
    let (exponent, cs) ← exponent? cs
    let numeral : Numeral := { whole, fraction, exponent }
    return (numeral.value negative, cs)

end NodeSupply.Json
