import NodeSupply.Binary64.Rounding

/-!
Double-precision numbers as exact values. A finite number is a sign and a magnitude in units of
2⁻¹⁰⁷⁴; every operation forms the exact result and rounds it once, to nearest with ties to even.
-/

namespace NodeSupply

/-- The magnitude of a finite double, in units of 2⁻¹⁰⁷⁴. -/
structure Magnitude where
  units : Nat
  onGrid : Binary64.OnGrid units
  bounded : units < Binary64.overflowUnits
deriving DecidableEq

/-- A double-precision number; all NaNs are one. -/
inductive Binary64 where
  | nan
  | infinite (negative : Bool)
  | finite (negative : Bool) (magnitude : Magnitude)
deriving DecidableEq

namespace Binary64

def unit : Nat := 1 <<< 1074

/-- The double nearest to a quotient of whole numbers of units. -/
def ofUnits (negative : Bool) (num den : Nat) : Binary64 :=
  if bounded : roundUnits num den < overflowUnits then
    .finite negative ⟨roundUnits num den, onGrid_roundUnits num den, bounded⟩
  else .infinite negative

def ofRatio (negative : Bool) (num den : Nat) : Binary64 :=
  ofUnits negative (num * unit) den

def ofNat (n : Nat) : Binary64 := ofRatio false n 1

def ofDecimal (negative : Bool) (digits : Nat) (exponent : Int) : Binary64 :=
  if 0 ≤ exponent then ofRatio negative (digits * Nat.pow 10 exponent.toNat) 1
  else ofRatio negative digits (Nat.pow 10 (-exponent).toNat)

def zero : Binary64 := ofNat 0

def neg : Binary64 → Binary64
  | .nan => .nan
  | .infinite s => .infinite (!s)
  | .finite s m => .finite (!s) m

/-- The exact sum of two signed magnitudes, rounded; an exact zero is negative only if both are. -/
def addFinite (s : Bool) (a : Nat) (t : Bool) (b : Nat) : Binary64 :=
  if s = t then ofUnits s (a + b) 1
  else if b < a then ofUnits s (a - b) 1
  else if a < b then ofUnits t (b - a) 1
  else ofUnits false 0 1

def add : Binary64 → Binary64 → Binary64
  | .nan, _ => .nan
  | _, .nan => .nan
  | .infinite s, .infinite t => if s = t then .infinite s else .nan
  | .infinite s, .finite _ _ => .infinite s
  | .finite _ _, .infinite t => .infinite t
  | .finite s a, .finite t b => addFinite s a.units t b.units

def sub (x y : Binary64) : Binary64 := add x (neg y)

def mul : Binary64 → Binary64 → Binary64
  | .nan, _ => .nan
  | _, .nan => .nan
  | .infinite s, .infinite t => .infinite (s ^^ t)
  | .infinite s, .finite t b => if b.units = 0 then .nan else .infinite (s ^^ t)
  | .finite s a, .infinite t => if a.units = 0 then .nan else .infinite (s ^^ t)
  | .finite s a, .finite t b => ofUnits (s ^^ t) (a.units * b.units) unit

def div : Binary64 → Binary64 → Binary64
  | .nan, _ => .nan
  | _, .nan => .nan
  | .infinite _, .infinite _ => .nan
  | .infinite s, .finite t _ => .infinite (s ^^ t)
  | .finite s _, .infinite t => ofUnits (s ^^ t) 0 1
  | .finite s a, .finite t b =>
    if b.units = 0 then (if a.units = 0 then .nan else .infinite (s ^^ t))
    else ofUnits (s ^^ t) (a.units * unit) b.units

instance : Neg Binary64 := ⟨neg⟩
instance : Add Binary64 := ⟨add⟩
instance : Sub Binary64 := ⟨sub⟩
instance : Mul Binary64 := ⟨mul⟩
instance : Div Binary64 := ⟨div⟩

def signedUnits (negative : Bool) (m : Magnitude) : Int :=
  if negative then -(m.units : Int) else m.units

/-- Whether the first number lies below the second; NaN lies below nothing and above nothing. -/
def lt : Binary64 → Binary64 → Bool
  | .nan, _ => false
  | _, .nan => false
  | .infinite s, .infinite t => s && !t
  | .infinite s, .finite _ _ => s
  | .finite _ _, .infinite t => !t
  | .finite s a, .finite t b => signedUnits s a < signedUnits t b

def isZero : Binary64 → Bool
  | .finite _ m => m.units = 0
  | _ => false

def isFinite : Binary64 → Bool
  | .finite _ _ => true
  | _ => false

/-- The greatest whole number that is not above. -/
def floor : Binary64 → Binary64
  | .finite s m =>
    ofRatio s (if s then (m.units + (unit - 1)) / unit else m.units / unit) 1
  | x => x

/-- The least whole number that is not below. -/
def ceil : Binary64 → Binary64
  | .finite s m =>
    ofRatio s (if s then m.units / unit else (m.units + (unit - 1)) / unit) 1
  | x => x

/-- The whole part, held between zero and a greatest value; NaN counts as zero. -/
def toNatBelow (greatest : Nat) : Binary64 → Nat
  | .nan => 0
  | .infinite s => if s then 0 else greatest
  | .finite s m => if s then 0 else min (m.units / unit) greatest

/-- Repeated multiplication by squaring, on an exponent of at most `fuel` binary digits. -/
def powFrom : (fuel : Nat) → (result base : Binary64) → (exponent : Nat) → Binary64
  | 0, result, _, _ => result
  | fuel + 1, result, base, n =>
    let result := if n % 2 = 1 then result * base else result
    if n / 2 = 0 then result else powFrom fuel result (base * base) (n / 2)

def pow (base : Binary64) (exponent : Nat) : Binary64 :=
  powFrom (exponent.log2 + 1) (ofNat 1) base exponent

def ofBits (bits : UInt64) : Binary64 :=
  let n := bits.toNat
  let negative := decide (1 <<< 63 ≤ n)
  let exponent := (n >>> 52) % (1 <<< 11)
  let fraction := n % (1 <<< 52)
  if exponent = 2047 then (if fraction = 0 then .infinite negative else .nan)
  else if exponent = 0 then ofUnits negative fraction 1
  else ofUnits negative ((1 <<< 52 + fraction) <<< (exponent - 1)) 1

/-- The exponent and fraction fields of a finite number. -/
def magnitudeBits (units : Nat) : Nat :=
  if units < 1 <<< 52 then units
  else
    let exponent := units.log2 - 51
    exponent <<< 52 + (units >>> (exponent - 1) - 1 <<< 52)

def toBits : Binary64 → UInt64
  | .nan => UInt64.ofNat (2047 <<< 52 + 1 <<< 51)
  | .infinite s => UInt64.ofNat ((if s then 1 <<< 63 else 0) + 2047 <<< 52)
  | .finite s m => UInt64.ofNat ((if s then 1 <<< 63 else 0) + magnitudeBits m.units)

end Binary64

end NodeSupply
