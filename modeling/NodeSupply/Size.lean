import NodeSupply.Binary64.Basic
import NodeSupply.CapacityError
import NodeSupply.Text.Blank

/-!
Size texts such as `14.96Gi`: a decimal number and a binary unit, read as a number of GiB. The
grammar and the value of a text are stated apart from the check that the value is admissible.
-/

namespace NodeSupply

inductive SizeUnit where
  | tebi
  | gibi
  | mebi
deriving DecidableEq

namespace SizeUnit

/-- The unit of a two-letter suffix in any letter case. -/
def ofSuffix? (first second : Char) : Option SizeUnit :=
  if second = 'i' ∨ second = 'I' then
    if first = 't' ∨ first = 'T' then some .tebi
    else if first = 'g' ∨ first = 'G' then some .gibi
    else if first = 'm' ∨ first = 'M' then some .mebi
    else none
  else none

def gib : SizeUnit → Binary64
  | .tebi => .ofNat 1024
  | .gibi => .ofNat 1
  | .mebi => .ofNat 1 / .ofNat 1024

end SizeUnit

/-- A size text taken apart: whole digits, digits behind the point if there is one, and unit. -/
structure SizeText where
  whole : List Char
  fraction : Option (List Char)
  unit : SizeUnit
deriving DecidableEq

namespace SizeText

/-- The unit and the end of a size text. -/
def unitOf? : List Char → Option SizeUnit
  | [first, second] => SizeUnit.ofSuffix? first second
  | _ => none

/-- Takes the characters of a trimmed size text apart. -/
def ofChars? (cs : List Char) : Option SizeText :=
  let whole := cs.takeWhile Char.isDigit
  if whole.isEmpty then none
  else
    match cs.dropWhile Char.isDigit with
    | '.' :: rest =>
      let fraction := rest.takeWhile Char.isDigit
      if fraction.isEmpty then none
      else (unitOf? (rest.dropWhile Char.isDigit)).map fun unit => ⟨whole, some fraction, unit⟩
    | rest => (unitOf? rest).map fun unit => ⟨whole, none, unit⟩

/-- The number that decimal digits stand for. -/
def digitsValue (digits : List Char) : Nat :=
  digits.foldl (fun n c => 10 * n + (c.toNat - 48)) 0

def number (t : SizeText) : Binary64 :=
  let fraction := t.fraction.getD []
  .ofDecimal false (digitsValue (t.whole ++ fraction)) (-(fraction.length : Int))

def gib (t : SizeText) : Binary64 := t.number * t.unit.gib

end SizeText

def bytesPerGib : Binary64 := .ofNat (1 <<< 30)

def greatestSizeBytes : Binary64 := .ofNat ((1 <<< 63) - 1)

/-- Whether a size in GiB is negative or has too many bytes. -/
def outOfSizeRange (gib : Binary64) : Bool :=
  gib.lt .zero || greatestSizeBytes.lt (gib * bytesPerGib)

/-- Reads a size in GiB; zero is a size only where `zeroAllowed`. -/
def readSize (zeroAllowed : Bool) (value : String) : Except CapacityError Binary64 :=
  match SizeText.ofChars? (Text.trimChars value.toList) with
  | none => .error (.invalidSize value)
  | some t =>
    if outOfSizeRange t.gib || (!zeroAllowed && t.gib.isZero) then .error (.invalidSize value)
    else .ok t.gib

/-- Reads the size of something that has to be there. -/
def parseSize : String → Except CapacityError Binary64 := readSize false

/-- Reads the size of a requirement, which may be zero. -/
def parseRequirement : String → Except CapacityError Binary64 := readSize true

/-- The whole bytes of a size in GiB, rounded up and held within 64 bits. -/
def gibToBytes (gib : Binary64) : UInt64 :=
  UInt64.ofNat ((gib * bytesPerGib).ceil.toNatBelow (UInt64.size - 1))

end NodeSupply
