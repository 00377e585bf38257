import NodeSupply.Digest.Sha256
import NodeSupply.Text.Quoted
import NodeSupply.Workload

/-!
The names of claims. A name is made from the workload and an identifier that is fresh for each
claim, so that claims of one workload do not share names.
-/

namespace NodeSupply

namespace ClaimName

def source (nameSpace name id : String) : List UInt8 :=
  nameSpace.toUTF8.toList ++ name.toUTF8.toList ++ id.toUTF8.toList

/-- The hexadecimal digits of bytes, two for each. -/
def hexDigits (bytes : List UInt8) : List Char :=
  bytes.flatMap fun b => [Text.hexDigit (b.toNat / 16), Text.hexDigit (b.toNat % 16)]

/-- The name of the claim with an identifier: `ws` and nine digits of a digest. -/
def of (nameSpace name id : String) : String :=
  "ws" ++ String.ofList ((hexDigits (Sha256.digest (source nameSpace name id))).take 9)

end ClaimName

/-- What hands out identifiers: the next one, and the source behind it. -/
class IdSource (ι : Type) where
  take : ι → String × ι

/-- A source of identifiers that counts up, and starts over after the greatest 64-bit number. -/
structure IdSequence where
  next : UInt64
deriving DecidableEq

namespace IdSequence

def take (s : IdSequence) : String × IdSequence :=
  (toString s.next.toNat, ⟨s.next + 1⟩)

def takeMany (s : IdSequence) : Nat → List String
  | 0 => []
  | n + 1 => s.take.1 :: s.take.2.takeMany n

instance : IdSource IdSequence := ⟨take⟩

end IdSequence

def randomId (bits : Nat) : String :=
  let high := bits / UInt64.size % UInt64.size
  let low := bits % UInt64.size
  let high := high / UInt16.size * UInt16.size + 4 <<< 12 + high % (1 <<< 12)
  let low := 2 <<< 62 + low % (1 <<< 62)
  let digits := ClaimName.hexDigits (Sha256.bigEndian 8 high ++ Sha256.bigEndian 8 low)
  String.ofList (digits.take 8 ++ '-' :: (digits.drop 8).take 4 ++ '-' :: (digits.drop 12).take 4 ++
    '-' :: (digits.drop 16).take 4 ++ '-' :: digits.drop 20)

end NodeSupply
