/-!
The encoding of a value in a form: letters, digits and `*-._` stand for themselves, a blank is a
plus sign, and every other byte is a percent sign and two hexadecimal digits.
-/

namespace NodeSupply.Text

def upperHexDigit (n : Nat) : Char :=
  if n < 10 then Char.ofNat (48 + n) else Char.ofNat (55 + n)

def isPlainByte (b : UInt8) : Bool :=
  let n := b.toNat
  (48 ≤ n && n ≤ 57) || (65 ≤ n && n ≤ 90) || (97 ≤ n && n ≤ 122) ||
    n = 42 || n = 45 || n = 46 || n = 95

def encodeByte (b : UInt8) : List Char :=
  if isPlainByte b then [Char.ofNat b.toNat]
  else if b.toNat = 32 then ['+']
  else ['%', upperHexDigit (b.toNat / 16), upperHexDigit (b.toNat % 16)]

def formEncode (s : String) : String :=
  String.ofList (s.toUTF8.toList.flatMap encodeByte)

end NodeSupply.Text
