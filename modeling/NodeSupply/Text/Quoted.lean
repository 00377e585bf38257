import NodeSupply.Text.Hex
import NodeSupply.Text.EscapedTable
import NodeSupply.Text.CaseTable

/-!
The quoted form of a text: between double quotes, with a backslash before a quote or a backslash,
short forms for tab, line feed, carriage return and NUL, and the number in braces of every other
character that cannot be shown.
-/

namespace NodeSupply.Text

def hexChars (n : Nat) : List Char :=
  if n < 16 then [hexDigit n] else hexChars (n / 16) ++ [hexDigit (n % 16)]

/-- Whether a quoted text writes the character by its number. -/
def isEscaped (c : Char) : Bool :=
  if 0x20 ≤ c.toNat && c.toNat < 0x7F then false else inRanges escapedRanges c.toNat

def quoteChar (c : Char) : List Char :=
  if c = '\x22' then ['\\', '\x22']
  else if c = '\\' then ['\\', '\\']
  else if c = '\t' then ['\\', 't']
  else if c = '\n' then ['\\', 'n']
  else if c = '\r' then ['\\', 'r']
  else if c.toNat = 0 then ['\\', '0']
  else if isEscaped c then ['\\', 'u', '\x7b'] ++ hexChars c.toNat ++ ['\x7d']
  else [c]

def quote (s : String) : String :=
  String.ofList ('\x22' :: s.toList.flatMap quoteChar ++ ['\x22'])

end NodeSupply.Text
