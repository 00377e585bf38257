import NodeSupply.Json.Basic
import NodeSupply.Binary64.Shortest
import NodeSupply.Text.Quoted

/-!
Writing JSON text without white space. A number that is not whole has the fewest digits that read
back. What has no value is written as null.
-/

namespace NodeSupply.Json

/-- Ties go to even digits. Numbers are written in full from 10⁻⁵ up to 10¹⁶, else with a signed
exponent. -/
def numberLayout : Binary64.Layout := ⟨true, -5, 15, true, "null", "null"⟩

def escapeByNumber (c : Char) : List Char :=
  let n := c.toNat
  ['\\', 'u', '0', '0', Text.hexDigit (n / 16), Text.hexDigit (n % 16)]

def escapeChar (c : Char) : List Char :=
  if c = '\x22' then ['\\', '\x22']
  else if c = '\\' then ['\\', '\\']
  else if c = '\n' then ['\\', 'n']
  else if c = '\r' then ['\\', 'r']
  else if c = '\t' then ['\\', 't']
  else if c.toNat = 8 then ['\\', 'b']
  else if c.toNat = 12 then ['\\', 'f']
  else if c.toNat < 0x20 then escapeByNumber c
  else [c]

def stringText (s : String) : String :=
  String.ofList ('\x22' :: s.toList.flatMap escapeChar ++ ['\x22'])

def commaSeparated (texts : List String) : String := ",".intercalate texts

mutual

def text : Json → String
  | .null => "null"
  | .bool b => if b then "true" else "false"
  | .int n => toString n
  | .real x => numberLayout.text x
  | .string s => stringText s
  | .array items => "[" ++ commaSeparated (itemTexts items) ++ "]"
  | .unrepresentable => "null"
  | .object members => "\x7b" ++ commaSeparated (memberTexts members) ++ "\x7d"

def itemTexts : List Json → List String
  | [] => []
  | j :: rest => text j :: itemTexts rest

def memberTexts : List (String × Json) → List String
  | [] => []
  | (key, j) :: rest => (stringText key ++ ":" ++ text j) :: memberTexts rest

end

end NodeSupply.Json
