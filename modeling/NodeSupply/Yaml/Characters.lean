/-!
The classes of characters that the grammar of YAML speaks of.
-/

namespace NodeSupply.Yaml

/-- Whether a character may stand in a YAML text at all. -/
def isPrintable (c : Char) : Bool :=
  let n := c.toNat
  n = 0x9 || n = 0xA || n = 0xD || (0x20 ≤ n && n ≤ 0x7E) || n = 0x85 || (0xA0 ≤ n && n ≤ 0xD7FF) ||
    (0xE000 ≤ n && n ≤ 0xFFFD) || 0x10000 ≤ n

/-- The byte order mark, which may begin a line. -/
def byteOrderMark : Char := '\uFEFF'

/-- A break of which a scalar keeps no more than that there is one. -/
def isPlainBreak (c : Char) : Bool :=
  c = '\n' || c = '\r' || c = '\u0085'

def isBreak (c : Char) : Bool :=
  isPlainBreak c || c = '\u2028' || c = '\u2029'

def isSpace (c : Char) : Bool :=
  c = ' ' || c = '\t'

/-- A character that separates tokens. -/
def isGap (c : Char) : Bool :=
  isSpace c || isBreak c

/-- A character of names of anchors and directives and of tag handles. -/
def isWordChar (c : Char) : Bool :=
  c.isAlphanum || c = '_' || c = '-'

/-- A character of tags; inside `<` and `>` a tag may hold some more. -/
def isTagChar (verbatim : Bool) (c : Char) : Bool :=
  isWordChar c || ";/?:@&=+$.%!~*'()".contains c || (verbatim && ",[]".contains c)

/-- A character that has a meaning of its own inside brackets and braces. -/
def isFlowIndicator (c : Char) : Bool :=
  ",[]\x7b\x7d".contains c

/-- A character that no plain scalar begins with. -/
def isIndicator (c : Char) : Bool :=
  isFlowIndicator c || "-?:#&*!|>'\x22%@\x60".contains c

/-- Whether the end of the text, or white space, or the end of a line stands at a place. -/
def endsToken : Option Char → Bool
  | none => true
  | some c => isGap c

/-- Whether the end of the text or of a line stands at a place. -/
def endsLine : Option Char → Bool
  | none => true
  | some c => isBreak c

end NodeSupply.Yaml
