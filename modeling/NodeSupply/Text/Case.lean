import NodeSupply.Text.CaseTable

/-!
Lower-casing a text. Each character is mapped on its own, except that a capital sigma at the end
of a word becomes the final form of the letter.
-/

namespace NodeSupply.Text

def lowerChar (c : Char) : List Char :=
  let n := c.toNat
  if n < 0x80 then [c.toLower]
  else if n = 0x130 then ['i', Char.ofNat 0x307]
  else
    match lowerRuns.find? fun run => run.first ≤ n && n ≤ run.last && (n - run.first) % run.step = 0 with
    | some run => [Char.ofNat ((n : Int) + run.shift).toNat]
    | none => [c]

def isCased (c : Char) : Bool := inRanges casedRanges c.toNat

def isCaseIgnorable (c : Char) : Bool := inRanges caseIgnorableRanges c.toNat

/-- Whether the next character that counts is a cased one. -/
def startsCased (cs : List Char) : Bool :=
  match cs.find? fun c => !isCaseIgnorable c with
  | some c => isCased c
  | none => false

/-- Lower-cases the characters; `before` holds those already passed, the nearest first. -/
def lowerChars (before : List Char) : List Char → List Char
  | [] => []
  | c :: rest =>
    let mapped :=
      if c.toNat = 0x3A3 then
        if startsCased before && !startsCased rest then [Char.ofNat 0x3C2] else [Char.ofNat 0x3C3]
      else lowerChar c
    mapped ++ lowerChars (c :: before) rest

def lowerCase (s : String) : String :=
  String.ofList (lowerChars [] s.toList)

def lowerAscii (s : String) : String :=
  String.ofList (s.toList.map Char.toLower)

/-- Whether the characters of `needle` stand one after the other somewhere in a list. -/
def containsChars (needle : List Char) : List Char → Bool
  | [] => needle.isEmpty
  | c :: rest => needle.isPrefixOf (c :: rest) || containsChars needle rest

def containsText (s needle : String) : Bool :=
  containsChars needle.toList s.toList

end NodeSupply.Text
