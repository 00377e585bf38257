/-!
Tags, which name the type of a node.
-/

namespace NodeSupply.Yaml

/-- A tag with its handle resolved. Its octets need not be the encoding of a text, for they can be
written as numbers. -/
structure Tag where
  octets : List UInt8
deriving DecidableEq

namespace Tag

def ofString (s : String) : Tag := ⟨s.toUTF8.toList⟩

/-- What stands for the types that every application knows. -/
def standardSpace : String := "tag:yaml.org,2002:"

def null : Tag := ofString (standardSpace ++ "null")

def bool : Tag := ofString (standardSpace ++ "bool")

def int : Tag := ofString (standardSpace ++ "int")

/-- The tag that only says that a node is no plain scalar. -/
def nonSpecific : Tag := ofString "!"

/-- The name of a tag that is of the application's own making. -/
def localName? (t : Tag) : Option String :=
  match t.octets with
  | 0x21 :: name => String.fromUTF8? ⟨name.toArray⟩
  | _ => none

end Tag

end NodeSupply.Yaml
