import NodeSupply.Yaml.Token

/-!
The nodes of a YAML document. Aliases stay in the tree and refer to anchored nodes by number.
-/

namespace NodeSupply.Yaml

/-- What a node may carry besides its content. -/
structure Properties where
  anchor : Option Nat := none
  tag : Option Tag := none

inductive Node where
  | scalar (properties : Properties) (style : ScalarStyle) (text : String)
  | sequence (properties : Properties) (items : List Node)
  | mapping (properties : Properties) (entries : List (Node × Node))
  | alias (anchor : Nat)

namespace Node

/-- The node that stands where there is none. -/
def empty : Node := .scalar {} .plain ""

/-- A node with the number of its anchor, if it has one. -/
def ownAnchor (p : Properties) (n : Node) : List (Nat × Node) :=
  p.anchor.toList.map fun number => (number, n)

mutual

/-- The nodes in and at a node that carry an anchor, in the order in which they begin. -/
def anchored : Node → List (Nat × Node)
  | n@(.scalar p ..) => ownAnchor p n
  | n@(.sequence p items) => ownAnchor p n ++ anchoredItems items
  | n@(.mapping p entries) => ownAnchor p n ++ anchoredEntries entries
  | .alias _ => []

def anchoredItems : List Node → List (Nat × Node)
  | [] => []
  | n :: rest => anchored n ++ anchoredItems rest

def anchoredEntries : List (Node × Node) → List (Nat × Node)
  | [] => []
  | (key, value) :: rest => anchored key ++ anchored value ++ anchoredEntries rest

end

end Node

/-- A document, and where its aliases lead. -/
structure Document where
  /-- There is none in an empty text. -/
  root : Option Node
  /-- The anchored nodes by number, in the order in which they begin. -/
  targets : List (Nat × Node)

namespace Document

def ofRoot (root : Option Node) : Document :=
  { root, targets := root.elim [] Node.anchored }

/-- What stands for a node: for an alias the last node that carries its number. -/
def resolve (d : Document) : Node → Option Node
  | .alias anchor => d.targets.reverse.lookup anchor
  | n => some n

end Document

end NodeSupply.Yaml
