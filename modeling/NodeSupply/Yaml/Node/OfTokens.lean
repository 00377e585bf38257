import NodeSupply.KeyMap
import NodeSupply.Yaml.Node
import NodeSupply.Yaml.Token.Lexer

/-!
Putting tokens together to a document.
-/

namespace NodeSupply.Yaml

/-- What holds while the nodes of a document are read: the spaces of tag handles, and the number of
each anchor by its name. A name may be given again, and then has a new number. -/
structure Scope where
  spaces : List (String × List UInt8)
  anchors : KeyMap Nat := .empty

/-- The tokens that are left, and what holds for them. -/
structure TokenStream where
  scope : Scope
  tokens : List Token

namespace TokenStream

def sees (s : TokenStream) (tokens : List Token) : Bool :=
  s.tokens.head?.any fun t => tokens.contains t

/-- What is behind a token that must be next. -/
def expect (t : Token) (s : TokenStream) : Option TokenStream :=
  match s.tokens with
  | [] => none
  | u :: tokens => if t = u then some { s with tokens } else none

/-- Names a node and gives it a number, which is the count of the names there were. -/
def nameAnchor (name : String) (s : TokenStream) : Nat × TokenStream :=
  let number := s.scope.anchors.entries.length
  (number, { s with scope := { s.scope with anchors := s.scope.anchors.insert name number } })

/-- A tag with its handle resolved. -/
def resolveTag (handle : String) (suffix : List UInt8) (s : TokenStream) : Option Tag :=
  if handle.isEmpty then some ⟨suffix⟩
  else (s.scope.spaces.lookup handle).map fun space => ⟨space ++ suffix⟩

/-- The anchor that is next, if one is. -/
def anchorName? (s : TokenStream) : Option String × TokenStream :=
  match s.tokens with
  | .anchor name :: tokens => (some name, { s with tokens })
  | _ => (none, s)

/-- The tag that is next, if one is. -/
def tag? (s : TokenStream) : Option (Option Tag × TokenStream) :=
  match s.tokens with
  | .tag handle suffix :: tokens =>
    (s.resolveTag handle suffix).map fun t => (some t, { s with tokens })
  | _ => some (none, s)

/-- The anchor and the tag in front of a node, in either order. -/
def properties (s : TokenStream) : Option (Properties × TokenStream) := do
  let (name, s) := s.anchorName?
  let (tag, s) ← s.tag?
  let (name, s) := if name.isNone && tag.isSome then s.anchorName? else (name, s)
  match name with
  | none => return ({ tag }, s)
  | some name =>
    let (number, s) := s.nameAnchor name
    return ({ anchor := some number, tag }, s)

end TokenStream

namespace Node

/-- The kind of place at which a node stands. -/
inductive Place where
  /-- Inside brackets or braces, where no block can begin. -/
  | flow
  | block
  /-- In a mapping that is a block, where a sequence need not be indented. -/
  | mappingPart
deriving DecidableEq

open TokenStream in
mutual

def node (place : Place) : (fuel : Nat) → TokenStream → Option (Node × TokenStream)
  | 0, _ => none
  | fuel + 1, s =>
    match s.tokens with
    | .alias name :: tokens =>
      (s.scope.anchors.get? name).map fun number => (.alias number, { s with tokens })
    | _ => do
      let (p, s) ← s.properties
      let tail : TokenStream := { s with tokens := s.tokens.tail }
      match s.tokens.head? with
      | some (.scalar style text) => return (.scalar p style text, tail)
      | some .flowSequenceStart => do
        let (items, s) ← flowItems true fuel tail
        return (.sequence p items, s)
      | some .flowMappingStart => do
        let (entries, s) ← flowEntries true fuel tail
        return (.mapping p entries, s)
      | head =>
        if head = some .blockEntry && place = .mappingPart then
          let (items, s) ← looseItems fuel s
          return (.sequence p items, s)
        else if head = some .blockSequenceStart && place ≠ .flow then
          let (items, s) ← blockItems fuel tail
          return (.sequence p items, s)
        else if head = some .blockMappingStart && place ≠ .flow then
          let (entries, s) ← blockEntries fuel tail
          return (.mapping p entries, s)
        else if p.anchor.isSome || p.tag.isSome then return (.scalar p .plain "", s)
        else none

/-- Reads a node, or none if one of some tokens is next. -/
def nodeUnless (place : Place) (stops : List Token) :
    (fuel : Nat) → TokenStream → Option (Node × TokenStream)
  | 0, _ => none
  | fuel + 1, s => if s.sees stops then some (.empty, s) else node place fuel s

/-- Reads the items of a sequence that is a block, up to its end. -/
def blockItems : (fuel : Nat) → TokenStream → Option (List Node × TokenStream)
  | 0, _ => none
  | fuel + 1, s =>
    if s.sees [.blockEnd] then (s.expect .blockEnd).map fun s => ([], s)
    else do
      let s ← s.expect .blockEntry
      let (item, s) ← nodeUnless .block [.blockEntry, .blockEnd] fuel s
      let (items, s) ← blockItems fuel s
      return (item :: items, s)

/-- Reads the items of a sequence that is not indented. -/
def looseItems : (fuel : Nat) → TokenStream → Option (List Node × TokenStream)
  | 0, _ => none
  | fuel + 1, s =>
    if !s.sees [.blockEntry] then some ([], s)
    else do
      let s ← s.expect .blockEntry
      let (item, s) ← nodeUnless .block [.blockEntry, .key, .value, .blockEnd] fuel s
      let (items, s) ← looseItems fuel s
      return (item :: items, s)

/-- Reads the entries of a mapping that is a block, up to its end. -/
def blockEntries : (fuel : Nat) → TokenStream → Option (List (Node × Node) × TokenStream)
  | 0, _ => none
  | fuel + 1, s =>
    if s.sees [.blockEnd] then (s.expect .blockEnd).map fun s => ([], s)
    else do
      let s ← s.expect .key
      let (key, s) ← nodeUnless .mappingPart [.key, .value, .blockEnd] fuel s
      let (value, s) ←
        match s.expect .value with
        | some s => nodeUnless .mappingPart [.key, .value, .blockEnd] fuel s
        | none => some (.empty, s)
      let (entries, s) ← blockEntries fuel s
      return ((key, value) :: entries, s)

/-- Reads the items of a sequence in brackets, up to the closing one. An item may be a key and a
value, which make a mapping. -/
def flowItems (first : Bool) : (fuel : Nat) → TokenStream → Option (List Node × TokenStream)
  | 0, _ => none
  | fuel + 1, s =>
    if s.sees [.flowSequenceEnd] then (s.expect .flowSequenceEnd).map fun s => ([], s)
    else do
      let s ← if first then some s else s.expect .flowEntry
      if s.sees [.flowSequenceEnd] then flowItems false fuel s
      else
        let (item, s) ←
          match s.expect .key with
          | some s => flowPair fuel s
          | none => node .flow fuel s
        let (items, s) ← flowItems false fuel s
        return (item :: items, s)

/-- Reads a key and a value in brackets, as a mapping. Where the key is missing, the token in its
place is passed over. -/
def flowPair : (fuel : Nat) → TokenStream → Option (Node × TokenStream)
  | 0, _ => none
  | fuel + 1, s => do
    let (key, s) ←
      if s.sees [.value, .flowEntry, .flowSequenceEnd] then
        some (Node.empty, { s with tokens := s.tokens.tail })
      else node .flow fuel s
    let (value, s) ←
      match s.expect .value with
      | some s => nodeUnless .flow [.flowEntry, .flowSequenceEnd] fuel s
      | none => some (Node.empty, s)
    return (.mapping {} [(key, value)], s)

/-- Reads the entries of a mapping in braces, up to the closing one. A node alone is a key. -/
def flowEntries (first : Bool) :
    (fuel : Nat) → TokenStream → Option (List (Node × Node) × TokenStream)
  | 0, _ => none
  | fuel + 1, s =>
    if s.sees [.flowMappingEnd] then (s.expect .flowMappingEnd).map fun s => ([], s)
    else do
      let s ← if first then some s else s.expect .flowEntry
      if s.sees [.flowMappingEnd] then flowEntries false fuel s
      else
        let (entry, s) ←
          match s.expect .key with
          | none => do
            let (key, s) ← node .flow fuel s
            some ((key, Node.empty), s)
          | some s => do
            let (key, s) ← nodeUnless .flow [.value, .flowEntry, .flowMappingEnd] fuel s
            match s.expect .value with
            | some s => do
              let (value, s) ← nodeUnless .flow [.flowEntry, .flowMappingEnd] fuel s
              some ((key, value), s)
            | none => some ((key, Node.empty), s)
        let (entries, s) ← flowEntries false fuel s
        return (entry :: entries, s)

end

end Node

/-- The spaces of the handles that need no directive. -/
def standardSpaces : List (String × List UInt8) :=
  [("!", [0x21]), ("!!", (Tag.ofString Tag.standardSpace).octets)]

/-- Reads the directives in front of a document. No two may be for the version or for one handle. -/
def directives : (versioned : Bool) → (spaces : List (String × List UInt8)) → List Token →
    Option (List (String × List UInt8) × List Token)
  | versioned, spaces, .versionDirective major minor :: tokens =>
    if versioned || major ≠ 1 || (minor ≠ 1 && minor ≠ 2) then none else directives true spaces tokens
  | versioned, spaces, .tagDirective handle space :: tokens =>
    if (spaces.lookup handle).isSome then none
    else directives versioned (spaces ++ [(handle, space)]) tokens
  | _, spaces, tokens => some (spaces, tokens)

/-- The root of the only document in a text; `begun` says that the mark of its begin was there. -/
def root? (begun : Bool) (s : TokenStream) : Option Node := do
  let (root, s) ←
    if begun && (s.tokens.isEmpty || s.sees [.documentStart, .documentEnd]) then some (Node.empty, s)
    else Node.node .block (4 * s.tokens.length + 4) s
  if s.tokens.all (· = .documentEnd) then return root else none

/-- The document in a text, which must hold no more than one. -/
def Document.ofTokens? (tokens : List Token) : Option Document := do
  if tokens.isEmpty then return .ofRoot none
  let (spaces, rest) ← directives false [] tokens
  let scope : Scope := { spaces := spaces ++ standardSpaces }
  match rest with
  | .documentStart :: rest => return .ofRoot (some (← root? true { scope, tokens := rest }))
  | _ =>
    if rest.length = tokens.length then return .ofRoot (some (← root? false { scope, tokens }))
    else none

def Document.parse? (text : List Char) : Option Document := do
  Document.ofTokens? (← tokens? text)

end NodeSupply.Yaml
