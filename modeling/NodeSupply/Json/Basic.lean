import NodeSupply.Binary64.Basic
import NodeSupply.KeyMap

/-!
JSON values. Whole numbers that fit 64 bits are kept apart from all other numbers, and an object
keeps its members in the order in which they were written, repeated keys included.
-/

namespace NodeSupply

inductive Json where
  | null
  | bool (value : Bool)
  | int (value : Int)
  | real (value : Binary64)
  | string (value : String)
  | array (items : List Json)
  | object (members : List (String × Json))
  /-- What is well written but has no value, such as a number beyond the doubles. -/
  | unrepresentable

namespace Json

instance : Inhabited Json := ⟨null⟩

def nat (n : Nat) : Json := .int n

def list (encode : α → Json) (items : List α) : Json := .array (items.map encode)

def strings (texts : List String) : Json := list .string texts

def textMap (m : KeyMap String) : Json :=
  .object (m.entries.map fun entry => (entry.1, .string entry.2))

def ofOption (encode : α → Json) : Option α → Json
  | none => .null
  | some a => encode a

/-- A member that is written only if there is a value. -/
def member? (key : String) (encode : α → Json) : Option α → List (String × Json)
  | none => []
  | some a => [(key, encode a)]

mutual

/-- The value with the members of every object in ascending key order, the last of a key kept. -/
def sorted : Json → Json
  | .array items => .array (sortedItems items)
  | .object members => .object (KeyMap.ofList (sortedMembers members)).entries
  | j => j

def sortedItems : List Json → List Json
  | [] => []
  | j :: rest => sorted j :: sortedItems rest

def sortedMembers : List (String × Json) → List (String × Json)
  | [] => []
  | (key, j) :: rest => (key, sorted j) :: sortedMembers rest

end

mutual

/-- Whether a value has one in all its parts. -/
def isRepresentable : Json → Bool
  | .array items => areRepresentable items
  | .object members => haveRepresentable members
  | .unrepresentable => false
  | _ => true

def areRepresentable : List Json → Bool
  | [] => true
  | j :: rest => isRepresentable j && areRepresentable rest

def haveRepresentable : List (String × Json) → Bool
  | [] => true
  | (_, j) :: rest => isRepresentable j && haveRepresentable rest

end

mutual

/-- Whether two values are the same, the order of members included. -/
def same : Json → Json → Bool
  | .null, .null => true
  | .bool a, .bool b => a = b
  | .int a, .int b => a = b
  | .real a, .real b => a = b
  | .string a, .string b => a = b
  | .array items, .array others => sameItems items others
  | .object members, .object others => sameMembers members others
  | .unrepresentable, .unrepresentable => true
  | _, _ => false

def sameItems : List Json → List Json → Bool
  | [], [] => true
  | a :: items, b :: others => same a b && sameItems items others
  | _, _ => false

def sameMembers : List (String × Json) → List (String × Json) → Bool
  | [], [] => true
  | (key, a) :: members, (other, b) :: others =>
    key = other && same a b && sameMembers members others
  | _, _ => false

end

mutual

theorem same_iff : (a b : Json) → (same a b = true ↔ a = b)
  | .null, b | .bool _, b | .int _, b | .real _, b | .string _, b | .unrepresentable, b => by
    cases b <;> simp [same]
  | .array items, b => by cases b <;> simp [same, sameItems_iff items]
  | .object members, b => by cases b <;> simp [same, sameMembers_iff members]

theorem sameItems_iff :
    (items others : List Json) → (sameItems items others = true ↔ items = others)
  | [], others => by cases others <;> simp [sameItems]
  | a :: items, others => by cases others <;> simp [sameItems, same_iff a, sameItems_iff items]

theorem sameMembers_iff :
    (members others : List (String × Json)) → (sameMembers members others = true ↔ members = others)
  | [], others => by cases others <;> simp [sameMembers]
  | (key, a) :: members, others => by
    rcases others with _ | ⟨⟨other, b⟩, others⟩ <;>
      simp [sameMembers, same_iff a, sameMembers_iff members]

end

instance : DecidableEq Json := fun a b => decidable_of_iff _ (same_iff a b)

/-- The member of an object, or null if it is absent or the value is no object. -/
def field (j : Json) (key : String) : Json :=
  match j with
  | .object members => (members.lookup key).getD .null
  | _ => .null

def isNull : Json → Bool
  | .null => true
  | _ => false

end Json

end NodeSupply
