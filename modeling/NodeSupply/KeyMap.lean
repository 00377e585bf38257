/-!
Finite maps from text keys. The entries stand in strictly ascending key order, so two maps with
the same bindings are the same map, and the order of the entries is the order of the keys.
-/

namespace NodeSupply

/-- A finite map whose entries stand in strictly ascending key order. -/
structure KeyMap (α : Type) where
  entries : List (String × α)
  ascending : entries.Pairwise fun a b => a.1 < b.1
deriving DecidableEq

namespace KeyMap

variable {α β : Type}

/-- Puts a binding in its place, replacing one of the same key. -/
def place (key : String) (value : α) : List (String × α) → List (String × α)
  | [] => [(key, value)]
  | entry :: rest =>
    if key < entry.1 then (key, value) :: entry :: rest
    else if key = entry.1 then (key, value) :: rest
    else entry :: place key value rest

theorem mem_place {key : String} {value : α} {entry : String × α} {entries : List (String × α)} :
    entry ∈ place key value entries → entry = (key, value) ∨ entry ∈ entries := by
  induction entries with
  | nil => simp [place]
  | cons first rest ih =>
    rw [place]
    split
    · simp
    · split
      · simp only [List.mem_cons]
        rintro (h | h)
        · exact .inl h
        · exact .inr (.inr h)
      · simp only [List.mem_cons]
        rintro (h | h)
        · exact .inr (.inl h)
        · rcases ih h with h | h
          · exact .inl h
          · exact .inr (.inr h)

theorem lt_of_not_lt_of_ne {a b : String} (notBelow : ¬a < b) (differ : a ≠ b) : b < a :=
  Decidable.byContradiction fun h =>
    differ (String.le_antisymm (String.not_lt.mp h) (String.not_lt.mp notBelow))

theorem place_ascending {key : String} {value : α} {entries : List (String × α)}
    (sorted : entries.Pairwise fun a b => a.1 < b.1) :
    (place key value entries).Pairwise fun a b => a.1 < b.1 := by
  induction entries with
  | nil => simp [place]
  | cons first rest ih =>
    have ⟨above, tail⟩ := List.pairwise_cons.mp sorted
    rw [place]
    split
    · next below =>
      refine List.pairwise_cons.mpr ⟨?_, sorted⟩
      intro entry member
      rcases List.mem_cons.mp member with rfl | member
      · exact below
      · exact String.lt_trans below (above entry member)
    · split
      · next same =>
        subst same
        exact List.pairwise_cons.mpr ⟨above, tail⟩
      · next notBelow differ =>
        refine List.pairwise_cons.mpr ⟨?_, ih tail⟩
        intro entry member
        rcases mem_place member with rfl | member
        · exact lt_of_not_lt_of_ne notBelow differ
        · exact above entry member

def empty : KeyMap α := ⟨[], .nil⟩

instance : Inhabited (KeyMap α) := ⟨empty⟩

def insert (map : KeyMap α) (key : String) (value : α) : KeyMap α :=
  ⟨place key value map.entries, place_ascending map.ascending⟩

def get? (map : KeyMap α) (key : String) : Option α :=
  (map.entries.find? fun entry => entry.1 = key).map (·.2)

def contains (map : KeyMap α) (key : String) : Bool :=
  (map.get? key).isSome

def erase (map : KeyMap α) (key : String) : KeyMap α :=
  ⟨map.entries.filter fun entry => entry.1 ≠ key, map.ascending.filter _⟩

/-- Inserts the bindings one after the other, so the last one of a key stays. -/
def insertMany (map : KeyMap α) (bindings : List (String × α)) : KeyMap α :=
  bindings.foldl (fun m binding => m.insert binding.1 binding.2) map

/-- The map of a list of bindings; of several with one key the last one stays. -/
def ofList (bindings : List (String × α)) : KeyMap α :=
  empty.insertMany bindings

def keys (map : KeyMap α) : List String := map.entries.map (·.1)

def values (map : KeyMap α) : List α := map.entries.map (·.2)

def size (map : KeyMap α) : Nat := map.entries.length

def isEmpty (map : KeyMap α) : Bool := map.entries.isEmpty

theorem ext {m n : KeyMap α} (h : m.entries = n.entries) : m = n := by
  cases m; cases n; cases h; rfl

@[simp] theorem entries_empty : (empty : KeyMap α).entries = [] := rfl

@[simp] theorem get?_empty (key : String) : (empty : KeyMap α).get? key = none := rfl

@[simp] theorem get?_insert_self (map : KeyMap α) (key : String) (value : α) :
    (map.insert key value).get? key = some value := by
  show ((place key value map.entries).find? _).map _ = _
  induction map.entries with
  | nil => simp [place]
  | cons first rest ih =>
    rw [place]
    split
    · simp
    · split
      · simp
      · next differ => simp [List.find?, Ne.symm differ, ih]

theorem get?_insert_of_ne (map : KeyMap α) {key other : String} (value : α) (differ : other ≠ key) :
    (map.insert key value).get? other = map.get? other := by
  show ((place key value map.entries).find? _).map _ = (map.entries.find? _).map _
  induction map.entries with
  | nil => simp [place, Ne.symm differ]
  | cons first rest ih =>
    rw [place]
    split
    · simp [List.find?, Ne.symm differ]
    · split
      · next same => subst same; simp [List.find?, Ne.symm differ]
      · simp only [List.find?]
        split
        · rfl
        · exact ih

@[simp] theorem get?_erase_self (map : KeyMap α) (key : String) : (map.erase key).get? key = none := by
  simp [erase, get?]

theorem get?_erase_of_ne (map : KeyMap α) {key other : String} (differ : other ≠ key) :
    (map.erase key).get? other = map.get? other := by
  show ((map.entries.filter _).find? _).map _ = (map.entries.find? _).map _
  congr 1
  induction map.entries with
  | nil => rfl
  | cons first rest ih =>
    by_cases kept : first.1 = key
    · rw [List.filter_cons_of_neg (by simp [kept]), ih,
        List.find?_cons_of_neg (by simp [kept, Ne.symm differ])]
    · rw [List.filter_cons_of_pos (by simp [kept]), List.find?_cons, List.find?_cons, ih]

theorem mem_entries_of_get? {map : KeyMap α} {key : String} {value : α}
    (bound : map.get? key = some value) : (key, value) ∈ map.entries := by
  obtain ⟨⟨found, kept⟩, hit, same⟩ := Option.map_eq_some_iff.mp bound
  have name : found = key := by simpa using List.find?_some hit
  have member := List.mem_of_find?_eq_some hit
  simp only at same
  subst name same
  exact member

end KeyMap

end NodeSupply
