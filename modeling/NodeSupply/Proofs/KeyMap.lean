import Mathlib.Data.List.Nodup
import NodeSupply.KeyMap

/-! Key maps as finite sets of bindings: what insertions and removals do to the lookups, and to the
values up to their order. Counting what a map holds rests on the latter. -/

namespace NodeSupply

section Keys

variable {α β : Type} [DecidableEq β] {key : α → β} {items : List α} {item : α} {sought : β}

theorem key_of_find? (found : (items.find? fun other => key other = sought) = some item) :
    key item = sought := by
  have holds := List.find?_some found
  exact of_decide_eq_true holds

/-- Where no two items share a key, looking for a key comes to the item of that key. -/
theorem find?_key_iff (apart : (items.map key).Nodup) :
    (items.find? fun other => key other = sought) = some item ↔
      item ∈ items ∧ key item = sought := by
  constructor
  · intro found
    exact ⟨List.mem_of_find?_eq_some found, key_of_find? found⟩
  · rintro ⟨member, keyed⟩
    cases found : items.find? fun other => key other = sought with
    | none => exact (List.find?_eq_none.mp found item member (decide_eq_true keyed)).elim
    | some other =>
        have same : key other = key item := (key_of_find? found).trans keyed.symm
        exact congrArg some
          (List.inj_on_of_nodup_map apart (List.mem_of_find?_eq_some found) member same)

end Keys

namespace KeyMap

variable {α : Type} {map : KeyMap α} {key : String} {value : α}

theorem keys_nodup (map : KeyMap α) : (map.entries.map (·.1)).Nodup := by
  refine List.pairwise_map.mpr (map.ascending.imp ?_)
  intro a b below same
  exact String.lt_irrefl b.1 (same ▸ below)

theorem get?_eq_some_iff : map.get? key = some value ↔ (key, value) ∈ map.entries := by
  refine ⟨mem_entries_of_get?, ?_⟩
  intro member
  have found := (find?_key_iff map.keys_nodup).mpr ⟨member, rfl⟩
  exact Option.map_eq_some_iff.mpr ⟨_, found, rfl⟩

theorem get?_eq_none_iff : map.get? key = none ↔ ∀ entry ∈ map.entries, entry.1 ≠ key := by
  simp only [get?, Option.map_eq_none_iff, List.find?_eq_none, decide_eq_true_eq, ne_eq]

theorem keys_ascending (map : KeyMap α) : map.keys.Pairwise (· < ·) :=
  List.pairwise_map.mpr map.ascending

theorem mem_keys_iff : key ∈ map.keys ↔ ∃ value, map.get? key = some value := by
  simp only [keys, List.mem_map, get?_eq_some_iff, Prod.exists, exists_and_right, exists_eq_right]

/-- Maps with the same lookups are the same. -/
theorem ext_get? {map other : KeyMap α} (same : ∀ key, map.get? key = other.get? key) :
    map = other := by
  have members : ∀ entry, entry ∈ map.entries ↔ entry ∈ other.entries := by
    rintro ⟨key, value⟩
    rw [← get?_eq_some_iff, ← get?_eq_some_iff, same]
  have perm : map.entries.Perm other.entries :=
    (List.perm_ext_iff_of_nodup (.of_map _ map.keys_nodup) (.of_map _ other.keys_nodup)).mpr members
  refine ext (perm.eq_of_pairwise ?_ map.ascending other.ascending)
  intro a b _ _ below above
  exact (String.lt_irrefl _ (String.lt_trans below above)).elim

theorem eq_empty_of_isEmpty (empty : map.isEmpty = true) : map = .empty :=
  ext (List.isEmpty_iff.mp empty)

theorem eq_empty_iff : map = .empty ↔ ∀ key, map.get? key = none := by
  constructor
  · rintro rfl key
    rfl
  · intro unbound
    refine ext (List.eq_nil_iff_forall_not_mem.mpr ?_)
    intro entry member
    exact get?_eq_none_iff.mp (unbound entry.1) entry member rfl

theorem mem_values_iff : value ∈ map.values ↔ ∃ key, map.get? key = some value := by
  simp only [values, List.mem_map, get?_eq_some_iff, Prod.exists, exists_eq_right]

theorem contains_eq_false_iff : map.contains key = false ↔ map.get? key = none := by
  simp only [contains, Option.isSome_eq_false_iff, Option.isNone_iff_eq_none]

theorem get?_insert (map : KeyMap α) (key other : String) (value : α) :
    (map.insert key value).get? other = if other = key then some value else map.get? other := by
  split
  · next same => rw [same, get?_insert_self]
  · next differ => exact get?_insert_of_ne map value differ

theorem get?_erase (map : KeyMap α) (key other : String) :
    (map.erase key).get? other = if other = key then none else map.get? other := by
  split
  · next same => rw [same, get?_erase_self]
  · next differ => exact get?_erase_of_ne map differ

/-! ### A function of all values -/

/-- The map with a function applied to each of its values. -/
def mapValues {β : Type} (f : α → β) (map : KeyMap α) : KeyMap β :=
  ⟨map.entries.map fun entry => (entry.1, f entry.2), List.pairwise_map.mpr map.ascending⟩

@[simp] theorem get?_mapValues {β : Type} (f : α → β) (map : KeyMap α) (key : String) :
    (map.mapValues f).get? key = (map.get? key).map f := by
  simp only [get?, mapValues, List.find?_map, Option.map_map]
  rfl

@[simp] theorem values_mapValues {β : Type} (f : α → β) (map : KeyMap α) :
    (map.mapValues f).values = map.values.map f := by
  simp only [values, mapValues, List.map_map]
  rfl

/-! ### Values up to their order -/

theorem place_perm {entries : List (String × α)} (fresh : ∀ entry ∈ entries, entry.1 ≠ key) :
    (place key value entries).Perm ((key, value) :: entries) := by
  induction entries with
  | nil => exact .refl _
  | cons first rest ih =>
      have differ : key ≠ first.1 := (fresh first List.mem_cons_self).symm
      rw [place, if_neg differ]
      split
      · exact .refl _
      · exact ((ih fun e m => fresh e (List.mem_cons_of_mem _ m)).cons first).trans (.swap _ _ _)

theorem values_insert_perm (unbound : map.get? key = none) :
    (map.insert key value).values.Perm (value :: map.values) :=
  (place_perm (get?_eq_none_iff.mp unbound)).map _

theorem size_insert (unbound : map.get? key = none) :
    (map.insert key value).size = map.size + 1 :=
  (place_perm (get?_eq_none_iff.mp unbound)).length_eq

theorem filter_key_perm {entries : List (String × α)} (distinct : (entries.map (·.1)).Nodup)
    (member : (key, value) ∈ entries) :
    entries.Perm ((key, value) :: entries.filter fun entry => entry.1 ≠ key) := by
  induction entries with
  | nil => cases member
  | cons first rest ih =>
      have ⟨apart, distinctRest⟩ := List.nodup_cons.mp distinct
      rcases List.mem_cons.mp member with rfl | later
      · have others : rest.filter (fun entry => entry.1 ≠ key) = rest := by
          refine List.filter_eq_self.mpr fun entry inRest => decide_eq_true ?_
          intro same
          exact apart (List.mem_map.mpr ⟨entry, inRest, same⟩)
        rw [List.filter_cons_of_neg (by simp), others]
      · have differ : first.1 ≠ key := by
          intro same
          exact apart (List.mem_map.mpr ⟨(key, value), later, same.symm⟩)
        rw [List.filter_cons_of_pos (by simpa using differ)]
        exact ((ih distinctRest later).cons first).trans (.swap _ _ _)

theorem values_perm_erase (bound : map.get? key = some value) :
    map.values.Perm (value :: (map.erase key).values) :=
  (filter_key_perm map.keys_nodup (get?_eq_some_iff.mp bound)).map _

/-- Where values know their keys, the values that are left are those with other keys. -/
theorem values_erase {name : α → String}
    (named : ∀ key value, map.get? key = some value → name value = key) (key : String) :
    (map.erase key).values = map.values.filter fun value => name value ≠ key := by
  rw [values, values, erase, List.filter_map]
  refine congrArg _ (List.filter_congr fun entry member => ?_)
  rw [Function.comp_apply, named entry.1 entry.2 (get?_eq_some_iff.mpr member)]

/-! ### Many bindings at once -/

theorem insertMany_cons (map : KeyMap α) (binding : String × α) (rest : List (String × α)) :
    map.insertMany (binding :: rest) = (map.insert binding.1 binding.2).insertMany rest := rfl

theorem insertMany_append (map : KeyMap α) (first second : List (String × α)) :
    map.insertMany (first ++ second) = (map.insertMany first).insertMany second :=
  List.foldl_append

/-- Of several bindings of one key the last one stays. -/
theorem get?_insertMany (map : KeyMap α) (bindings : List (String × α)) (key : String) :
    (map.insertMany bindings).get? key =
      ((bindings.findRev? fun binding => binding.1 = key).map (·.2)).or (map.get? key) := by
  induction bindings generalizing map with
  | nil => rfl
  | cons first rest ih =>
      rw [insertMany_cons, ih, get?_insert, List.findRev?]
      cases rest.findRev? fun binding => binding.1 = key with
      | some last => rfl
      | none =>
          by_cases same : key = first.1
          · simp [same]
          · simp [same, Ne.symm same]

theorem get?_insertMany_of_absent {bindings : List (String × α)}
    (absent : ∀ binding ∈ bindings, binding.1 ≠ key) :
    (map.insertMany bindings).get? key = map.get? key := by
  have none : (bindings.findRev? fun binding => binding.1 = key) = none := by
    rw [List.findRev?_eq_find?_reverse]
    refine List.find?_eq_none.mpr fun binding member => ?_
    simpa using absent binding (List.mem_reverse.mp member)
  rw [get?_insertMany, none, Option.map_none, Option.none_or]

theorem get?_insertMany_of_mem {bindings : List (String × α)}
    (distinct : (bindings.map (·.1)).Nodup) (member : (key, value) ∈ bindings) :
    (map.insertMany bindings).get? key = some value := by
  have apart : (bindings.reverse.map (·.1)).Nodup := by
    rw [List.map_reverse]
    exact List.nodup_reverse.mpr distinct
  have found : (bindings.findRev? fun binding => binding.1 = key) = some (key, value) := by
    rw [List.findRev?_eq_find?_reverse]
    exact (find?_key_iff apart).mpr ⟨List.mem_reverse.mpr member, rfl⟩
  rw [get?_insertMany, found, Option.map_some, Option.some_or]

/-- A map of items under their keys holds the last item of each key. -/
theorem get?_ofList_map (items : List α) (name : α → String) (key : String) :
    (ofList (items.map fun item => (name item, item))).get? key =
      items.findRev? fun item => name item = key := by
  rw [ofList, get?_insertMany, get?_empty, Option.or_none, List.findRev?_eq_find?_reverse,
    List.findRev?_eq_find?_reverse, ← List.map_reverse, List.find?_map, Option.map_map]
  exact Option.map_id'

/-- Inserting all bindings of another map lets that map decide first. -/
theorem get?_insertMany_entries (map other : KeyMap α) (key : String) :
    (map.insertMany other.entries).get? key = (other.get? key).or (map.get? key) := by
  cases found : other.get? key with
  | none => exact get?_insertMany_of_absent (get?_eq_none_iff.mp found)
  | some value => exact get?_insertMany_of_mem other.keys_nodup (get?_eq_some_iff.mp found)

theorem values_insertMany_perm {name : α → String} {items : List α}
    (distinct : (items.map name).Nodup) (unbound : ∀ item ∈ items, map.get? (name item) = none) :
    (map.insertMany (items.map fun item => (name item, item))).values.Perm (items ++ map.values) := by
  induction items generalizing map with
  | nil => exact .refl _
  | cons first rest ih =>
      have ⟨apart, distinctRest⟩ := List.nodup_cons.mp distinct
      have unboundRest : ∀ item ∈ rest, (map.insert (name first) first).get? (name item) = none := by
        intro item inRest
        rw [get?_insert_of_ne, unbound item (List.mem_cons_of_mem _ inRest)]
        intro same
        exact apart (List.mem_map.mpr ⟨item, inRest, same⟩)
      refine (ih distinctRest unboundRest).trans ?_
      exact ((values_insert_perm (unbound first List.mem_cons_self)).append_left _).trans
        List.perm_middle

/-- The map without the bindings of some keys. -/
def eraseMany (map : KeyMap α) (keys : List String) : KeyMap α := keys.foldl erase map

theorem eraseMany_cons (map : KeyMap α) (key : String) (rest : List String) :
    map.eraseMany (key :: rest) = (map.erase key).eraseMany rest := rfl

theorem eraseMany_append (map : KeyMap α) (first second : List String) :
    map.eraseMany (first ++ second) = (map.eraseMany first).eraseMany second :=
  List.foldl_append

theorem get?_eraseMany (map : KeyMap α) (keys : List String) (key : String) :
    (map.eraseMany keys).get? key = if key ∈ keys then none else map.get? key := by
  induction keys generalizing map with
  | nil => rfl
  | cons first rest ih =>
      rw [eraseMany_cons, ih, get?_erase]
      simp only [List.mem_cons]
      split_ifs <;> simp_all

theorem values_perm_eraseMany {name : α → String} {items : List α}
    (distinct : (items.map name).Nodup)
    (bound : ∀ item ∈ items, map.get? (name item) = some item) :
    map.values.Perm (items ++ (map.eraseMany (items.map name)).values) := by
  induction items generalizing map with
  | nil => exact .refl _
  | cons first rest ih =>
      have ⟨apart, distinctRest⟩ := List.nodup_cons.mp distinct
      have boundRest : ∀ item ∈ rest, (map.erase (name first)).get? (name item) = some item := by
        intro item inRest
        rw [get?_erase_of_ne, bound item (List.mem_cons_of_mem _ inRest)]
        intro same
        exact apart (List.mem_map.mpr ⟨item, inRest, same⟩)
      exact (values_perm_erase (bound first List.mem_cons_self)).trans
        ((ih distinctRest boundRest).cons first)

/-! ### Counting -/

theorem erase_of_unbound (unbound : map.get? key = none) : map.erase key = map := by
  refine ext (List.filter_eq_self.mpr fun entry member => decide_eq_true ?_)
  exact get?_eq_none_iff.mp unbound entry member

theorem countP_erase_le (map : KeyMap α) (key : String) (p : α → Bool) :
    (map.erase key).values.countP p ≤ map.values.countP p := by
  cases found : map.get? key with
  | none => exact Nat.le_of_eq (by rw [erase_of_unbound found])
  | some value =>
      rw [(values_perm_erase found).countP_eq, List.countP_cons]
      exact Nat.le_add_right _ _

theorem countP_le_erase (map : KeyMap α) (key : String) (p : α → Bool) :
    map.values.countP p ≤ (map.erase key).values.countP p + 1 := by
  cases found : map.get? key with
  | none =>
      rw [erase_of_unbound found]
      exact Nat.le_succ _
  | some value =>
      rw [(values_perm_erase found).countP_eq, List.countP_cons]
      split <;> omega

theorem countP_eraseMany_le (map : KeyMap α) (keys : List String) (p : α → Bool) :
    (map.eraseMany keys).values.countP p ≤ map.values.countP p := by
  induction keys generalizing map with
  | nil => exact Nat.le_refl _
  | cons first rest ih => exact Nat.le_trans (ih (map.erase first)) (countP_erase_le map first p)

/-- Each key that is removed takes away one value at most. -/
theorem countP_le_eraseMany (map : KeyMap α) (keys : List String) (p : α → Bool) :
    map.values.countP p ≤ (map.eraseMany keys).values.countP p + keys.length := by
  induction keys generalizing map with
  | nil => exact Nat.le_refl _
  | cons first rest ih =>
      have one := countP_le_erase map first p
      have others := ih (map.erase first)
      rw [eraseMany_cons, List.length_cons]
      omega

end KeyMap

end NodeSupply
