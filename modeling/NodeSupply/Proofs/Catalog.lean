import NodeSupply.Catalog.Basic
import NodeSupply.Proofs.KeyMap

/-! What a catalog finds. Entries may share an instance type, or have instance types that differ only in
letter case. An entry of exactly the instance type that is looked for comes before all others, even
before those that stand behind it in the list; among entries of equal rank the last one is found. -/

namespace NodeSupply.GpuCatalog

variable {entries : List GpuCapacity} {key : String} {c : GpuCapacity}

theorem get?_exact : (ofList entries).exact.get? key = entries.findRev? (·.instanceType = key) :=
  KeyMap.get?_ofList_map entries (·.instanceType) key

theorem get?_folded :
    (ofList entries).folded.get? key =
      entries.findRev? fun c => Text.lowerCase c.instanceType = key :=
  KeyMap.get?_ofList_map entries (fun c => Text.lowerCase c.instanceType) key

theorem get?_ofList (entries : List GpuCapacity) (key : String) :
    (ofList entries).get? key =
      (entries.findRev? (·.instanceType = key)).or
        (entries.findRev? fun c => Text.lowerCase c.instanceType = Text.lowerCase key) := by
  rw [get?, get?_exact, get?_folded]
  cases entries.findRev? (·.instanceType = key) <;> rfl

theorem get?_eq_none_iff :
    (ofList entries).get? key = none ↔
      ∀ c ∈ entries, c.instanceType ≠ key ∧ Text.lowerCase c.instanceType ≠ Text.lowerCase key := by
  simp only [get?_ofList, Option.or_eq_none_iff, List.findRev?_eq_find?_reverse,
    List.find?_eq_none, List.mem_reverse, decide_eq_true_eq]
  exact ⟨fun ⟨exact, folded⟩ c member => ⟨exact c member, folded c member⟩,
    fun absent => ⟨fun c member => (absent c member).1, fun c member => (absent c member).2⟩⟩

theorem lookup_eq_ok_iff (catalog : GpuCatalog) :
    catalog.lookup key = .ok c ↔ catalog.get? key = some c := by
  rw [lookup]
  cases catalog.get? key <;> simp

theorem lookup_eq_error_iff (catalog : GpuCatalog) (e : CapacityError) :
    catalog.lookup key = .error e ↔ e = .gpuConfigNotFound key ∧ catalog.get? key = none := by
  rw [lookup]
  cases catalog.get? key <;> simp [eq_comm]

theorem mem_instanceTypes_iff :
    key ∈ (ofList entries).instanceTypes ↔
      ∃ c, entries.findRev? (·.instanceType = key) = some c := by
  rw [instanceTypes, KeyMap.mem_keys_iff]
  simp only [get?_exact]

/-- What is found under an instance type as it is written has that very instance type. -/
theorem instanceType_of_findRev? (found : entries.findRev? (·.instanceType = key) = some c) :
    c ∈ entries ∧ c.instanceType = key := by
  rw [List.findRev?_eq_find?_reverse] at found
  exact ⟨List.mem_reverse.mp (List.mem_of_find?_eq_some found), key_of_find? found⟩

theorem exists_findRev? (member : c ∈ entries) (name : c.instanceType = key) :
    ∃ last, entries.findRev? (·.instanceType = key) = some last := by
  rw [← Option.isSome_iff_exists, List.findRev?_eq_find?_reverse, List.find?_isSome]
  exact ⟨c, List.mem_reverse.mpr member, decide_eq_true name⟩

/-- The law of lookups in a catalog. What is found is the last entry of exactly the instance type, else
the last entry of it in some letter case; where there is none, the lookup fails and names the instance
type as it was given. The instance types of a catalog are those of its entries, each listed once and in
ascending order, and under each of them an entry of that very instance type is found. -/
theorem lookup_exact (entries : List GpuCapacity) :
    (∀ key,
      (ofList entries).get? key =
        (entries.findRev? (·.instanceType = key)).or
          (entries.findRev? fun c => Text.lowerCase c.instanceType = Text.lowerCase key) ∧
      (∀ c, (ofList entries).lookup key = .ok c ↔ (ofList entries).get? key = some c) ∧
      ∀ e, (ofList entries).lookup key = .error e ↔
        e = .gpuConfigNotFound key ∧
          ∀ c ∈ entries, c.instanceType ≠ key ∧
            Text.lowerCase c.instanceType ≠ Text.lowerCase key) ∧
    (ofList entries).instanceTypes.Pairwise (· < ·) ∧
    (∀ key, key ∈ (ofList entries).instanceTypes ↔ ∃ c ∈ entries, c.instanceType = key) ∧
    (ofList entries).size = (ofList entries).instanceTypes.length ∧
    ∀ key ∈ (ofList entries).instanceTypes,
      ∃ c ∈ entries, (ofList entries).lookup key = .ok c ∧ c.instanceType = key := by
  refine ⟨?_, KeyMap.keys_ascending _, ?_, (List.length_map _).symm, ?_⟩
  · intro key
    refine ⟨get?_ofList entries key, fun c => lookup_eq_ok_iff _, fun e => ?_⟩
    rw [lookup_eq_error_iff, get?_eq_none_iff]
  · intro key
    rw [mem_instanceTypes_iff]
    constructor
    · rintro ⟨c, found⟩
      obtain ⟨member, name⟩ := instanceType_of_findRev? found
      exact ⟨c, member, name⟩
    · rintro ⟨c, member, name⟩
      exact exists_findRev? member name
  · intro key listed
    obtain ⟨c, found⟩ := mem_instanceTypes_iff.mp listed
    obtain ⟨member, name⟩ := instanceType_of_findRev? found
    refine ⟨c, member, ?_, name⟩
    rw [lookup_eq_ok_iff, get?_ofList, found, Option.some_or]

/-- The entry that stands first is found as it is written, and the other one in every other way. -/
example :
    let catalog := ofList
      [⟨"gpu.large", 1, 16, "first", false⟩, ⟨"GPU.Large", 2, 32, "second", false⟩]
    (catalog.get? "gpu.large").map (·.gpuModel) = some "first" ∧
      (catalog.get? "Gpu.Large").map (·.gpuModel) = some "second" := by
  decide +kernel

end NodeSupply.GpuCatalog
