import NodeSupply.CapacityError
import NodeSupply.Binary64.Basic
import NodeSupply.KeyMap
import NodeSupply.Text.Case

/-!
Catalogs of instance types. A lookup tries the instance type as written, then without regard to
letter case; of several entries of one name the last one counts.
-/

namespace NodeSupply

/-- The GPUs of one node of an instance type; the memory is that of all its GPUs together. -/
structure GpuCapacity where
  instanceType : String
  gpuCount : UInt32
  gpuMemoryGib : UInt32
  gpuModel : String
  localNvmeDiskEnabled : Bool
deriving DecidableEq

namespace GpuCapacity

def memoryPerGpuGib (c : GpuCapacity) : Binary64 :=
  .ofNat c.gpuMemoryGib.toNat / .ofNat (max c.gpuCount.toNat 1)

end GpuCapacity

/-- A catalog: its entries by instance type, and by instance type in lower case. -/
structure GpuCatalog where
  exact : KeyMap GpuCapacity
  folded : KeyMap GpuCapacity

namespace GpuCatalog

/-- The catalog of a list of entries. -/
def ofList (entries : List GpuCapacity) : GpuCatalog where
  exact := .ofList (entries.map fun c => (c.instanceType, c))
  folded := .ofList (entries.map fun c => (Text.lowerCase c.instanceType, c))

def get? (catalog : GpuCatalog) (instanceType : String) : Option GpuCapacity :=
  match catalog.exact.get? instanceType with
  | some c => some c
  | none => catalog.folded.get? (Text.lowerCase instanceType)

/-- The entry of an instance type that has to be there. -/
def lookup (catalog : GpuCatalog) (instanceType : String) : Except CapacityError GpuCapacity :=
  match catalog.get? instanceType with
  | some c => .ok c
  | none => .error (.gpuConfigNotFound instanceType)

def instanceTypes (catalog : GpuCatalog) : List String := catalog.exact.keys

def size (catalog : GpuCatalog) : Nat := catalog.exact.size

def isEmpty (catalog : GpuCatalog) : Bool := catalog.exact.isEmpty

end GpuCatalog

end NodeSupply
