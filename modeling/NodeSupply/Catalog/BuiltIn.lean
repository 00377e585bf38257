import NodeSupply.Catalog.Aws
import NodeSupply.Catalog.Azure
import NodeSupply.Cloud

/-!
The catalog that comes with each cloud.
-/

namespace NodeSupply

/-- The catalog of a cloud; clusters connected through Arc use Azure's instance types. -/
def GpuCatalog.forCloud : CloudProvider → GpuCatalog
  | .aws => .ofList Catalog.awsEntries
  | .azure | .arc => .ofList Catalog.azureEntries

end NodeSupply
