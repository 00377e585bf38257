import NodeSupply.Catalog.Basic

/-!
The GPU instance types of Azure.
-/

namespace NodeSupply.Catalog

/-- The instance types of Azure, oldest GPUs first. -/
def azureEntries : List GpuCapacity := [
  ⟨"Standard_NC6", 1, 12, "NVIDIA K80", false⟩,
  ⟨"Standard_NC12", 2, 24, "NVIDIA K80", false⟩,
  ⟨"Standard_NC24", 4, 48, "NVIDIA K80", false⟩,
  ⟨"Standard_NC24r", 4, 48, "NVIDIA K80", false⟩,
  ⟨"Standard_NC6s_v2", 1, 16, "NVIDIA P100", false⟩,
  ⟨"Standard_NC12s_v2", 2, 32, "NVIDIA P100", false⟩,
  ⟨"Standard_NC24s_v2", 4, 64, "NVIDIA P100", false⟩,
  ⟨"Standard_NC24rs_v2", 4, 64, "NVIDIA P100", false⟩,
  ⟨"Standard_NC6s_v3", 1, 16, "NVIDIA V100", false⟩,
  ⟨"Standard_NC12s_v3", 2, 32, "NVIDIA V100", false⟩,
  ⟨"Standard_NC24s_v3", 4, 64, "NVIDIA V100", false⟩,
  ⟨"Standard_NC24rs_v3", 4, 64, "NVIDIA V100", false⟩,
  ⟨"Standard_ND40rs_v2", 8, 256, "NVIDIA V100", true⟩,
  ⟨"Standard_NC4as_T4_v3", 1, 16, "NVIDIA T4", false⟩,
  ⟨"Standard_NC8as_T4_v3", 1, 16, "NVIDIA T4", false⟩,
  ⟨"Standard_NC16as_T4_v3", 1, 16, "NVIDIA T4", false⟩,
  ⟨"Standard_NC64as_T4_v3", 4, 64, "NVIDIA T4", false⟩,
  ⟨"Standard_NC24ads_A100_v4", 1, 80, "NVIDIA A100", true⟩,
  ⟨"Standard_NC48ads_A100_v4", 2, 160, "NVIDIA A100", true⟩,
  ⟨"Standard_NC96ads_A100_v4", 4, 320, "NVIDIA A100", true⟩,
  ⟨"Standard_ND96asr_v4", 8, 320, "NVIDIA A100", true⟩,
  ⟨"Standard_ND96amsr_A100_v4", 8, 640, "NVIDIA A100", true⟩,
  ⟨"Standard_NC40ads_H100_v5", 1, 94, "NVIDIA H100", true⟩,
  ⟨"Standard_NCC40ads_H100_v5", 1, 94, "NVIDIA H100", true⟩,
  ⟨"Standard_NC80adis_H100_v5", 2, 188, "NVIDIA H100", true⟩,
  ⟨"Standard_ND96isr_H100_v5", 8, 640, "NVIDIA H100", true⟩,
  ⟨"Standard_ND96isr_H200_v5", 8, 1128, "NVIDIA H200", true⟩,
  ⟨"Standard_ND6s", 1, 24, "NVIDIA P40", false⟩,
  ⟨"Standard_ND12s", 2, 48, "NVIDIA P40", false⟩,
  ⟨"Standard_ND24s", 4, 96, "NVIDIA P40", false⟩,
  ⟨"Standard_ND24rs", 4, 96, "NVIDIA P40", false⟩,
  ⟨"Standard_NV6", 1, 8, "NVIDIA M60", false⟩,
  ⟨"Standard_NV12", 2, 16, "NVIDIA M60", false⟩,
  ⟨"Standard_NV24", 4, 32, "NVIDIA M60", false⟩,
  ⟨"Standard_NV12s_v3", 1, 8, "NVIDIA M60", false⟩,
  ⟨"Standard_NV24s_v3", 2, 16, "NVIDIA M60", false⟩,
  ⟨"Standard_NV48s_v3", 4, 32, "NVIDIA M60", false⟩,
  ⟨"Standard_NV36ads_A10_v5", 1, 24, "NVIDIA A10", false⟩,
  ⟨"Standard_NV72ads_A10_v5", 2, 48, "NVIDIA A10", false⟩]

end NodeSupply.Catalog
