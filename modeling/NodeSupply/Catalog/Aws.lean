import NodeSupply.Catalog.Basic

/-!
The GPU instance types of AWS.
-/

namespace NodeSupply.Catalog

/-- The instance types of AWS, oldest GPUs first. -/
def awsEntries : List GpuCapacity := [
  ⟨"p2.xlarge", 1, 12, "NVIDIA K80", false⟩,
  ⟨"p2.8xlarge", 8, 96, "NVIDIA K80", false⟩,
  ⟨"p2.16xlarge", 16, 192, "NVIDIA K80", false⟩,
  ⟨"p3.2xlarge", 1, 16, "NVIDIA V100", false⟩,
  ⟨"p3.8xlarge", 4, 64, "NVIDIA V100", false⟩,
  ⟨"p3.16xlarge", 8, 128, "NVIDIA V100", false⟩,
  ⟨"p3dn.24xlarge", 8, 256, "NVIDIA V100", false⟩,
  ⟨"p4d.24xlarge", 8, 320, "NVIDIA A100", true⟩,
  ⟨"p4de.24xlarge", 8, 640, "NVIDIA A100", true⟩,
  ⟨"p5.48xlarge", 8, 640, "NVIDIA H100", true⟩,
  ⟨"p5e.48xlarge", 8, 1128, "NVIDIA H200", true⟩,
  ⟨"p5en.48xlarge", 8, 1128, "NVIDIA H200", true⟩,
  ⟨"g6.xlarge", 1, 24, "NVIDIA L4", true⟩,
  ⟨"g6.2xlarge", 1, 24, "NVIDIA L4", true⟩,
  ⟨"g6.4xlarge", 1, 24, "NVIDIA L4", true⟩,
  ⟨"g6.8xlarge", 1, 24, "NVIDIA L4", true⟩,
  ⟨"g6.16xlarge", 1, 24, "NVIDIA L4", true⟩,
  ⟨"gr6.4xlarge", 1, 24, "NVIDIA L4", true⟩,
  ⟨"gr6.8xlarge", 1, 24, "NVIDIA L4", true⟩,
  ⟨"g6.12xlarge", 4, 96, "NVIDIA L4", true⟩,
  ⟨"g6.24xlarge", 4, 96, "NVIDIA L4", true⟩,
  ⟨"g6.48xlarge", 8, 192, "NVIDIA L4", true⟩,
  ⟨"g5g.xlarge", 1, 16, "NVIDIA T4", false⟩,
  ⟨"g5g.2xlarge", 1, 16, "NVIDIA T4", false⟩,
  ⟨"g5g.4xlarge", 1, 16, "NVIDIA T4", false⟩,
  ⟨"g5g.8xlarge", 1, 16, "NVIDIA T4", false⟩,
  ⟨"g5g.16xlarge", 2, 32, "NVIDIA T4", false⟩,
  ⟨"g5g.metal", 2, 32, "NVIDIA T4", false⟩,
  ⟨"g5.xlarge", 1, 24, "NVIDIA A10G", true⟩,
  ⟨"g5.2xlarge", 1, 24, "NVIDIA A10G", true⟩,
  ⟨"g5.4xlarge", 1, 24, "NVIDIA A10G", true⟩,
  ⟨"g5.8xlarge", 1, 24, "NVIDIA A10G", true⟩,
  ⟨"g5.12xlarge", 4, 96, "NVIDIA A10G", true⟩,
  ⟨"g5.16xlarge", 1, 24, "NVIDIA A10G", true⟩,
  ⟨"g5.24xlarge", 4, 96, "NVIDIA A10G", true⟩,
  ⟨"g5.48xlarge", 8, 192, "NVIDIA A10G", true⟩,
  ⟨"g4dn.xlarge", 1, 16, "NVIDIA T4", true⟩,
  ⟨"g4dn.2xlarge", 1, 16, "NVIDIA T4", true⟩,
  ⟨"g4dn.4xlarge", 1, 16, "NVIDIA T4", true⟩,
  ⟨"g4dn.8xlarge", 1, 16, "NVIDIA T4", true⟩,
  ⟨"g4dn.16xlarge", 1, 16, "NVIDIA T4", true⟩,
  ⟨"g4dn.12xlarge", 4, 64, "NVIDIA T4", true⟩,
  ⟨"g4dn.metal", 8, 128, "NVIDIA T4", true⟩,
  ⟨"g4ad.xlarge", 1, 8, "AMD Radeon Pro V520", true⟩,
  ⟨"g4ad.2xlarge", 1, 8, "AMD Radeon Pro V520", true⟩,
  ⟨"g4ad.4xlarge", 1, 8, "AMD Radeon Pro V520", true⟩,
  ⟨"g4ad.8xlarge", 2, 16, "AMD Radeon Pro V520", true⟩,
  ⟨"g4ad.16xlarge", 4, 32, "AMD Radeon Pro V520", true⟩,
  ⟨"g3s.xlarge", 1, 8, "NVIDIA M60", false⟩,
  ⟨"g3s.4xlarge", 1, 8, "NVIDIA M60", false⟩,
  ⟨"g3s.8xlarge", 2, 16, "NVIDIA M60", false⟩,
  ⟨"g3s.16xlarge", 4, 32, "NVIDIA M60", false⟩,
  ⟨"trn1.2xlarge", 1, 32, "AWS Trainium", true⟩,
  ⟨"trn1.32xlarge", 16, 512, "AWS Trainium", true⟩,
  ⟨"trn1n.32xlarge", 16, 512, "AWS Trainium", true⟩,
  ⟨"inf2.xlarge", 1, 32, "AWS Inferentia2", false⟩,
  ⟨"inf2.8xlarge", 1, 32, "AWS Inferentia2", false⟩,
  ⟨"inf2.24xlarge", 6, 192, "AWS Inferentia2", false⟩,
  ⟨"inf2.48xlarge", 12, 384, "AWS Inferentia2", false⟩]

end NodeSupply.Catalog
