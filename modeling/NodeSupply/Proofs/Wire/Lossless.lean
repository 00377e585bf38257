import NodeSupply.Proofs.Wire.Fields
import NodeSupply.Wire.Config
import NodeSupply.Wire.Workload

/-! What is written comes back. Every field that is left out on writing has its default on reading, and
the members of a record stand in the order of its fields, so each record goes field by field. Only the
waits of a configuration can lose something, namely what is below a millisecond or a second. -/

namespace NodeSupply

open Json

/-! ### Workloads and their requests -/

theorem ModelProfile.lossless (height : Nat) :
    Lossless (height + 1) ModelProfile.ofJson ModelProfile.toJson := by
  -- As with every record: first the members in field order, then each of them looked up again.
  refine lossless_record (by decide) (fun _ => rfl) (fun p => ?_) fun p => ?_
  · exact .needed (lossless_string _) _ <| .needed (lossless_u32 _) _ <|
      .needed (lossless_u64 _) _ <| .needed (lossless_string _) _ <|
      .needed (lossless_string _) _ <| .defaulted (lossless_u32 _) _ <|
      .last <| .orAbsent (lossless_string _) _ .nil
  · simp [List.lookup_cons, readOr_absent (lossless_string 0)]

theorem WorkloadRef.lossless (height : Nat) :
    Lossless (height + 1) WorkloadRef.ofJson WorkloadRef.toJson := by
  refine lossless_record (by decide) (fun _ => rfl) (fun w => ?_) fun w => ?_
  · exact .needed (lossless_string _) _ <| .needed (lossless_string _) _ .nil
  · simp [List.lookup_cons]

theorem NodeRequest.lossless (height : Nat) :
    Lossless (height + 2) NodeRequest.ofJson NodeRequest.toJson := by
  refine lossless_record (by decide) (fun _ => rfl) (fun r => ?_) fun r => ?_
  · simp only [List.append_assoc]
    exact .needed (WorkloadRef.lossless height) _ <| .needed (lossless_string _) _ <|
      .orNull (lossless_u32 _) _ <| .defaulted (lossless_u32 _) _ <|
      .defaulted (lossless_textMap height) _ <| .defaulted (lossless_string height).list _ <|
      .defaulted (lossless_bool _) _ <| .orAbsent (ModelProfile.lossless height) _ <|
      .orNull (lossless_u32 _) _ <| .orNull (lossless_string _) _ .nil
  · simp [List.lookup_cons, List.lookup_append, (WorkloadRef.lossless 0).restores,
      (lossless_textMap 0).restores, (lossless_string 0).list.restores, countJson, strings,
      readOr_null (lossless_u32 0), readOr_null (lossless_string 0),
      readOr_absent (ModelProfile.lossless 0)]

/-! ### Claims -/

theorem Condition.lossless (height : Nat) :
    Lossless (height + 1) Condition.ofJson Condition.toJson := by
  refine lossless_record (by decide) (fun _ => rfl) (fun c => ?_) fun c => ?_
  · simp only [List.append_assoc]
    exact .needed (lossless_string _) _ <| .needed (lossless_string _) _ <|
      .orAbsent (lossless_string _) _ <| .orAbsent (lossless_string _) _ <|
      .last <| .orAbsent (lossless_string _) _ .nil
  · simp [List.lookup_cons, List.lookup_append, readOr_absent (lossless_string 0)]

theorem NodeClassRef.lossless (height : Nat) :
    Lossless (height + 1) NodeClassRef.ofJson NodeClassRef.toJson := by
  refine lossless_record (by decide) (fun _ => rfl) (fun r => ?_) fun r => ?_
  · exact .needed (lossless_string _) _ <| .needed (lossless_string _) _ <|
      .needed (lossless_string _) _ .nil
  · simp [List.lookup_cons]

theorem Taint.lossless (height : Nat) : Lossless (height + 1) Taint.ofJson Taint.toJson := by
  refine lossless_record (by decide) (fun _ => rfl) (fun t => ?_) fun t => ?_
  · simp only [List.append_assoc]
    exact .needed (lossless_string _) _ <| .orAbsent (lossless_string _) _ <|
      .needed (lossless_string _) _ .nil
  · simp [List.lookup_cons, List.lookup_append, readOr_absent (lossless_string 0)]

theorem Requirement.lossless (height : Nat) :
    Lossless (height + 2) Requirement.ofJson Requirement.toJson := by
  refine lossless_record (by decide) (fun _ => rfl) (fun r => ?_) fun r => ?_
  · simp only [List.append_assoc]
    exact .needed (lossless_string _) _ <| .needed (lossless_string _) _ <|
      .items (lossless_string height) _ <| .last <| .orAbsent (lossless_u32 _) _ .nil
  · simp [List.lookup_cons, List.lookup_append, readOr_absent (lossless_u32 0),
      readOr_default (lossless_string 0).list List.isEmpty_iff.mp]

theorem ClaimSpec.resources_lossless (height : Nat) :
    Lossless (height + 2) ClaimSpec.resourcesOfJson ClaimSpec.resourcesToJson := by
  refine lossless_record (by decide) (fun _ => rfl) (fun m => ?_) fun m => ?_
  · exact .last <| .texts m .nil
  · simp [readOr_default (lossless_textMap 0) KeyMap.eq_empty_of_isEmpty]

theorem ClaimSpec.lossless (height : Nat) :
    Lossless (height + 4) ClaimSpec.ofJson ClaimSpec.toJson := by
  refine lossless_record (by decide) (fun _ => rfl) (fun s => ?_) fun s => ?_
  · simp only [List.append_assoc]
    exact .orAbsent (NodeClassRef.lossless _) _ <| .items (Taint.lossless (height + 1)) _ <|
      .defaulted (Requirement.lossless height).list _ <|
      .defaulted (ClaimSpec.resources_lossless (height + 1)) _ .nil
  · simp [List.lookup_cons, List.lookup_append, readOr_absent (NodeClassRef.lossless 0),
      readOr_default (Taint.lossless 0).list List.isEmpty_iff.mp,
      (Requirement.lossless 0).readList_map, (ClaimSpec.resources_lossless 0).restores]

example : ClaimSpec.toJson {} =
    .object [("requirements", .array []), ("resources", .object [])] := rfl

theorem ClaimStatus.lossless (height : Nat) :
    Lossless (height + 3) ClaimStatus.ofJson ClaimStatus.toJson := by
  refine lossless_record (by decide) (fun _ => rfl) (fun s => ?_) fun s => ?_
  · simp only [List.append_assoc]
    exact .orAbsent (lossless_string _) _ <| .orAbsent (lossless_string _) _ <|
      .defaulted (Condition.lossless height).list _ .nil
  · simp [List.lookup_cons, List.lookup_append, readOr_absent (lossless_string 0),
      (Condition.lossless 0).readList_map]

/-! ### Configurations -/

namespace Duration

theorem wholeMillis_ofMillis (n : UInt64) : (ofMillis n).wholeMillis = n := by
  have below : n.toNat ≤ UInt64.size - 1 := Nat.le_sub_one_of_lt n.toNat_lt
  rw [wholeMillis, ofMillis, Nat.mul_div_cancel _ (by decide), Nat.min_eq_left below]
  exact UInt64.ofNat_toNat

theorem wholeSeconds_ofSeconds (n : UInt64) : (ofSeconds n).wholeSeconds = n := by
  rw [wholeSeconds, ofSeconds, Nat.mul_div_cancel _ (by decide)]
  exact UInt64.ofNat_toNat

theorem ofMillis_wholeMillis {d : Duration} (whole : 1000000 ∣ d.nanos)
    (fits : d.nanos / 1000000 < UInt64.size) : ofMillis d.wholeMillis = d := by
  apply ext
  have kept : d.wholeMillis.toNat = d.nanos / 1000000 := by
    rw [wholeMillis, Nat.min_eq_left (Nat.le_sub_one_of_lt fits)]
    exact UInt64.toNat_ofNat_of_lt fits
  change d.wholeMillis.toNat * 1000000 = d.nanos
  rw [kept, Nat.div_mul_cancel whole]

theorem ofSeconds_wholeSeconds {d : Duration} (whole : 1000000000 ∣ d.nanos) :
    ofSeconds d.wholeSeconds = d := by
  apply ext
  have fits : d.nanos / 1000000000 < UInt64.size :=
    Nat.div_lt_of_lt_mul (Nat.mul_comm _ _ ▸ d.bounded)
  have kept : d.wholeSeconds.toNat = d.nanos / 1000000000 := UInt64.toNat_ofNat_of_lt fits
  change d.wholeSeconds.toNat * 1000000000 = d.nanos
  rw [kept, Nat.div_mul_cancel whole]

end Duration

theorem CloudProvider.lossless (height : Nat) :
    Lossless height CloudProvider.ofJson CloudProvider.toJson where
  shallow _ _ _ := trivial
  present _ := Json.noConfusion
  restores c := by cases c <;> rfl

theorem FeatureGates.lossless (height : Nat) :
    Lossless (height + 1) FeatureGates.ofJson FeatureGates.toJson := by
  refine lossless_record (by decide) (fun _ => rfl) (fun g => ?_) fun g => ?_
  · exact .defaulted (lossless_bool _) _ <| .defaulted (lossless_bool _) _ .nil
  · simp [List.lookup_cons]

namespace WaitConfig

/-- The waits as they are written, in whole milliseconds and whole seconds. -/
def rounded (w : WaitConfig) : WaitConfig :=
  { pollInterval := .ofMillis w.pollInterval.wholeMillis
    deadline := .ofSeconds w.deadline.wholeSeconds }

/-- Whether the waits are written exactly. -/
structure IsWhole (w : WaitConfig) : Prop where
  millis : 1000000 ∣ w.pollInterval.nanos
  fits : w.pollInterval.nanos / 1000000 < UInt64.size
  seconds : 1000000000 ∣ w.deadline.nanos

theorem IsWhole.rounded {w : WaitConfig} (whole : w.IsWhole) : w.rounded = w := by
  rw [WaitConfig.rounded, Duration.ofMillis_wholeMillis whole.millis whole.fits,
    Duration.ofSeconds_wholeSeconds whole.seconds]

theorem isWhole_of_units (millis seconds : UInt64) :
    IsWhole { pollInterval := .ofMillis millis, deadline := .ofSeconds seconds } where
  millis := Nat.dvd_mul_left _ _
  fits := by
    change millis.toNat * 1000000 / 1000000 < _
    rw [Nat.mul_div_cancel _ (by decide)]
    exact millis.toNat_lt
  seconds := Nat.dvd_mul_left _ _

theorem rounded_eq_iff {w : WaitConfig} : w.rounded = w ↔ w.IsWhole := by
  refine ⟨fun same => ?_, IsWhole.rounded⟩
  rw [← same]
  exact isWhole_of_units _ _

example : IsWhole {} := ⟨by decide, by decide, by decide⟩

theorem rounded_toJson (w : WaitConfig) : w.rounded.toJson = w.toJson := by
  rw [toJson, toJson, WaitConfig.rounded, Duration.wholeMillis_ofMillis,
    Duration.wholeSeconds_ofSeconds]

theorem reads (w : WaitConfig) (height : Nat) :
    Shallow (height + 1) w.toJson ∧ ofJson w.toJson = .ok w.rounded := by
  have written : Written height fieldSpecs _ :=
    .defaulted (lossless_u64 _) w.pollInterval.wholeMillis <|
      .defaulted (lossless_u64 _) w.deadline.wholeSeconds .nil
  refine ⟨written.shallow, written.reads (by decide) ?_⟩
  simp [List.lookup_cons, rounded]

end WaitConfig

namespace Config

theorem reads (c : Config) (height : Nat) :
    Shallow (height + 2) c.toJson ∧ ofJson c.toJson = .ok { c with wait := c.wait.rounded } := by
  obtain ⟨shallow, wait⟩ := c.wait.reads height
  have written : Written (height + 1) fieldSpecs _ :=
    .needed (CloudProvider.lossless _) c.cloudProvider <|
      .orNull (lossless_string _) c.clusterName <|
      .defaulted (FeatureGates.lossless height) c.featureGates <| .ofRead rfl shallow wait <|
      .defaulted (lossless_string _) c.nodePoolName <|
      .defaulted (lossless_string _) c.nodeClassName <|
      .defaulted (lossless_string _) c.defaultStorage .nil
  refine ⟨written.shallow, written.reads (by decide) ?_⟩
  simp [List.lookup_cons, (CloudProvider.lossless 0).restores, readOr_null (lossless_string 0),
    (FeatureGates.lossless 0).restores, Json.defaulted, wait]

theorem decode?_eq (c : Config) :
    decode? ofJson c.toJson.text = some { c with wait := c.wait.rounded } := by
  obtain ⟨shallow, read⟩ := c.reads 0
  exact decode?_text shallow (by decide) read

end Config

/-- Profiles, requests, and the specs and statuses of claims are read back from their text as they
were. A configuration is if its waits are whole, and only then; in any case it is read back as one that
is written the same. -/
theorem wire_formats_lossless :
    (∀ p : ModelProfile, decode? ModelProfile.ofJson p.toJson.text = some p) ∧
    (∀ r : NodeRequest, decode? NodeRequest.ofJson r.toJson.text = some r) ∧
    (∀ s : ClaimSpec, decode? ClaimSpec.ofJson s.toJson.text = some s) ∧
    (∀ s : ClaimStatus, decode? ClaimStatus.ofJson s.toJson.text = some s) ∧
    (∀ c : Config, decode? Config.ofJson c.toJson.text = some c ↔ c.wait.IsWhole) ∧
    ∀ c : Config, (decode? Config.ofJson c.toJson.text).map Config.toJson = some c.toJson := by
  refine ⟨?profiles, ?requests, ?specs, ?statuses, ?exact, ?stable⟩
  case profiles => exact (ModelProfile.lossless 0).decode? (by decide)
  case requests => exact (NodeRequest.lossless 0).decode? (by decide)
  case specs => exact (ClaimSpec.lossless 0).decode? (by decide)
  case statuses => exact (ClaimStatus.lossless 0).decode? (by decide)
  case exact =>
    intro c
    rw [c.decode?_eq, Option.some_inj, ← WaitConfig.rounded_eq_iff]
    constructor
    · intro same
      exact congrArg Config.wait same
    · intro same
      rw [same]
  case stable =>
    intro c
    rw [c.decode?_eq, Option.map_some, Config.toJson, WaitConfig.rounded_toJson]
    rfl

theorem wire_formats_lossless_of_seconds :
    let config : Config :=
      { cloudProvider := .aws, clusterName := some "prod"
        wait := { pollInterval := .ofMillis 500, deadline := .ofSeconds 60 } }
    config.wait.IsWhole ∧ decode? Config.ofJson config.toJson.text = some config := by
  intro config
  have whole : config.wait.IsWhole := WaitConfig.isWhole_of_units 500 60
  exact ⟨whole, (wire_formats_lossless.2.2.2.2.1 config).mpr whole⟩

end NodeSupply
