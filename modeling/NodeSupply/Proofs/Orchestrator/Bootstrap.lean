import NodeSupply.Proofs.Orchestrator.Labels
import NodeSupply.Proofs.Orchestrator.NodeClasses
import NodeSupply.Wire.ConfigFile

/-! From a configuration to the node class of its claims. Whether a cluster name is usable is asked
twice, by the check of a configuration and by the choice of a dialect, and the node class is named
three times: when it is looked for, when it is created, and in every claim. All of these agree. -/

namespace NodeSupply

/-! ### Which configurations make an orchestrator -/

theorem ok_of_bind {ε α β : Type} {x : Except ε α} {f : α → Except ε β} {b : β}
    (success : (x >>= f) = .ok b) : ∃ a, x = .ok a ∧ f a = .ok b := by
  cases x with
  | error e => cases success
  | ok a => exact ⟨a, rfl, success⟩

/-- On a cloud that needs a cluster name, a valid configuration has a usable one. -/
theorem Config.clusterName_of_valid {c : Config} (valid : c.validate = .ok ())
    (aws : c.cloudProvider = .aws) : ∃ name, c.usableClusterName? = some name := by
  cases usable : c.usableClusterName? with
  | some name => exact ⟨name, rfl⟩
  | none =>
      have unset : c.cloudProvider = .aws ∧ c.usableClusterName?.isNone = true := by
        rw [usable]
        exact ⟨aws, rfl⟩
      rw [validate, if_pos unset] at valid
      split_ifs at valid
      split at valid <;> cases valid

/-- A valid configuration has a dialect, which is that of its cloud. -/
theorem CloudDialect.ofConfig_of_valid {c : Config} (valid : c.validate = .ok ()) :
    ∃ d, ofConfig c = .ok d ∧ d.cloud = c.cloudProvider := by
  cases cloud : c.cloudProvider with
  | azure => exact ⟨.azure, by rw [ofConfig, cloud], rfl⟩
  | arc => exact ⟨.arc, by rw [ofConfig, cloud], rfl⟩
  | aws =>
      obtain ⟨name, usable⟩ := Config.clusterName_of_valid valid cloud
      refine ⟨.aws name, ?_, rfl⟩
      rw [ofConfig, cloud]
      dsimp only
      rw [usable]

namespace Config

theorem valid_of_validated {c d : Config} (passed : c.validated = .ok d) : d.validate = .ok () := by
  unfold validated at passed
  split at passed
  · cases passed
  · next valid =>
    cases passed
    exact valid

theorem valid_of_ofFile {content : Option (List UInt8)} {c : Config}
    (loaded : ofFile content = .ok c) : c.validate = .ok () := by
  unfold ofFile at loaded
  split at loaded
  · cases loaded
  · split at loaded
    · cases loaded
    · split at loaded
      · cases loaded
      · exact valid_of_validated loaded

theorem valid_of_ofEnvironment {env : Environment} {c : Config}
    (loaded : ofEnvironment env = .ok c) : c.validate = .ok () := by
  obtain ⟨cloudProvider, clusterName, featureGates⟩ := env
  cases cloudProvider with
  | none => cases loaded
  | some provider =>
      obtain ⟨cloud, -, loaded⟩ := ok_of_bind loaded
      cases featureGates with
      | none => exact valid_of_validated loaded
      | some raw =>
          obtain ⟨gates, -, passed⟩ := ok_of_bind loaded
          exact valid_of_validated passed

end Config

namespace Orchestrator

theorem ofConfig_of_valid {c : Config} (valid : c.validate = .ok ()) :
    ∃ o, ofConfig c = .ok o ∧ o.config = c ∧ o.dialect.cloud = c.cloudProvider := by
  obtain ⟨d, chosen, cloud⟩ := CloudDialect.ofConfig_of_valid valid
  refine ⟨{ dialect := d, config := c }, ?_, rfl, cloud⟩
  rw [ofConfig, valid]
  change (CloudDialect.ofConfig c >>= _) = _
  rw [chosen]
  rfl

theorem ofConfig_of_invalid {c : Config} {e : ConfigError} (invalid : c.validate = .error e) :
    ofConfig c = .error e := by
  rw [ofConfig, invalid]
  rfl

/-- The check of a configuration is the only one that can refuse it. -/
theorem ofConfig_eq_error_iff {c : Config} {e : ConfigError} :
    ofConfig c = .error e ↔ c.validate = .error e := by
  refine ⟨?_, ofConfig_of_invalid⟩
  intro refused
  cases checked : c.validate with
  | error fault =>
      rw [ofConfig_of_invalid checked] at refused
      exact congrArg _ (Except.error.inj refused)
  | ok _ =>
      obtain ⟨o, made, -⟩ := ofConfig_of_valid checked
      rw [made] at refused
      cases refused

theorem ofConfig_isOk_iff {c : Config} : (∃ o, ofConfig c = .ok o) ↔ c.validate = .ok () := by
  constructor
  · rintro ⟨o, made⟩
    cases checked : c.validate with
    | error fault =>
        rw [ofConfig_of_invalid checked] at made
        cases made
    | ok _ => rfl
  · intro valid
    obtain ⟨o, made, -⟩ := ofConfig_of_valid valid
    exact ⟨o, made⟩

/-- An orchestrator keeps its configuration, and speaks the dialect of its cloud. -/
theorem of_ofConfig {c : Config} {o : Orchestrator} (made : ofConfig c = .ok o) :
    o.config = c ∧ o.dialect.cloud = c.cloudProvider := by
  obtain ⟨other, same, own⟩ := ofConfig_of_valid (ofConfig_isOk_iff.mp ⟨o, made⟩)
  rw [made] at same
  cases same
  exact own

end Orchestrator

/-! ### The node class -/

namespace Orchestrator

variable {ι : Type} [IdSource ι] {o : Orchestrator}

/-- Every dialect but one has a kind of node class. -/
theorem kind_of_cloud {d : CloudDialect} (other : d.cloud ≠ .arc) :
    ∃ kind, d.nodeClassKind? = some kind := by
  cases d with
  | azure => exact ⟨.aks, rfl⟩
  | aws clusterName => exact ⟨.ec2, rfl⟩
  | arc => exact (other rfl).elim

theorem kind_of_arc {d : CloudDialect} (arc : d.cloud = .arc) : d.nodeClassKind? = none := by
  cases d with
  | azure => cases arc
  | aws clusterName => cases arc
  | arc => rfl

theorem run_ensureNodeClass_of_arc (arc : o.dialect.cloud = .arc) (w : World StampedStore ι) :
    o.ensureNodeClass.run StampedStore.serve w = (.error (.unsupportedCloud .arc), w) := by
  unfold ensureNodeClass
  rw [kind_of_arc arc, arc]
  rfl

/-- Where no failures wait, seeing to the node class succeeds and leaves it there. -/
theorem upholds_ensureNodeClass {w : World StampedStore ι} (other : o.dialect.cloud ≠ .arc)
    (calm : ∀ op, w.store.failures op = []) :
    o.ensureNodeClass.Upholds StampedStore.serve (fun _ _ => True)
      (fun result v => result = .ok () ∧ o.HasNodeClass v.store) w := by
  obtain ⟨kind, own⟩ := kind_of_cloud other
  obtain ⟨manifest, made⟩ := exists_nodeClass own o.config.nodeClassName
  obtain ⟨sameKind, sameName⟩ := nodeClass_own own made
  have look : (Program.call (.nodeClassExists kind o.config.nodeClassName)).Upholds
      StampedStore.serve (fun _ _ => True)
      (fun outcome v => outcome = .ok (v.store.hasNodeClass kind o.config.nodeClassName) ∧
        ∀ op, v.store.failures op = []) w := by
    obtain ⟨answer, same⟩ := Store.perform_nodeClassExists calm w.cluster.stamp kind
      o.config.nodeClassName
    have kept : (w.store.perform w.cluster.stamp (.nodeClassExists kind
        o.config.nodeClassName)).2.hasNodeClass kind o.config.nodeClassName =
        w.store.hasNodeClass kind o.config.nodeClassName := by
      rw [Store.hasNodeClass, same, Store.hasNodeClass]
    exact Program.upholds_call trivial
      ⟨answer.trans (congrArg Except.ok kept.symm), Store.perform_calm calm w.cluster.stamp _⟩
  -- The look decides: either the class is there, or it is created under the name that was looked for.
  unfold ensureNodeClass
  rw [own]
  refine look.bind ?_
  rintro _ v ⟨rfl, calm⟩
  cases there : v.store.hasNodeClass kind o.config.nodeClassName with
  | true => exact ⟨rfl, kind, own, there⟩
  | false =>
      have creation : (Program.call (.createNodeClass manifest)).Upholds StampedStore.serve
          (fun _ _ => True) (fun outcome u => outcome = .ok () ∧ o.HasNodeClass u.store) v := by
        rw [← sameKind, ← sameName] at there
        rcases Store.perform_createNodeClass calm v.cluster.stamp manifest with
          ⟨present, -⟩ | ⟨-, created, added⟩
        · rw [Store.hasNodeClass_iff.mpr present] at there
          cases there
        · refine Program.upholds_call trivial ⟨created, kind, own, Store.hasNodeClass_iff.mpr ?_⟩
          rw [← sameKind, ← sameName]
          exact added ▸ List.mem_cons_self
      dsimp only
      rw [made]
      refine creation.bind ?_
      rintro _ u ⟨rfl, present⟩
      exact ⟨rfl, present⟩

/-- From configuration to claims. An orchestrator can be made of exactly the valid configurations, among
them all that are loaded. Where nothing fails, it sees to its node class on every cloud but one, and
then the class that every claim refers to is there; on that cloud it touches nothing and no claim
refers to a class. -/
theorem validation_bootstrap_and_claims_agree (c : Config) :
    (∀ e, ofConfig c = .error e ↔ c.validate = .error e) ∧
    ((∃ o, ofConfig c = .ok o) ↔ c.validate = .ok ()) ∧
    (∀ content, Config.ofFile content = .ok c → ∃ o, ofConfig c = .ok o) ∧
    (∀ env, Config.ofEnvironment env = .ok c → ∃ o, ofConfig c = .ok o) ∧
    ∀ (o : Orchestrator) (backoff : Backoff) (w : World StampedStore ι), ofConfig c = .ok o →
      (∀ op, w.store.failures op = []) →
      let ensured := (o.withBackoff backoff).ensureNodeClass.run StampedStore.serve w
      let generated (request : NodeRequest) (v : World StampedStore ι) : NodeClaim :=
        (((o.withBackoff backoff).generateClaim request).run StampedStore.serve v).1
      (ensured.1 = .ok () ↔ c.cloudProvider ≠ .arc) ∧
      (c.cloudProvider ≠ .arc →
        ∃ (kind : NodeClassKind) (ref : NodeClassRef),
          ensured.2.store.hasNodeClass kind ref.name = true ∧
          ref.kind = kind.kind ∧ ref.group = kind.group ∧
          ∀ request v, (generated request v).spec.nodeClassRef = some ref) ∧
      (c.cloudProvider = .arc →
        ensured.2 = w ∧ ∀ request v, (generated request v).spec.nodeClassRef = none) := by
  refine ⟨fun _ => ofConfig_eq_error_iff, ofConfig_isOk_iff, ?_, ?_, ?_⟩
  · intro content loaded
    exact ofConfig_isOk_iff.mpr (Config.valid_of_ofFile loaded)
  · intro env loaded
    exact ofConfig_isOk_iff.mpr (Config.valid_of_ofEnvironment loaded)
  · intro o backoff w made calm ensured generated
    obtain ⟨rfl, cloud⟩ := of_ofConfig made
    have refs : ∀ request v, (generated request v).spec.nodeClassRef =
        o.dialect.nodeClassRef? o.config.nodeClassName := fun _ _ => rfl
    by_cases arc : o.config.cloudProvider = .arc
    · have refused : ensured = (.error (.unsupportedCloud .arc), w) :=
        run_ensureNodeClass_of_arc (o := o.withBackoff backoff) (cloud.trans arc) w
      refine ⟨?_, fun other => (other arc).elim, fun _ => ⟨congrArg Prod.snd refused, ?_⟩⟩
      · refine iff_of_false ?_ (not_not.mpr arc)
        intro success
        rw [refused] at success
        cases success
      · intro request v
        rw [refs, CloudDialect.nodeClassRef?, kind_of_arc (cloud.trans arc)]
        rfl
    · obtain ⟨success, kind, own, there⟩ :=
        (upholds_ensureNodeClass (o := o.withBackoff backoff) (cloud ▸ arc) calm).ended
      refine ⟨iff_of_true success arc, fun _ => ?_, fun only => (arc only).elim⟩
      refine ⟨kind, ⟨kind.group, kind.kind, o.config.nodeClassName⟩, there, rfl, rfl, ?_⟩
      intro request v
      rw [refs, CloudDialect.nodeClassRef?]
      exact congrArg (Option.map _) own

/-- A configuration for AWS, taken from the environment, and one for the cloud without node classes. -/
theorem validation_bootstrap_and_claims_agree_on_two :
    let aws : Config := { cloudProvider := .aws, clusterName := some "prod" }
    let arc : Config := { cloudProvider := .arc }
    let o : Orchestrator := { dialect := .aws "prod", config := aws }
    let w : World StampedStore := { cluster := { nextStamp := ⟨0, 0⟩ }, ids := ⟨0⟩ }
    let request : NodeRequest := { owner := ⟨"phi", "ai"⟩, instanceType := "p4d.24xlarge" }
    Config.ofEnvironment ⟨some "AWS", some "prod", none⟩ = .ok aws ∧ ofConfig aws = .ok o ∧
      (o.ensureNodeClass.run StampedStore.serve w).1 = .ok () ∧
      (∃ (kind : NodeClassKind) (ref : NodeClassRef),
        (o.ensureNodeClass.run StampedStore.serve w).2.store.hasNodeClass kind ref.name = true ∧
        ref.kind = kind.kind ∧ ref.group = kind.group ∧
        ((o.generateClaim request).run StampedStore.serve w).1.spec.nodeClassRef = some ref) ∧
      ∃ p, ofConfig arc = .ok p ∧ (p.ensureNodeClass.run StampedStore.serve w).2 = w := by
  intro aws arc o w request
  have loaded : Config.ofEnvironment ⟨some "AWS", some "prod", none⟩ = .ok aws := by decide +kernel
  have made : ofConfig aws = .ok o := by decide +kernel
  have agree := @validation_bootstrap_and_claims_agree IdSequence _ aws
  have bootstrap := agree.2.2.2.2 o o.listBackoff w made fun _ => rfl
  obtain ⟨kind, ref, there, sameKind, sameGroup, refs⟩ := bootstrap.2.1 (by decide)
  have other := @validation_bootstrap_and_claims_agree IdSequence _ arc
  obtain ⟨p, made'⟩ := other.2.1.mpr (by decide +kernel)
  have untouched := (other.2.2.2.2 p p.listBackoff w made' fun _ => rfl).2.2 rfl
  exact ⟨loaded, made, bootstrap.1.mpr (by decide), ⟨kind, ref, there, sameKind, sameGroup,
    refs request w⟩, p, made', untouched.1⟩

end Orchestrator

end NodeSupply
