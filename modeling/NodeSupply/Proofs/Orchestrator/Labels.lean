import NodeSupply.Proofs.Orchestrator.Creation

/-! Which labels survive on a claim that is made for a request. What the request selects by is written
last, so the labels that place a claim and those that say whose it is are kept exactly under selectors
that respect them; a claim that loses the latter is not found by its owner again. -/

namespace NodeSupply

variable {σ ι : Type} [IdSource ι]

namespace Orchestrator

variable (o : Orchestrator) (request : NodeRequest)

/-- The reserved labels are those of the pool, the owner's name and the owner's namespace. -/
theorem reservedLabels_iff (holds : String → String → Prop) :
    (∀ key value, (o.reservedLabels request).get? key = some value → holds key value) ↔
      holds Label.nodePool o.config.nodePoolName ∧
        holds Label.workloadName request.owner.name ∧
        holds Label.workloadNamespace request.owner.nameSpace := by
  simp only [get?_reservedLabels, WorkloadRef.get?_ownerLabels]
  constructor
  · intro all
    exact ⟨all _ _ rfl, all _ _ rfl, all _ _ rfl⟩
  · rintro ⟨pool, name, nameSpace⟩ key value reserved
    split at reserved
    · next same =>
      cases reserved
      exact same ▸ pool
    · split at reserved
      · next same =>
        cases reserved
        exact same ▸ nameSpace
      · split at reserved
        · next same =>
          cases reserved
          exact same ▸ name
        · cases reserved

/-- What the request selects by is on the claim as given. -/
theorem claimLabels_of_selector {key value : String}
    (selected : request.labelSelector.get? key = some value) :
    (o.claimLabels request).get? key = some value := by
  rw [get?_claimLabels, selected]
  rfl

/-- All reserved labels are on the claim exactly if the selector respects them. -/
theorem claimLabels_reserved_iff :
    ((o.claimLabels request).get? Label.nodePool = some o.config.nodePoolName ∧
      (o.claimLabels request).get? Label.workloadName = some request.owner.name ∧
      (o.claimLabels request).get? Label.workloadNamespace = some request.owner.nameSpace) ↔
    request.labelSelector.Respects (o.reservedLabels request) := by
  refine (o.reservedLabels_iff request fun key value =>
    (o.claimLabels request).get? key = some value).symm.trans ?_
  exact forall₃_congr fun _ _ reserved => o.get?_claimLabels_eq_iff request reserved

theorem run_generateClaim (serve : Server σ) (w : World σ ι) :
    ((o.generateClaim request).run serve w).1 =
      o.claimWithId request (IdSource.take w.ids).1 := rfl

/-- A claim that was created is among its owner's claims exactly if it carries the owner's labels. -/
theorem mem_owned_of_created {w after : World StampedStore ι} {claim : NodeClaim}
    (created : (o.createClaimFor request).run StampedStore.serve w = (.ok claim, after)) :
    claim ∈ after.store.owned request.owner ↔
      request.labelSelector.Respects request.owner.ownerLabels := by
  have grown := run_createClaimFor_ok created
  have stored := grown.get?_fresh List.mem_cons_self
  obtain ⟨id, stamp, made⟩ := grown.made claim List.mem_cons_self
  have labelled : claim.labels = some (o.claimLabels request) := by
    rw [made]
    exact o.claimWithId_labels request id
  rw [Store.mem_owned_iff, o.isOwnedBy_iff_respects request labelled]
  exact and_iff_right ⟨_, stored⟩

/-- Exactly when the labels that a claim is to carry survive the request's selector. What is selected
by is on every claim as given; the pool and the owner are on it if the selector names no others; and
only a claim with the owner's labels is found again when the owner's claims are listed. -/
theorem generated_labels_exact :
    (∀ (serve : Server σ) (w : World σ ι), ∃ labels,
      ((o.generateClaim request).run serve w).1.labels = some labels ∧
      (∀ key value, request.labelSelector.get? key = some value → labels.get? key = some value) ∧
      ((labels.get? Label.nodePool = some o.config.nodePoolName ∧
        labels.get? Label.workloadName = some request.owner.name ∧
        labels.get? Label.workloadNamespace = some request.owner.nameSpace) ↔
          request.labelSelector.Respects (o.reservedLabels request)) ∧
      (LabelSet.matched (some labels) request.owner.ownerLabels = true ↔
        request.labelSelector.Respects request.owner.ownerLabels)) ∧
    ∀ (w after : World StampedStore ι) (claim : NodeClaim),
      (o.createClaimFor request).run StampedStore.serve w = (.ok claim, after) →
        (after.store.failures .listNodeClaims = [] → ∃ claims,
          ((o.listClaims request.owner).run StampedStore.serve after).1 = .ok claims) ∧
        ∀ claims, ((o.listClaims request.owner).run StampedStore.serve after).1 = .ok claims →
          (claim ∈ claims ↔ request.labelSelector.Respects request.owner.ownerLabels) := by
  constructor
  · intro serve w
    have labelled := o.claimWithId_labels request (IdSource.take w.ids).1
    refine ⟨o.claimLabels request, ?_, ?_, o.claimLabels_reserved_iff request, ?_⟩
    · rw [run_generateClaim]
      exact labelled
    · intro key value selected
      exact o.claimLabels_of_selector request selected
    · rw [← labelled]
      exact o.isOwnedBy_iff_respects request labelled
  · intro w after claim created
    constructor
    · intro unstopped
      exact ⟨_, o.run_listClaims_of_unstopped request.owner unstopped⟩
    · intro claims listed
      rw [(o.run_listClaims request.owner after).2 claims listed]
      exact o.mem_owned_of_created request created

/-- A selector that names another workload takes a claim away from its owner, and one that names
another pool takes it out of the configured pool. -/
theorem selector_displaces_labels :
    let o : Orchestrator := { dialect := .azure, config := { cloudProvider := .azure } }
    let request : NodeRequest := .new ⟨"phi", "ai"⟩ "Standard_NC24ads_A100_v4"
    let stolen := request.withLabelSelector (.ofList [(Label.workloadName, "other")])
    let moved := request.withLabelSelector (.ofList [(Label.nodePool, "shared")])
    LabelSet.matched (o.claimWithId stolen "0").labels stolen.owner.ownerLabels = false ∧
      (o.claimLabels moved).get? Label.nodePool = some "shared" ∧
      o.config.nodePoolName = "kaito" := by
  decide +kernel

end Orchestrator

end NodeSupply
