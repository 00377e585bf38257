import NodeSupply.Orchestrator
import NodeSupply.Proofs.Cluster.Store

/-! Whose a claim is. A claim belongs to a workload if it carries the workload's two labels; a claim
that is made for a request does so exactly if the request's selector leaves these labels alone. -/

namespace NodeSupply

namespace LabelSet

theorem matched_iff {labels : Option LabelSet} {selector : LabelSet} :
    matched labels selector = true ↔
      ∀ key value, selector.get? key = some value →
        (labels.bind fun l => l.get? key) = some value := by
  simp only [matched, List.all_eq_true, decide_eq_true_eq, KeyMap.get?_eq_some_iff, Prod.forall]

end LabelSet

theorem WorkloadRef.get?_ownerLabels (owner : WorkloadRef) (key : String) :
    owner.ownerLabels.get? key =
      if key = Label.workloadNamespace then some owner.nameSpace
      else if key = Label.workloadName then some owner.name
      else none := by
  show ((KeyMap.empty.insert Label.workloadName owner.name).insert
    Label.workloadNamespace owner.nameSpace).get? key = _
  rw [KeyMap.get?_insert, KeyMap.get?_insert, KeyMap.get?_empty]

theorem WorkloadRef.nodePool_not_owner (owner : WorkloadRef) :
    owner.ownerLabels.get? Label.nodePool = none := by
  rw [get?_ownerLabels]
  rfl

/-- Whether a claim carries the labels of a workload. -/
def NodeClaim.isOwnedBy (claim : NodeClaim) (owner : WorkloadRef) : Bool :=
  LabelSet.matched claim.labels owner.ownerLabels

namespace Store

/-- The claims that a workload owns, in name order. -/
def owned (s : Store) (owner : WorkloadRef) : List NodeClaim := s.matchingClaims owner.ownerLabels

/-- The claims that a workload owns and that are not being deleted. -/
def live (s : Store) (owner : WorkloadRef) : List NodeClaim :=
  (s.owned owner).filter fun claim => !claim.isDeleting

variable {s t : Store} {owner : WorkloadRef} {claim : NodeClaim}

theorem mem_owned_iff :
    claim ∈ s.owned owner ↔
      (∃ name, s.claims.get? name = some claim) ∧ claim.isOwnedBy owner = true := by
  simp only [owned, matchingClaims, List.mem_filter, KeyMap.mem_values_iff, NodeClaim.isOwnedBy]

theorem mem_live_iff :
    claim ∈ s.live owner ↔ claim ∈ s.owned owner ∧ claim.isDeleting = false := by
  simp only [live, List.mem_filter, Bool.not_eq_eq_eq_not, Bool.not_true]

theorem owned_congr (same : t.claims = s.claims) : t.owned owner = s.owned owner := by
  simp only [owned, matchingClaims, same]

theorem live_congr (same : t.claims = s.claims) : t.live owner = s.live owner := by
  simp only [live, owned_congr same]

theorem owned_length (s : Store) (owner : WorkloadRef) :
    (s.owned owner).length = s.claims.values.countP fun claim => claim.isOwnedBy owner := by
  rw [List.countP_eq_length_filter]
  rfl

theorem live_length (s : Store) (owner : WorkloadRef) :
    (s.live owner).length =
      s.claims.values.countP fun claim => !claim.isDeleting && claim.isOwnedBy owner := by
  rw [List.countP_eq_length_filter, ← List.filter_filter]
  rfl

theorem live_le_owned (s : Store) (owner : WorkloadRef) :
    (s.live owner).length ≤ (s.owned owner).length := List.length_filter_le _ _

/-- Under their own names, no two owned claims share one. -/
theorem Keyed.owned_names_nodup (keyed : s.Keyed) (owner : WorkloadRef) :
    ((s.owned owner).map NodeClaim.name).Nodup := by
  have named : s.claims.values.map NodeClaim.name = s.claims.entries.map (·.1) := by
    rw [KeyMap.values, List.map_map]
    refine List.map_congr_left fun entry member => ?_
    exact keyed entry.1 entry.2 (KeyMap.get?_eq_some_iff.mpr member)
  have all : (s.claims.values.map NodeClaim.name).Nodup := named ▸ s.claims.keys_nodup
  exact all.sublist (List.filter_sublist.map _)

/-- Under their own names, claims are found by name. -/
theorem Keyed.get?_of_mem_owned (keyed : s.Keyed) (member : claim ∈ s.owned owner) :
    s.claims.get? claim.name = some claim := by
  obtain ⟨⟨key, bound⟩, -⟩ := mem_owned_iff.mp member
  exact (keyed key claim bound).symm ▸ bound

end Store

/-- The labels that every claim of a request is to carry, whatever the request selects by: those of
its owner and that of the pool. -/
def Orchestrator.reservedLabels (o : Orchestrator) (request : NodeRequest) : LabelSet :=
  request.owner.ownerLabels.insert Label.nodePool o.config.nodePoolName

/-- Whether a selector gives no label of a set another value. -/
def LabelSet.Respects (selector labels : LabelSet) : Prop :=
  ∀ key value, labels.get? key = some value →
    selector.get? key = none ∨ selector.get? key = some value

/-- A selector that sets neither of the two labels of an owner respects them. -/
theorem LabelSet.respects_of_unset {selector : LabelSet} {owner : WorkloadRef}
    (name : selector.get? Label.workloadName = none)
    (nameSpace : selector.get? Label.workloadNamespace = none) :
    selector.Respects owner.ownerLabels := by
  intro key value owned
  rw [owner.get?_ownerLabels] at owned
  split at owned
  · next same => exact .inl (same ▸ nameSpace)
  · split at owned
    · next same => exact .inl (same ▸ name)
    · cases owned

namespace Orchestrator

variable (o : Orchestrator) (request : NodeRequest)

theorem get?_reservedLabels (key : String) :
    (o.reservedLabels request).get? key =
      if key = Label.nodePool then some o.config.nodePoolName
      else request.owner.ownerLabels.get? key := KeyMap.get?_insert _ _ _ _

/-- Of the three sources of a claim's labels the selector decides first. -/
theorem get?_claimLabels (key : String) :
    (o.claimLabels request).get? key =
      (request.labelSelector.get? key).or ((o.reservedLabels request).get? key) := by
  rw [claimLabels, KeyMap.get?_insertMany_entries, KeyMap.get?_insertMany_entries,
    get?_reservedLabels, KeyMap.get?_insert, KeyMap.get?_empty]
  congr 1
  split
  · next pool =>
    rw [pool, request.owner.nodePool_not_owner]
    rfl
  · exact Option.or_none

theorem get?_claimLabels_eq_iff {key value : String}
    (reserved : (o.reservedLabels request).get? key = some value) :
    (o.claimLabels request).get? key = some value ↔
      request.labelSelector.get? key = none ∨ request.labelSelector.get? key = some value := by
  rw [get?_claimLabels, reserved]
  cases request.labelSelector.get? key <;> simp

theorem reserved_of_ownerLabels {key value : String}
    (owned : request.owner.ownerLabels.get? key = some value) :
    (o.reservedLabels request).get? key = some value := by
  rw [get?_reservedLabels, if_neg, owned]
  intro pool
  rw [pool, request.owner.nodePool_not_owner] at owned
  cases owned

theorem claimWithId_labels (id : String) :
    (o.claimWithId request id).labels = some (o.claimLabels request) := rfl

/-- A claim that carries a request's labels belongs to the request's owner exactly if the selector
respects the owner's labels. -/
theorem isOwnedBy_iff_respects {claim : NodeClaim}
    (labelled : claim.labels = some (o.claimLabels request)) :
    claim.isOwnedBy request.owner = true ↔
      request.labelSelector.Respects request.owner.ownerLabels := by
  rw [NodeClaim.isOwnedBy, LabelSet.matched_iff, labelled]
  refine forall₃_congr fun key value owned => ?_
  exact o.get?_claimLabels_eq_iff request (o.reserved_of_ownerLabels request owned)

end Orchestrator

end NodeSupply
