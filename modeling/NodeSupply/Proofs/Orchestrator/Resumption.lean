import NodeSupply.Proofs.Orchestrator.Creation
import NodeSupply.Proofs.Orchestrator.Deletion
import NodeSupply.Proofs.Orchestrator.Sessions

/-! Taking up work after a restart. A ledger of the claims that were created and not deleted since, each
with its request, is kept beside the turns and agrees with the store behind every turn. So whoever
comes later finds the claims of a request by their labels and their instance type alone. -/

namespace NodeSupply

variable {ι : Type} [IdSource ι]

namespace Orchestrator

/-! ### Claims that were made for a request -/

/-- Of all that a claim requires, on whatever cloud, one requirement is about the instance type. -/
theorem claimWithId_instanceTypes (o : Orchestrator) (request : NodeRequest) (id : String) :
    (o.claimWithId request id).instanceTypes = [request.instanceType] := by
  cases kind : o.dialect <;>
    simp [NodeClaim.instanceTypes, claimWithId, claimRequirements, CloudDialect.claimSelector, kind,
      Requirement.isIn, Requirement.above, Label.nodePool, Label.instanceType, Label.operatingSystem,
      Label.azureSkuName, Label.awsGpuCount]

/-- A claim as it is stored for a request whose selector leaves the owner's labels alone. -/
def MadeFor (claim : NodeClaim) (request : NodeRequest) : Prop :=
  request.labelSelector.Respects request.owner.ownerLabels ∧
    ∃ (o : Orchestrator) (id : String) (stamp : Stamp),
      claim = Store.stamped (o.claimWithId request id) stamp

namespace MadeFor

variable {claim : NodeClaim} {request : NodeRequest}

theorem instanceTypes (made : MadeFor claim request) :
    claim.instanceTypes = [request.instanceType] := by
  obtain ⟨-, o, id, stamp, rfl⟩ := made
  exact o.claimWithId_instanceTypes request id

theorem live (made : MadeFor claim request) : claim.isDeleting = false := by
  obtain ⟨-, o, id, stamp, rfl⟩ := made
  rfl

theorem isOwnedBy_iff (made : MadeFor claim request) (owner : WorkloadRef) :
    claim.isOwnedBy owner = true ↔ request.owner = owner := by
  obtain ⟨respects, o, id, stamp, rfl⟩ := made
  have owned : (Store.stamped (o.claimWithId request id) stamp).isOwnedBy request.owner = true :=
    (o.isOwnedBy_iff_respects request rfl).mpr respects
  constructor
  · intro also
    rw [NodeClaim.isOwnedBy, LabelSet.matched_iff] at owned also
    -- A label has one value, so the two owners agree in both.
    have name := (owned Label.workloadName _ (request.owner.get?_ownerLabels _)).symm.trans
      (also Label.workloadName _ (owner.get?_ownerLabels _))
    have nameSpace := (owned Label.workloadNamespace _ (request.owner.get?_ownerLabels _)).symm.trans
      (also Label.workloadNamespace _ (owner.get?_ownerLabels _))
    exact congrArg₂ WorkloadRef.mk (Option.some.inj name) (Option.some.inj nameSpace)
  · rintro rfl
    exact owned

/-- Among the claims of a workload those of an instance type are those that were made for it. -/
theorem isExisting_iff (made : MadeFor claim request) (query : NodeRequest) :
    isExisting query claim = true ↔ request.instanceType = query.instanceType := by
  rw [isExisting, made.live, NodeClaim.requestsInstanceType, made.instanceTypes]
  simp [eq_comm]

end MadeFor

/-! ### The ledger -/

/-- Claims with the requests that they were made for, the oldest first. -/
abbrev Ledger := List (NodeRequest × NodeClaim)

/-- A ledger after a turn: with the claim that the turn created, or without the one that the cluster
deleted. -/
def Turn.entered (turn : Turn) (ledger : Ledger) : Ledger :=
  match turn.action with
  | .createClaimFor request =>
    match ((turn.orchestrator.createClaimFor request).run StampedStore.serve turn.world).1 with
    | .ok claim => ledger ++ [(request, claim)]
    | .error _ => ledger
  | .deleteClaim name =>
    match (turn.world.store.perform turn.world.cluster.stamp (.deleteNodeClaim name)).1 with
    | .ok _ => ledger.filter fun entry => entry.2.name ≠ name
    | .error _ => ledger
  | _ => ledger

/-- The claims that turns created and that were not deleted since. -/
def ledgerOf (turns : List Turn) : Ledger := turns.foldl (fun ledger turn => turn.entered ledger) []

/-- Whether a store has the claims of a ledger and no others, each under its own name. -/
structure Ledger.Kept (ledger : Ledger) (s : Store) : Prop where
  keyed : s.Keyed
  stored : s.claims.values.Perm (ledger.map (·.2))
  made : ∀ entry ∈ ledger, MadeFor entry.2 entry.1

namespace Ledger.Kept

variable {ledger : Ledger} {s t : Store}

theorem of_claims (kept : Kept ledger s) (same : t.claims = s.claims) : Kept ledger t where
  keyed := Store.keyed_of_claims kept.keyed same
  stored := same ▸ kept.stored
  made := kept.made

theorem created (kept : Kept ledger s) {o : Orchestrator} {request : NodeRequest}
    {claim : NodeClaim} (grown : o.Grown request s t [claim])
    (respects : request.labelSelector.Respects request.owner.ownerLabels) :
    Kept (ledger ++ [(request, claim)]) t where
  keyed := Store.keyed_of_insert kept.keyed rfl grown.claims
  stored := by
    rw [List.map_append]
    exact (grown.values_perm.trans (kept.stored.cons claim)).trans
      (List.perm_append_singleton claim _).symm
  made := by
    intro entry member
    rcases List.mem_append.mp member with before | new
    · exact kept.made entry before
    · rw [List.mem_singleton.mp new]
      obtain ⟨id, stamp, made⟩ := grown.made claim List.mem_cons_self
      exact ⟨respects, o, id, stamp, made⟩

theorem deleted (kept : Kept ledger s) {name : String} (erased : t.claims = s.claims.erase name) :
    Kept (ledger.filter fun entry => entry.2.name ≠ name) t where
  keyed := Store.keyed_of_erase kept.keyed erased
  stored := by
    rw [erased, KeyMap.values_erase kept.keyed]
    refine (kept.stored.filter _).trans (.of_eq ?_)
    rw [List.filter_map]
    rfl
  made := fun entry member => kept.made entry (List.mem_of_mem_filter member)

/-- A turn that creates a claim, or fails to, keeps the ledger. -/
theorem creation (kept : Kept ledger s) {turn : Turn} {request : NodeRequest}
    (creates : turn.action = .createClaimFor request)
    (respects : request.labelSelector.Respects request.owner.ownerLabels)
    (begins : turn.world.store.claims = s.claims) :
    Kept (turn.entered ledger) turn.after := by
  have after : turn.after = ((turn.orchestrator.createClaimFor request).run StampedStore.serve
      turn.world).2.store := by
    rw [Turn.after, Turn.program, creates, Action.program, Program.run_mapOk]
  have grown := (turn.orchestrator.upholds_createClaimFor request (.refl turn.world.store)).ended
  have before := kept.of_claims begins
  rw [← after] at grown
  rw [Turn.entered, creates]
  dsimp only
  cases result : ((turn.orchestrator.createClaimFor request).run StampedStore.serve
    turn.world).1 with
  | ok claim =>
      rw [result] at grown
      exact before.created grown respects
  | error failure =>
      rw [result] at grown
      exact before.of_claims grown.same.claims

/-- A turn that deletes a claim, or fails to, keeps the ledger. -/
theorem deletion (kept : Kept ledger s) {turn : Turn} {name : String}
    (deletes : turn.action = .deleteClaim name) (begins : turn.world.store.claims = s.claims) :
    Kept (turn.entered ledger) turn.after := by
  have after : turn.after =
      (turn.world.store.perform turn.world.cluster.stamp (.deleteNodeClaim name)).2 := by
    rw [Turn.after, Turn.program, deletes, Action.program, store_deleteClaim]
  have before := kept.of_claims begins
  rw [Turn.entered, deletes, after]
  dsimp only
  rcases turn.world.store.perform_delete turn.world.cluster.stamp name with
    ⟨fault, failed, same⟩ | ⟨succeeded, erased⟩
  · rw [failed]
    exact before.of_claims same
  · rw [succeeded]
    exact before.deleted erased

end Ledger.Kept

/-- Whether an action creates a claim for a request whose selector leaves the owner's labels alone, or
deletes a claim. -/
def Action.Enters : Action → Prop
  | .createClaimFor request => request.labelSelector.Respects request.owner.ownerLabels
  | .deleteClaim _ => True
  | _ => False

theorem Session.kept {s : Store} {turns : List Turn} (session : Session s turns) {ledger : Ledger}
    (kept : ledger.Kept s) (enters : ∀ turn ∈ turns, turn.action.Enters) :
    Ledger.Kept (turns.foldl (fun ledger turn => turn.entered ledger) ledger)
      (endStore s turns) := by
  induction session generalizing ledger with
  | nil s => exact kept
  | @cons s turn rest waiting begins continues ih =>
      have same : turn.world.store.claims = s.claims := by rw [begins]
      have entered : Ledger.Kept (turn.entered ledger) turn.after := by
        have first := enters turn List.mem_cons_self
        cases acts : turn.action with
        | createClaimFor request =>
            rw [acts] at first
            exact kept.creation acts first same
        | deleteClaim name => exact kept.deletion acts same
        | _ => rw [acts] at first; exact first.elim
      exact ih entered fun turn member => enters turn (List.mem_cons_of_mem _ member)

/-! ### What is found again -/

/-- What a request finds in a store are the claims of the ledger that were made for its owner and its
instance type. -/
theorem Ledger.Kept.existing {ledger : Ledger} {s : Store} (kept : ledger.Kept s)
    (query : NodeRequest) :
    ((s.owned query.owner).filter (isExisting query)).Perm
      ((ledger.filter fun entry => entry.1.owner = query.owner ∧
        entry.1.instanceType = query.instanceType).map (·.2)) := by
  rw [Store.owned, Store.matchingClaims, List.filter_filter]
  refine (kept.stored.filter _).trans (.of_eq ?_)
  rw [List.filter_map]
  refine congrArg _ (List.filter_congr fun entry member => ?_)
  have made := kept.made entry member
  rw [Bool.eq_iff_iff, Function.comp_apply, Bool.and_eq_true, decide_eq_true_eq,
    made.isExisting_iff, and_comm]
  exact and_congr_left' (made.isOwnedBy_iff query.owner)

theorem Ledger.kept_of_empty {s : Store} (start : s.claims = .empty) : Ledger.Kept [] s where
  keyed := by
    intro key claim bound
    rw [start] at bound
    cases bound
  stored := by
    rw [start]
    exact .refl _
  made := fun _ member => nomatch member

theorem run_existingClaims (o : Orchestrator) (query : NodeRequest) (w : World StampedStore ι) :
    ((o.existingClaims query).run StampedStore.serve w).1 =
      ((o.listClaims query.owner).run StampedStore.serve w).1.map fun claims =>
        claims.filter (isExisting query) := by
  rw [existingClaims, Program.run_mapOk]

theorem existingClaims_isOk_iff (o : Orchestrator) (query : NodeRequest)
    (w : World StampedStore ι) :
    (∃ claims, ((o.existingClaims query).run StampedStore.serve w).1 = .ok claims) ↔
      (w.store.failures .listNodeClaims).length < o.listBackoff.attempts := by
  rw [run_existingClaims, ← o.listClaims_isOk_iff query.owner w]
  cases ((o.listClaims query.owner).run StampedStore.serve w).1 with
  | ok claims => exact ⟨fun _ => ⟨claims, rfl⟩, fun _ => ⟨_, rfl⟩⟩
  | error failure =>
      constructor
      · rintro ⟨_, success⟩
        cases success
      · rintro ⟨_, success⟩
        cases success

theorem existingClaims_ok {o : Orchestrator} {query : NodeRequest} {w : World StampedStore ι}
    {claims : List NodeClaim}
    (found : ((o.existingClaims query).run StampedStore.serve w).1 = .ok claims) :
    claims = (w.store.owned query.owner).filter (isExisting query) := by
  rw [run_existingClaims] at found
  cases listed : ((o.listClaims query.owner).run StampedStore.serve w).1 with
  | error failure =>
      rw [listed] at found
      cases found
  | ok owned =>
      rw [listed, (o.run_listClaims query.owner w).2 owned listed] at found
      exact (Except.ok.inj found).symm

theorem requestsInstanceType_iff (o : Orchestrator) (request : NodeRequest) (id type : String) :
    (o.claimWithId request id).requestsInstanceType type = true ↔ type = request.instanceType := by
  rw [NodeClaim.requestsInstanceType, claimWithId_instanceTypes, List.contains_iff_mem,
    List.mem_singleton]

/-- After any creations and deletions, by whatever orchestrators, a request finds exactly the claims
that were created for its owner and its instance type and not deleted since, each once, as soon as
listing is not stopped at every attempt. -/
theorem existingClaims_exact {s : Store} {turns : List Turn} (session : Session s turns)
    (start : s.claims = .empty) (enters : ∀ turn ∈ turns, turn.action.Enters) (o : Orchestrator)
    (query : NodeRequest) (w : World StampedStore ι) (waiting : Operation → List UInt16)
    (resumed : w.store = { endStore s turns with failures := waiting }) :
    ((∃ claims, ((o.existingClaims query).run StampedStore.serve w).1 = .ok claims) ↔
      (waiting .listNodeClaims).length < o.listBackoff.attempts) ∧
    (∀ claims, ((o.existingClaims query).run StampedStore.serve w).1 = .ok claims →
      claims.Perm (((ledgerOf turns).filter fun entry => entry.1.owner = query.owner ∧
        entry.1.instanceType = query.instanceType).map (·.2)) ∧
      (claims.map NodeClaim.name).Nodup) ∧
    ∀ (request : NodeRequest) (v : World StampedStore ι) (type : String),
      ((o.generateClaim request).run StampedStore.serve v).1.requestsInstanceType type = true ↔
        type = request.instanceType := by
  have same : w.store.claims = (endStore s turns).claims := by rw [resumed]
  have kept := (session.kept (Ledger.kept_of_empty start) enters).of_claims same
  refine ⟨?_, ?_, fun request v type => o.requestsInstanceType_iff request _ type⟩
  · rw [o.existingClaims_isOk_iff query w, resumed]
  · intro claims found
    rw [existingClaims_ok found]
    refine ⟨kept.existing query, ?_⟩
    exact (kept.keyed.owned_names_nodup query.owner).sublist (List.filter_sublist.map _)

/-- A claim on one cloud, one that fails on another, and the deletion of a claim that is not there. -/
theorem existingClaims_exact_after_failure :
    let azure : Orchestrator := { dialect := .azure, config := { cloudProvider := .azure } }
    let aws : Orchestrator :=
      { dialect := .aws "prod", config := { cloudProvider := .aws, clusterName := some "prod" } }
    let phi : NodeRequest := .new ⟨"phi", "ai"⟩ "Standard_NC24ads_A100_v4"
    let llama : NodeRequest := .new ⟨"llama", "ai"⟩ "p4d.24xlarge"
    let world : Store → World StampedStore := fun store =>
      { cluster := { store, nextStamp := ⟨0, 0⟩ }, ids := ⟨0⟩ }
    let first : Turn := ⟨azure, .createClaimFor phi, world {}⟩
    let second : Turn :=
      ⟨aws, .createClaimFor llama, world (first.after.failNext .createNodeClaim 500)⟩
    let third : Turn := ⟨azure, .deleteClaim "gone", world second.after⟩
    let turns := [first, second, third]
    let w := world third.after
    Session {} turns ∧ ({} : Store).claims = .empty ∧ (∀ turn ∈ turns, turn.action.Enters) ∧
      w.store = { endStore {} turns with failures := third.after.failures } ∧
      ((∃ claims, ((azure.existingClaims phi).run StampedStore.serve w).1 = .ok claims) ↔
        (third.after.failures .listNodeClaims).length < azure.listBackoff.attempts) ∧
      (∀ claims, ((azure.existingClaims phi).run StampedStore.serve w).1 = .ok claims →
        claims.Perm (((ledgerOf turns).filter fun entry => entry.1.owner = phi.owner ∧
          entry.1.instanceType = phi.instanceType).map (·.2)) ∧
        (claims.map NodeClaim.name).Nodup) ∧
      ∀ (request : NodeRequest) (v : World StampedStore) (type : String),
        ((azure.generateClaim request).run StampedStore.serve v).1.requestsInstanceType type =
          true ↔ type = request.instanceType := by
  intro azure aws phi llama world first second third turns w
  have session : Session {} turns := .next rfl (.cons _ rfl (.next rfl (.nil _)))
  have enters : ∀ turn ∈ turns, turn.action.Enters := by
    simp only [turns, List.forall_mem_cons, List.not_mem_nil, false_implies, implies_true, and_true]
    exact ⟨LabelSet.respects_of_unset rfl rfl, LabelSet.respects_of_unset rfl rfl, trivial⟩
  exact ⟨session, rfl, enters, rfl, existingClaims_exact session rfl enters azure phi w _ rfl⟩

end Orchestrator

end NodeSupply
