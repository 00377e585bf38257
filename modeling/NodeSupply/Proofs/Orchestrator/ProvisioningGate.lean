import NodeSupply.ByoNodes
import NodeSupply.Proofs.Orchestrator.Submission
import NodeSupply.Proofs.Scaling.Convergence

/-! The gate that is to keep claims from being created. It is asked by the resolver of nodes that are
there already, and not by what creates claims: every action is the same program with it and without
it. So a session leaves all names unbound if its creations stop at the preparation and its syncs find
enough claims, as they do when they are given what the resolver answers behind the gate; else claims
are created. -/

namespace NodeSupply

variable {σ ι : Type} [IdSource ι]

namespace Orchestrator

/-! ### The gate does not reach the programs -/

/-- An orchestrator with the gate set one way or the other. -/
def withProvisioningDisabled (o : Orchestrator) (disabled : Bool) : Orchestrator :=
  { o with
    config := o.config.withFeatureGates
      { o.config.featureGates with disableNodeAutoProvisioning := disabled } }

section

variable (o : Orchestrator) (disabled : Bool)

theorem prepare_gate : (o.withProvisioningDisabled disabled).prepare = o.prepare := by
  have dialect : (o.withProvisioningDisabled disabled).dialect = o.dialect := rfl
  have same : (o.withProvisioningDisabled disabled).ensureNodeClass = o.ensureNodeClass := by
    unfold ensureNodeClass
    rw [dialect]
    cases o.dialect.nodeClassKind? with
    | none => rfl
    | some kind =>
        refine congrArg (Program.bind _) (funext fun outcome => ?_)
        rcases outcome with _ | _ | _ <;> rfl
  rw [prepare, prepare, same]
  rfl

theorem submitFresh_gate (request : NodeRequest) (attempts : Nat) :
    (o.withProvisioningDisabled disabled).submitFresh request attempts =
      o.submitFresh request attempts := by
  induction attempts with
  | zero => rfl
  | succ attempts ih =>
      rw [submitFresh, submitFresh, ih]
      rfl

theorem createClaim_gate (claim : NodeClaim) :
    (o.withProvisioningDisabled disabled).createClaim claim = o.createClaim claim := by
  rw [createClaim, createClaim, prepare_gate]

theorem createClaimFor_gate (request : NodeRequest) :
    (o.withProvisioningDisabled disabled).createClaimFor request = o.createClaimFor request := by
  rw [createClaimFor, createClaimFor, prepare_gate, submitFresh_gate]

theorem createMany_gate (request : NodeRequest) (count : Nat) (created : List String) :
    (o.withProvisioningDisabled disabled).createMany request count created =
      o.createMany request count created := by
  induction count generalizing created with
  | zero => rfl
  | succ count ih => simp only [createMany, createClaimFor_gate, ih]

theorem lookUntil_gate (name : String) (deadline looks : Nat) :
    (o.withProvisioningDisabled disabled).lookUntil name deadline looks =
      o.lookUntil name deadline looks := by
  induction looks with
  | zero => rfl
  | succ looks ih =>
      rw [lookUntil, lookUntil, ih]
      rfl

theorem waitForReady_gate (name : String) :
    (o.withProvisioningDisabled disabled).waitForReady name = o.waitForReady name := by
  rw [waitForReady, waitForReady]
  refine congrArg _ (funext fun started => ?_)
  exact o.lookUntil_gate disabled name _ _

theorem waitForEach_gate (claims : List NodeClaim) :
    (o.withProvisioningDisabled disabled).waitForEach claims = o.waitForEach claims := by
  induction claims with
  | nil => rfl
  | cons claim rest ih => rw [waitForEach, waitForEach, ih, waitForReady_gate]

/-- With the gate and without it an action is the same program. -/
theorem program_gate (action : Action) :
    action.program (o.withProvisioningDisabled disabled) = action.program o := by
  cases action with
  | createClaim claim => rw [Action.program, Action.program, createClaim_gate]
  | createClaimFor request => rw [Action.program, Action.program, createClaimFor_gate]
  | listClaims owner => rfl
  | existingClaims request => rfl
  | deleteClaim name => rfl
  | claimsReady request required => rfl
  | waitForReady name => rw [Action.program, Action.program, waitForReady_gate]
  | waitForPending request =>
      rw [Action.program, Action.program, waitForPending, waitForPending]
      refine congrArg _ (funext fun claims => ?_)
      exact o.waitForEach_gate disabled _
  | syncClaims request required =>
      rw [Action.program, Action.program, syncClaims, syncClaims]
      refine congrArg (Program.mapOk · _) (congrArg _ (funext fun claims => ?_))
      rw [createMany_gate]

end

/-! ### When an action asks for a claim -/

variable (serve : Server σ) (w : World σ ι)

/-- Whether an action gets so far as to ask for a claim: a creation if the preparation succeeds, a sync
if it finds too few claims besides. -/
def Action.Submits (o : Orchestrator) : Action → Prop
  | .createClaim _ | .createClaimFor _ => (o.prepare.run serve w).1 = .ok ()
  | .syncClaims request required =>
    ∃ claims, ((o.listClaims request.owner).run serve w).1 = .ok claims ∧
      claims.length < required.toNat ∧
      (o.prepare.run serve ((o.listClaims request.owner).run serve w).2).1 = .ok ()
  | .waitForReady _ | .listClaims _ | .existingClaims _ | .waitForPending _ | .deleteClaim _
  | .claimsReady _ _ => False

variable {serve w} {o : Orchestrator}

theorem prepared_of_created {request : NodeRequest} {claim : NodeClaim}
    (created : ((o.createClaimFor request).run serve w).1 = .ok claim) :
    (o.prepare.run serve w).1 = .ok () := by
  rw [createClaimFor, Program.run_andThen] at created
  cases prepared : (o.prepare.run serve w).1 with
  | ok _ => rfl
  | error failure =>
      rw [prepared] at created
      cases created

theorem asks_createMany_iff (request : NodeRequest) (count : Nat) (created : List String) :
    (o.createMany request (count + 1) created).AsksForClaim serve w ↔
      (o.prepare.run serve w).1 = .ok () := by
  rw [createMany, Program.asks_andThen_iff, (submits_createClaimFor request w).asks_iff]
  refine or_iff_left_of_imp ?_
  rintro ⟨claim, first, -⟩
  exact prepared_of_created first

theorem asks_syncClaims_iff (request : NodeRequest) (required : UInt32) :
    (o.syncClaims request required).AsksForClaim serve w ↔
      (Action.syncClaims request required).Submits serve w o := by
  rw [syncClaims, Program.asks_andThen_iff, Action.Submits,
    or_iff_right (Program.not_asks_of_existing (o.makes_listClaims_onExisting request.owner))]
  refine exists_congr fun claims => and_congr_right fun _ => ?_
  by_cases few : claims.length < required.toNat
  · obtain ⟨missing, count⟩ : ∃ missing, required.toNat - claims.length = missing + 1 :=
      ⟨required.toNat - claims.length - 1, by omega⟩
    rw [if_pos few, Program.asks_mapOk_iff, count, asks_createMany_iff]
    exact (and_iff_right few).symm
  · rw [if_neg few, Program.asks_mapOk_iff]
    refine iff_of_false (Program.not_asks_of_existing (makes_deleteEach_onExisting _)) ?_
    exact fun submits => few submits.1

/-- An action asks for a claim exactly if it gets so far. -/
theorem asks_iff_submits (action : Action) :
    (action.program o).AsksForClaim serve w ↔ action.Submits serve w o := by
  cases action with
  | createClaim claim => exact Program.asks_mapOk_iff.trans (submits_createClaim claim w).asks_iff
  | createClaimFor request =>
      exact Program.asks_mapOk_iff.trans (submits_createClaimFor request w).asks_iff
  | syncClaims request required =>
      exact Program.asks_mapOk_iff.trans (asks_syncClaims_iff request required)
  | _ => exact iff_of_false (Program.not_asks_of_existing (o.makes_onExisting_of_no_creation rfl)) id

/-- A sync that is given the resolver's answer behind the gate does not ask for claims. -/
theorem not_submits_of_resolved {gates : FeatureGates}
    (disabled : gates.disableNodeAutoProvisioning = true) {request : NodeRequest}
    {required : UInt32} {before after : World σ ι}
    (resolved : (ByoNodes.requiredAdditional gates request).run serve before =
      (.ok required.toNat, after)) :
    ¬(Action.syncClaims request required).Submits serve w o := by
  rw [ByoNodes.requiredAdditional, if_pos disabled, Program.run_done] at resolved
  have none : 0 = required.toNat := Except.ok.inj (congrArg Prod.fst resolved)
  rintro ⟨claims, -, few, -⟩
  omega

/-- The gate does not keep claims from being created: every action is the same program with it and
without it, and asks for a claim exactly if it gets so far. Only where no action does, no name gets
bound; syncs that are given the resolver's answers behind the gate are such actions. -/
theorem creation_despite_gate {s : Store} {turns : List Turn} (session : Session s turns) :
    (∀ turn ∈ turns, ∀ disabled,
      turn.action.program (turn.orchestrator.withProvisioningDisabled disabled) = turn.program) ∧
    (∀ turn ∈ turns, (∃ c ∈ turn.calls, c.operation = .createNodeClaim) ↔
      turn.action.Submits StampedStore.serve turn.world turn.orchestrator) ∧
    ((∀ turn ∈ turns, ¬turn.action.Submits StampedStore.serve turn.world turn.orchestrator) →
      ∀ name, s.claims.get? name = none →
        ∀ turn ∈ turns, ∀ t ∈ turn.stores, t.claims.get? name = none) ∧
    ∀ turn ∈ turns, ∀ (request : NodeRequest) (required : UInt32),
      turn.action = .syncClaims request required →
      ∀ (gates : FeatureGates) (before after : World StampedStore turn.ids),
        gates.disableNodeAutoProvisioning = true →
        (ByoNodes.requiredAdditional gates request).run StampedStore.serve before =
          (.ok required.toNat, after) →
        ¬turn.action.Submits StampedStore.serve turn.world turn.orchestrator := by
  refine ⟨?_, ?_, ?_, ?_⟩
  · intro turn _ disabled
    exact turn.orchestrator.program_gate disabled turn.action
  · intro turn _
    exact asks_iff_submits turn.action
  · intro stopped name unbound
    refine session.unbound_of_no_creation ?_ unbound
    intro turn member c called asks
    exact stopped turn member ((asks_iff_submits turn.action).mp ⟨c, called, asks⟩)
  · intro turn _ request required acts gates before after disabled resolved
    rw [acts]
    exact not_submits_of_resolved disabled resolved

/-- A wait and a sync to no claims behind the gate, in a cluster with one claim. -/
theorem creation_despite_gate_of_resolved :
    let o : Orchestrator :=
      { dialect := .azure
        config :=
          { cloudProvider := .azure, featureGates := { disableNodeAutoProvisioning := true } } }
    let request : NodeRequest := .new ⟨"phi", "ai"⟩ "Standard_NC24ads_A100_v4"
    let s := Store.insertNodeClaim {} (o.claimWithId request "0")
    let world : Store → World StampedStore := fun store =>
      { cluster := { store, nextStamp := ⟨0, 0⟩ }, ids := ⟨0⟩ }
    let first : Turn := ⟨o, .waitForPending request, world s⟩
    let second : Turn := ⟨o, .syncClaims request 0, world first.after⟩
    let turns := [first, second]
    Session s turns ∧
      (ByoNodes.requiredAdditional o.config.featureGates request).run StampedStore.serve
        (world first.after) = (.ok 0, world first.after) ∧
      (∀ turn ∈ turns, ¬turn.action.Submits StampedStore.serve turn.world turn.orchestrator) ∧
      ∀ name, s.claims.get? name = none →
        ∀ turn ∈ turns, ∀ t ∈ turn.stores, t.claims.get? name = none := by
  intro o request s world first second turns
  have session : Session s turns := .next rfl (.next rfl (.nil second.after))
  obtain ⟨-, -, unbound, sync⟩ := creation_despite_gate session
  have resolved : ∀ v : World StampedStore,
      (ByoNodes.requiredAdditional o.config.featureGates request).run StampedStore.serve v =
        (.ok 0, v) := fun _ => rfl
  have stopped : ∀ turn ∈ turns,
      ¬turn.action.Submits StampedStore.serve turn.world turn.orchestrator := by
    simp only [turns, List.forall_mem_cons, List.not_mem_nil, false_implies, implies_true, and_true]
    exact ⟨id, sync second (List.mem_cons_of_mem _ List.mem_cons_self) request 0 rfl
      o.config.featureGates _ _ rfl (resolved second.world)⟩
  exact ⟨session, resolved _, stopped, unbound stopped⟩

/-- Gates make no configuration valid or invalid. -/
theorem validate_withFeatureGates (config : Config) (gates : FeatureGates) :
    (config.withFeatureGates gates).validate = config.validate := rfl

theorem validate_azure : ({ cloudProvider := .azure } : Config).validate = .ok () := by
  decide +kernel

/-- With the gate on, a valid configuration makes an orchestrator whose sync creates a claim. -/
theorem claim_created_behind_gate :
    let config : Config :=
      { cloudProvider := .azure, featureGates := { disableNodeAutoProvisioning := true } }
    let o : Orchestrator := { dialect := .azure, config }
    let request : NodeRequest := .new ⟨"phi", "ai"⟩ "Standard_NC24ads_A100_v4"
    let w : World StampedStore := { cluster := { nextStamp := ⟨0, 0⟩ }, ids := ⟨0⟩ }
    ofConfig config = .ok o ∧
      (∃ c ∈ (o.syncClaims request 1).calls StampedStore.serve w,
        c.operation = .createNodeClaim) ∧
      w.store.claims = .empty ∧
      (((o.syncClaims request 1).run StampedStore.serve w).2.store.owned request.owner).length =
        1 := by
  intro config o request w
  have valid : config.validate = .ok () :=
    (validate_withFeatureGates { cloudProvider := .azure } config.featureGates).trans validate_azure
  have accepted : ofConfig config = .ok o := by
    rw [ofConfig, valid]
    rfl
  have ran : ∃ sync after, (o.syncClaims request 1).run StampedStore.serve w = (.ok sync, after) :=
    ⟨_, _, rfl⟩
  obtain ⟨sync, after, ended⟩ := ran
  obtain ⟨_, changes, -⟩ := o.run_syncClaims_ok request 1 Store.Built.empty.keyed
    (LabelSet.respects_of_unset rfl rfl) rfl ended
  have called : ∃ id, (o.syncClaims request 1).calls StampedStore.serve w =
      [.listNodeClaims request.owner.ownerLabels, .createNodeClaim (o.claimWithId request id)] :=
    ⟨_, rfl⟩
  obtain ⟨id, called⟩ := called
  refine ⟨accepted, ⟨.createNodeClaim (o.claimWithId request id), ?_, rfl⟩, rfl, ?_⟩
  · rw [called]
    exact List.mem_cons_of_mem _ List.mem_cons_self
  · rw [ended]
    exact changes.owned_after

end Orchestrator

end NodeSupply
