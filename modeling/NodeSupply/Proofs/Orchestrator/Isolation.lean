import NodeSupply.Proofs.Cluster.Frame
import NodeSupply.Proofs.Orchestrator.Creation
import NodeSupply.Proofs.Orchestrator.Deletion
import NodeSupply.Proofs.Orchestrator.Sessions
import NodeSupply.Proofs.Orchestrator.Waiting

/-! Workloads do not touch each other's claims. Looks and deletions go by name, but the names come from
a list of claims that the workload owns, and a creation does not replace a claim. So whatever fails on
the way, the claims of others keep their contents and their scripts. -/

namespace NodeSupply

variable {ι : Type} [IdSource ι]

namespace Store

/-- What the operations of a workload leave of a store: every claim of others, with the conditions that
are still to come for it, all nodes, and the node classes, to which others may have come. -/
structure Spares (s t : Store) (owner : WorkloadRef) : Prop where
  others : ∀ name claim, s.claims.get? name = some claim → claim.isOwnedBy owner = false →
    s.AgreeAt t name
  nodes : t.nodes = s.nodes
  nodeClasses : ∀ kind name, s.hasNodeClass kind name = true → t.hasNodeClass kind name = true

/-- Whether a call is neither a look at a claim of others nor a deletion of one. -/
def Harmless (s : Store) (owner : WorkloadRef) : Call → Prop
  | .getNodeClaim name | .deleteNodeClaim name =>
    ∀ claim, s.claims.get? name = some claim → claim.isOwnedBy owner = true
  | .createNodeClaim _ | .listNodeClaims _ | .nodeClassExists _ _ | .createNodeClass _
  | .listNodes _ => True

variable {s t : Store} {owner : WorkloadRef} {c : Call}

theorem harmless_of_creation (s : Store) (owner : WorkloadRef) (creates : c.ForCreation) :
    s.Harmless owner c := by
  cases c with
  | getNodeClaim name => rcases creates with (same | same) | same <;> cases same
  | deleteNodeClaim name => exact (creates.not_deletion rfl).elim
  | createNodeClaim claim => trivial
  | listNodeClaims selector => trivial
  | nodeClassExists kind name => trivial
  | createNodeClass manifest => trivial
  | listNodes selector => trivial

/-- Under their own names, the claims of a workload do not hide those of others. -/
theorem Keyed.owned_of_name (keyed : s.Keyed) {claim other : NodeClaim}
    (member : claim ∈ s.owned owner) (bound : s.claims.get? claim.name = some other) :
    other.isOwnedBy owner = true := by
  obtain rfl : claim = other := Option.some.inj ((keyed.get?_of_mem_owned member).symm.trans bound)
  exact (mem_owned_iff.mp member).2

namespace Spares

theorem refl (s : Store) (owner : WorkloadRef) : s.Spares s owner where
  others := fun _ _ _ _ => ⟨rfl, rfl⟩
  nodes := rfl
  nodeClasses := fun _ _ present => present

/-- A call that is harmless in the first store spares others in the second as well, because their claims
are still in their places. -/
theorem perform (spared : s.Spares t owner) (harmless : s.Harmless owner c) (stamp : Stamp) :
    s.Spares (t.perform stamp c).2 owner where
  others := by
    intro name claim bound foreign
    have kept := spared.others name claim bound foreign
    have untouched : t.AgreeAt (t.perform stamp c).2 name := by
      by_cases about : subject? c = some name
      · cases c with
        | getNodeClaim other =>
            obtain rfl : other = name := Option.some.inj about
            rw [harmless claim bound] at foreign
            cases foreign
        | deleteNodeClaim other =>
            obtain rfl : other = name := Option.some.inj about
            rw [harmless claim bound] at foreign
            cases foreign
        | createNodeClaim new =>
            obtain rfl : new.name = name := Option.some.inj about
            exact perform_create_taken (kept.1.trans bound) _
        | listNodeClaims selector => cases about
        | nodeClassExists kind name => cases about
        | createNodeClass manifest => cases about
        | listNodes selector => cases about
      · exact perform_elsewhere about
    exact ⟨untouched.1.trans kept.1, untouched.2.trans kept.2⟩
  nodes := (perform_nodes t stamp c).trans spared.nodes
  nodeClasses := by
    intro kind name present
    exact perform_keeps_nodeClass (spared.nodeClasses kind name present) stamp c

end Spares

end Store

namespace Orchestrator

variable {s : Store} {owner : WorkloadRef} {w : World StampedStore ι}

/-- A program that only makes harmless calls spares others at every step. -/
theorem upholds_spares {α : Type} {p : Program α} (makes : p.Makes (s.Harmless owner))
    (spared : s.Spares w.store owner) :
    p.Upholds StampedStore.serve (fun v _ => s.Spares v.store owner)
      (fun _ v => s.Spares v.store owner) w := by
  refine makes.upholds ?_ spared
  intro v e harmless before
  have kept : ∀ c, e.call? = some c → ∀ stamp,
      s.Spares (v.store.perform stamp c).2 owner :=
    fun c asked stamp => before.perform (harmless c asked) stamp
  exact World.perform_keeps (fun t => s.Spares t owner) kept before

/-- Listing spares others, and what it finds is what the workload owns. -/
theorem upholds_spares_listClaims (o : Orchestrator) :
    (o.listClaims owner).Upholds StampedStore.serve (fun v _ => w.store.Spares v.store owner)
      (fun result v => w.store.Spares v.store owner ∧
        ∀ claims, result = .ok claims → claims = w.store.owned owner) w := by
  have lists : (o.listClaims owner).Makes (w.store.Harmless owner) := by
    refine (o.makes_listClaims owner).mono ?_
    rintro c rfl
    trivial
  refine ((upholds_spares lists (.refl w.store owner)).and (o.upholds_listClaims owner w)).mono
    (fun _ _ spared => spared) ?_
  rintro result v ⟨spared, -, success⟩
  exact ⟨spared, success⟩

/-- Others are spared by what goes on, once a workload's claims are listed, with harmless calls. -/
theorem upholds_spares_listed {β : Type} (o : Orchestrator)
    {f : List NodeClaim → Program (Except Failure β)}
    (makes : (f (w.store.owned owner)).Makes (w.store.Harmless owner)) :
    ((o.listClaims owner).andThen f).Upholds StampedStore.serve
      (fun v _ => w.store.Spares v.store owner) (fun _ v => w.store.Spares v.store owner) w := by
  refine o.upholds_spares_listClaims.andThen ?_ ?_
  · rintro failure v ⟨spared, -⟩
    exact spared
  · rintro claims v ⟨spared, success⟩
    rw [success claims rfl]
    exact upholds_spares makes spared

/-- The workload whose claims an action is about, where it is about the claims of one workload. -/
def Action.owner? : Action → Option WorkloadRef
  | .createClaimFor request | .existingClaims request | .waitForPending request
  | .syncClaims request _ | .claimsReady request _ => some request.owner
  | .listClaims owner => some owner
  | .createClaim _ | .waitForReady _ | .deleteClaim _ => none

theorem makes_waitForEach_harmless (o : Orchestrator) (keyed : s.Keyed) {claims : List NodeClaim}
    (owned : ∀ claim ∈ claims, claim ∈ s.owned owner) :
    (o.waitForEach claims).Makes (s.Harmless owner) := by
  refine (o.makes_waitForEach claims).mono ?_
  rintro c ⟨claim, member, rfl⟩ other bound
  exact keyed.owned_of_name (owned claim member) bound

theorem makes_deleteEach_harmless (keyed : s.Keyed) {claims : List NodeClaim}
    (owned : ∀ claim ∈ claims, claim ∈ s.owned owner) :
    (deleteEach claims).Makes (s.Harmless owner) := by
  refine (makes_deleteEach claims).mono ?_
  rintro c ⟨claim, member, rfl⟩ other bound
  exact keyed.owned_of_name (owned claim member) bound

theorem upholds_spares_syncClaims (o : Orchestrator) (request : NodeRequest) (required : UInt32)
    (keyed : w.store.Keyed) :
    (o.syncClaims request required).Upholds StampedStore.serve
      (fun v _ => w.store.Spares v.store request.owner)
      (fun _ v => w.store.Spares v.store request.owner) w := by
  refine o.upholds_spares_listed ?_
  split
  · refine Program.Makes.mapOk ((o.makes_createMany request _ []).mono ?_)
    intro c creates
    exact Store.harmless_of_creation w.store request.owner creates
  · refine Program.Makes.mapOk (makes_deleteEach_harmless keyed ?_)
    intro claim victim
    exact mem_of_mem_victims victim

theorem upholds_spares_action (o : Orchestrator) {action : Action} (about : action.owner? = some owner)
    (keyed : w.store.Keyed) :
    (action.program o).Upholds StampedStore.serve (fun v _ => w.store.Spares v.store owner)
      (fun _ v => w.store.Spares v.store owner) w := by
  have listed : (o.listClaims owner).Upholds StampedStore.serve
      (fun v _ => w.store.Spares v.store owner) (fun _ v => w.store.Spares v.store owner) w :=
    o.upholds_spares_listClaims.mono (fun _ _ spared => spared) fun _ _ ended => ended.1
  cases action with
  | createClaim claim => cases about
  | waitForReady name => cases about
  | deleteClaim name => cases about
  | createClaimFor request =>
      cases about
      refine upholds_spares ((o.makes_createClaimFor request).mono ?_).mapOk (.refl w.store _)
      intro c creates
      exact Store.harmless_of_creation w.store request.owner creates
  | listClaims owner =>
      cases about
      exact listed.mapOk
  | existingClaims request =>
      cases about
      exact listed.mapOk.mapOk
  | waitForPending request =>
      cases about
      refine o.upholds_spares_listed (o.makes_waitForEach_harmless keyed ?_)
      intro claim member
      exact List.mem_of_mem_filter member
  | syncClaims request required =>
      cases about
      exact (o.upholds_spares_syncClaims request required keyed).mapOk
  | claimsReady request required =>
      cases about
      exact listed.mapOk.mapOk

/-- Whatever a workload's action comes to and wherever it stops, it has left the claims of others and
their scripts alone, and all nodes and node classes are still there. -/
theorem spares_others (o : Orchestrator) {action : Action} (about : action.owner? = some owner)
    {w : World StampedStore ι} (keyed : w.store.Keyed) :
    ∀ v ∈ (action.program o).worlds StampedStore.serve w, w.store.Spares v.store owner :=
  (o.upholds_spares_action about keyed).worlds

/-- A workload that scales down, and whose deletion fails, beside the claim of another. -/
theorem spares_others_of_scaling :
    let o : Orchestrator := { dialect := .azure, config := { cloudProvider := .azure } }
    let request : NodeRequest := .new ⟨"phi", "ai"⟩ "Standard_NC24ads_A100_v4"
    let other : NodeRequest := .new ⟨"llama", "ai"⟩ "Standard_NC24ads_A100_v4"
    let s := ((Store.insertNodeClaim {} (o.claimWithId request "0")).insertNodeClaim
      (o.claimWithId other "0")).failNext .deleteNodeClaim 503
    let w : World StampedStore := { cluster := { store := s, nextStamp := ⟨0, 0⟩ }, ids := ⟨1⟩ }
    let action := Action.syncClaims request 0
    action.owner? = some request.owner ∧ w.store.Keyed ∧
      (o.claimWithId other "0").isOwnedBy request.owner = false ∧
      ∀ v ∈ (action.program o).worlds StampedStore.serve w,
        w.store.Spares v.store request.owner := by
  intro o request other s w action
  have built : w.store.Built := .failNext _ _ (.insertNodeClaim _ (.insertNodeClaim _ .empty))
  exact ⟨rfl, built.keyed, by decide, o.spares_others rfl built.keyed⟩

end Orchestrator

end NodeSupply
