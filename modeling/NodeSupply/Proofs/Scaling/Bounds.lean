import NodeSupply.Proofs.Orchestrator.Creation
import NodeSupply.Proofs.Orchestrator.Deletion

/-! Scaling under failures. A sync can stop anywhere and forgets what it has done by then, but it
counts before it acts: it adds only claims that are missing and deletes only live claims that are too
many. So neither bound is broken, however many syncs are tried and wherever each of them stops. -/

namespace NodeSupply

variable {ι : Type} [IdSource ι]

/-- What a store may become by scaling: neither more claims than it had and than are required, nor
fewer live ones than it had and than are required. -/
structure Store.Within (s t : Store) (owner : WorkloadRef) (required : Nat) : Prop where
  owned : (t.owned owner).length ≤ max (s.owned owner).length required
  live : min (s.live owner).length required ≤ (t.live owner).length

namespace Store.Within

variable {s t u : Store} {owner : WorkloadRef} {required : Nat}

theorem of_claims (owner : WorkloadRef) (required : Nat) (same : t.claims = s.claims) :
    s.Within t owner required where
  owned := by
    rw [owned_congr same]
    exact Nat.le_max_left _ _
  live := by
    rw [live_congr same]
    exact Nat.min_le_left _ _

theorem trans (first : s.Within t owner required) (second : t.Within u owner required) :
    s.Within u owner required where
  owned := by
    have before := first.owned
    have after := second.owned
    omega
  live := by
    have before := first.live
    have after := second.live
    omega

/-- Claims that are missing may be added. -/
theorem of_grown {o : Orchestrator} {request : NodeRequest} {fresh : List NodeClaim}
    (grown : o.Grown request s t fresh)
    (missing : (s.owned owner).length + fresh.length ≤ required) : s.Within t owner required where
  owned := by
    have added := grown.values_perm.countP_eq fun claim => claim.isOwnedBy owner
    have most := fresh.countP_le_length (p := fun claim => claim.isOwnedBy owner)
    rw [List.countP_append, ← owned_length, ← owned_length] at added
    omega
  live := by
    have added := grown.values_perm.countP_eq fun claim =>
      !claim.isDeleting && claim.isOwnedBy owner
    rw [List.countP_append, ← live_length, ← live_length] at added
    omega

/-- Live claims that are too many may go. -/
theorem of_erased {gone : List String} (erased : t.claims = s.claims.eraseMany gone)
    (surplus : gone.length ≤ (s.live owner).length - required) : s.Within t owner required where
  owned := by
    have fewer := s.claims.countP_eraseMany_le gone fun claim => claim.isOwnedBy owner
    rw [← erased, ← owned_length, ← owned_length] at fewer
    omega
  live := by
    have left := s.claims.countP_le_eraseMany gone fun claim =>
      !claim.isDeleting && claim.isOwnedBy owner
    rw [← erased, ← live_length, ← live_length] at left
    omega

end Store.Within

namespace Orchestrator

variable (o : Orchestrator) (request : NodeRequest) (required : UInt32)

/-- One sync keeps the bounds at every step, however it ends. -/
theorem upholds_syncClaims_within (w : World StampedStore ι) :
    (o.syncClaims request required).Upholds StampedStore.serve
      (fun v _ => w.store.Within v.store request.owner required.toNat)
      (fun _ v => w.store.Within v.store request.owner required.toNat) w := by
  have listing := (o.upholds_listClaims request.owner w).mono
    (fun _ _ same => Store.Within.of_claims request.owner required.toNat same.claims)
    fun _ _ holds => holds
  unfold syncClaims
  refine listing.andThen ?_ ?_
  · rintro failure v ⟨same, -⟩
    exact .of_claims _ _ same.claims
  · rintro claims v ⟨same, success⟩
    -- The sync decides on the count that holds when it starts to act.
    have counted : claims = v.store.owned request.owner :=
      (success claims rfl).trans (Store.owned_congr same.claims).symm
    have before := Store.Within.of_claims request.owner required.toNat same.claims
    dsimp only
    split
    · next fewer =>
      refine .mapOk ((o.upholds_createMany request _ [] v).mono ?_ ?_)
      · rintro u _ ⟨fresh, grown, bound⟩
        refine before.trans (.of_grown grown ?_)
        rw [← counted]
        omega
      · rintro _ u ⟨fresh, grown, bound, -⟩
        refine before.trans (.of_grown grown ?_)
        rw [← counted]
        omega
    · next enough =>
      have surplus : (liveNames (victims claims required.toNat)).length =
          (v.store.live request.owner).length - required.toNat := by
        rw [liveNames_length, countP_victims, counted, List.countP_eq_length_filter]
        rfl
      refine .mapOk ((upholds_deleteEach _ v).mono ?_ ?_)
      · rintro u _ ⟨gone, erased, bound⟩
        exact before.trans (.of_erased erased (surplus ▸ bound))
      · rintro _ u ⟨gone, erased, bound⟩
        exact before.trans (.of_erased erased (surplus ▸ bound))

/-- Through any number of syncs of a workload, whatever fails in each of them, there are at no step
more claims of the workload than at the start and than are required, nor fewer live ones than at the
start and than are required. -/
theorem syncs_within (os : List Orchestrator) (w : World StampedStore ι) :
    ∀ v ∈ (Program.inTurn (os.map fun o => o.syncClaims request required)).worlds
        StampedStore.serve w,
      (v.store.owned request.owner).length ≤
          max (w.store.owned request.owner).length required.toNat ∧
        min (w.store.live request.owner).length required.toNat ≤
          (v.store.live request.owner).length := by
  have step : ∀ p ∈ os.map fun o => o.syncClaims request required,
      ∀ v : World StampedStore ι, w.store.Within v.store request.owner required.toNat →
        p.Upholds StampedStore.serve
          (fun u _ => w.store.Within u.store request.owner required.toNat)
          (fun _ u => w.store.Within u.store request.owner required.toNat) v := by
    intro p member v before
    obtain ⟨o, -, rfl⟩ := List.mem_map.mp member
    exact (o.upholds_syncClaims_within request required v).mono
      (fun _ _ within => before.trans within) fun _ _ within => before.trans within
  intro v member
  have within := (Program.upholds_inTurn _ step w (.of_claims _ _ rfl)).worlds v member
  exact ⟨within.owned, within.live⟩

/-- Two syncs of which the first fails to create its claim. -/
theorem syncs_within_after_failure :
    let o : Orchestrator := { dialect := .azure, config := { cloudProvider := .azure } }
    let request : NodeRequest := .new ⟨"phi", "ai"⟩ "Standard_NC24ads_A100_v4"
    let w : World StampedStore :=
      { cluster := { store := Store.failNext {} .createNodeClaim 500, nextStamp := ⟨0, 0⟩ }
        ids := ⟨0⟩ }
    let syncs := Program.inTurn ([o, o].map fun o => o.syncClaims request 1)
    (syncs.run StampedStore.serve w).2 ∈ syncs.worlds StampedStore.serve w ∧
      ((syncs.run StampedStore.serve w).2.store.owned request.owner).length ≤
        max (w.store.owned request.owner).length 1 ∧
      min (w.store.live request.owner).length 1 ≤
        ((syncs.run StampedStore.serve w).2.store.live request.owner).length := by
  intro o request w syncs
  have last := syncs.run_mem_worlds StampedStore.serve w
  exact ⟨last, syncs_within request 1 [o, o] w _ last⟩

end Orchestrator

end NodeSupply
