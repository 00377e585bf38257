import NodeSupply.Proofs.Orchestrator.Creation
import NodeSupply.Proofs.Orchestrator.Deletion

/-! What a sync comes to that succeeds. It has created what was missing or deleted the live claims
that were too many, and nothing else; after it there is nothing left to do. -/

namespace NodeSupply

variable {ι : Type} [IdSource ι]

/-- What has become of a workload's claims after a sync: `removed` are the claims that have gone. -/
structure Store.Converged (s : Store) (owner : WorkloadRef) (required : Nat) (t : Store)
    (sync : ClaimSync) (removed : List NodeClaim) : Prop where
  existing : sync.existing = (s.owned owner).length
  created_length : sync.created.length = required - (s.owned owner).length
  created_distinct : sync.created.Nodup
  created_new : ∀ name ∈ sync.created, s.claims.get? name = none
  created_present : ∀ name ∈ sync.created, ∃ claim ∈ t.live owner, t.claims.get? name = some claim
  created_only : ∀ name, name ∉ sync.created → s.claims.get? name = none →
    t.claims.get? name = none
  removed_length : removed.length = (s.live owner).length - required
  removed_distinct : (removed.map NodeClaim.name).Nodup
  removed_live : ∀ claim ∈ removed, claim ∈ s.live owner
  removed_gone : ∀ claim ∈ removed, t.claims.get? claim.name = none
  removed_only : ∀ name claim, claim ∉ removed → s.claims.get? name = some claim →
    t.claims.get? name = some claim
  owned_after : (t.owned owner).length = (s.owned owner).length -
    ((s.live owner).length - required) + (required - (s.owned owner).length)
  live_after : (t.live owner).length = (s.live owner).length -
    ((s.live owner).length - required) + (required - (s.owned owner).length)

namespace Store.Converged

variable {owner : WorkloadRef} {required : Nat} {s t : Store}

theorem of_grown {o : Orchestrator} {request : NodeRequest} {fresh : List NodeClaim}
    (grown : o.Grown request s t fresh)
    (respects : request.labelSelector.Respects request.owner.ownerLabels)
    (few : (s.owned request.owner).length < required)
    (missing : fresh.length = required - (s.owned request.owner).length) :
    s.Converged request.owner required t
      { created := fresh.map NodeClaim.name, existing := (s.owned request.owner).length } [] := by
  have suits := grown.live_of_fresh respects
  have all := s.live_le_owned request.owner
  have owned := grown.values_perm.countP_eq fun claim => claim.isOwnedBy request.owner
  have live := grown.values_perm.countP_eq fun claim =>
    !claim.isDeleting && claim.isOwnedBy request.owner
  rw [List.countP_append, ← owned_length, ← owned_length, List.countP_eq_length.mpr] at owned
  rw [List.countP_append, ← live_length, ← live_length, List.countP_eq_length.mpr] at live
  · exact {
      existing := rfl
      created_length := by rw [← missing, List.length_map]
      created_distinct := grown.distinct
      created_new := by
        intro name member
        obtain ⟨claim, inFresh, rfl⟩ := List.mem_map.mp member
        exact grown.unbound claim inFresh
      created_present := by
        intro name member
        obtain ⟨claim, inFresh, rfl⟩ := List.mem_map.mp member
        have bound := grown.get?_fresh inFresh
        obtain ⟨stays, owned⟩ := suits claim inFresh
        exact ⟨claim, mem_live_iff.mpr ⟨mem_owned_iff.mpr ⟨⟨_, bound⟩, owned⟩, stays⟩, bound⟩
      created_only := by
        intro name other unbound
        rw [grown.get?_other other, unbound]
      removed_length := by
        rw [List.length_nil]
        omega
      removed_distinct := List.nodup_nil
      removed_live := fun _ member => nomatch member
      removed_gone := fun _ member => nomatch member
      removed_only := by
        intro name claim _ bound
        rw [grown.get?_other, bound]
        intro member
        obtain ⟨other, inFresh, rfl⟩ := List.mem_map.mp member
        rw [grown.unbound other inFresh] at bound
        cases bound
      owned_after := by omega
      live_after := by omega }
  · intro claim member
    rw [(suits claim member).1, (suits claim member).2]
    rfl
  · intro claim member
    exact (suits claim member).2

theorem of_erased {removed : List NodeClaim} (keyed : s.Keyed)
    (enough : required ≤ (s.owned owner).length) (deleted : List String)
    (surplus : removed.length = (s.live owner).length - required)
    (distinct : (removed.map NodeClaim.name).Nodup) (live : ∀ claim ∈ removed, claim ∈ s.live owner)
    (erased : t.claims = s.claims.eraseMany (removed.map NodeClaim.name)) :
    s.Converged owner required t { deleted, existing := (s.owned owner).length } removed := by
  have owned : ∀ claim ∈ removed, claim ∈ s.owned owner ∧ claim.isDeleting = false :=
    fun claim member => mem_live_iff.mp (live claim member)
  have bound : ∀ claim ∈ removed, s.claims.get? claim.name = some claim :=
    fun claim member => keyed.get?_of_mem_owned (owned claim member).1
  have left : s.claims.values.Perm (removed ++ t.claims.values) := by
    rw [erased]
    exact KeyMap.values_perm_eraseMany distinct bound
  have all := s.live_le_owned owner
  have ownedLeft := left.countP_eq fun claim => claim.isOwnedBy owner
  have liveLeft := left.countP_eq fun claim => !claim.isDeleting && claim.isOwnedBy owner
  rw [List.countP_append, ← owned_length, ← owned_length, List.countP_eq_length.mpr] at ownedLeft
  rw [List.countP_append, ← live_length, ← live_length, List.countP_eq_length.mpr] at liveLeft
  · exact {
      existing := rfl
      created_length := (Nat.sub_eq_zero_of_le enough).symm
      created_distinct := List.nodup_nil
      created_new := fun _ member => nomatch member
      created_present := fun _ member => nomatch member
      created_only := by
        intro name _ unbound
        rw [erased, KeyMap.get?_eraseMany, unbound, ite_self]
      removed_length := surplus
      removed_distinct := distinct
      removed_live := live
      removed_gone := by
        intro claim member
        rw [erased, KeyMap.get?_eraseMany, if_pos (List.mem_map_of_mem member)]
      removed_only := by
        intro name claim other stored
        rw [erased, KeyMap.get?_eraseMany, if_neg, stored]
        intro member
        obtain ⟨gone, inRemoved, rfl⟩ := List.mem_map.mp member
        rw [bound gone inRemoved] at stored
        exact other (Option.some.inj stored ▸ inRemoved)
      owned_after := by omega
      live_after := by omega }
  · intro claim member
    rw [(owned claim member).2, Bool.not_false, Bool.true_and]
    exact (mem_owned_iff.mp (owned claim member).1).2
  · intro claim member
    exact (mem_owned_iff.mp (owned claim member).1).2

end Store.Converged

namespace Orchestrator

variable (o : Orchestrator) (request : NodeRequest) (required : UInt32)

/-- The calls of a sync that has nothing to do are those of listing. -/
theorem calls_syncClaims_of_settled {w : World StampedStore ι}
    (enough : required.toNat ≤ (w.store.owned request.owner).length)
    (settled : (w.store.live request.owner).length ≤ required.toNat) :
    (o.syncClaims request required).calls StampedStore.serve w =
      (o.listClaims request.owner).calls StampedStore.serve w := by
  cases listed : ((o.listClaims request.owner).run StampedStore.serve w).1 with
  | error failure =>
      rw [syncClaims, Program.calls_andThen, listed]
      exact List.append_nil _
  | ok claims =>
      have none : liveNames (victims (w.store.owned request.owner) required.toNat) = [] := by
        rw [← List.length_eq_zero_iff, liveNames_length, countP_victims,
          List.countP_eq_length_filter]
        exact Nat.sub_eq_zero_of_le settled
      rw [(o.run_syncClaims_surplus request required enough listed).2, deleteEach_of_deleting none]
      exact List.append_nil _

/-- Creating what is missing converges, without a deletion. -/
theorem createMany_converges {s : Store} {v after : World StampedStore ι} {names : List String}
    (respects : request.labelSelector.Respects request.owner.ownerLabels)
    (same : s.SameClaims v.store) {required : Nat}
    (few : (s.owned request.owner).length < required)
    (ended : (o.createMany request (required - (s.owned request.owner).length) []).run
      StampedStore.serve v = (.ok names, after)) :
    s.Converged request.owner required after.store
        { created := names, existing := (s.owned request.owner).length } [] ∧
      ∀ c ∈ (o.createMany request (required - (s.owned request.owner).length) []).calls
        StampedStore.serve v, c.operation ≠ .deleteNodeClaim := by
  refine ⟨?_, fun c member => ((o.makes_createMany request _ []).calls v c member).not_deletion⟩
  obtain ⟨fresh, grown, -, success⟩ :=
    (o.upholds_createMany request (required - (s.owned request.owner).length) [] v).ended
  rw [ended] at grown success
  obtain ⟨rfl, all⟩ := success names rfl
  exact .of_grown ((Grown.of_same same).trans grown) respects few all

/-- Deleting the live claims that are too many converges, with one call for each of them. -/
theorem deleteEach_converges {s : Store} {v : World StampedStore ι} {owner : WorkloadRef}
    (keyed : s.Keyed) (same : s.SameClaims v.store)
    (unstopped : s.failures .deleteNodeClaim = []) {required : Nat}
    (enough : required ≤ (s.owned owner).length) (deleted : List String) :
    ∃ removed, s.Converged owner required
        ((deleteEach (victims (s.owned owner) required)).run StampedStore.serve v).2.store
        { deleted, existing := (s.owned owner).length } removed ∧
      (deleteEach (victims (s.owned owner) required)).calls StampedStore.serve v =
        removed.map fun claim => .deleteNodeClaim claim.name := by
  let removed := (victims (s.owned owner) required).filter fun claim => !claim.isDeleting
  obtain ⟨-, erased, calls⟩ := run_deleteEach (victims (s.owned owner) required)
    (same.deletions.trans unstopped)
  have live : ∀ claim ∈ removed, claim ∈ s.live owner := by
    intro claim member
    obtain ⟨victim, stays⟩ := List.mem_filter.mp member
    exact List.mem_filter.mpr ⟨mem_of_mem_victims victim, stays⟩
  have distinct : (removed.map NodeClaim.name).Nodup := by
    have all : ((deletionOrder (s.owned owner)).map NodeClaim.name).Nodup :=
      ((deletionOrder_perm _).map _).nodup_iff.mpr (keyed.owned_names_nodup owner)
    exact all.sublist ((List.filter_sublist.trans (victims_sublist _ _)).map _)
  -- Victims that are being deleted already cost no call, so live ones are counted on their own.
  have surplus : removed.length = (s.live owner).length - required := by
    rw [← List.countP_eq_length_filter, countP_victims, List.countP_eq_length_filter]
    rfl
  refine ⟨removed, .of_erased keyed enough deleted surplus distinct live ?_, ?_⟩
  · rw [erased, same.claims]
    rfl
  · rw [calls, liveNames, List.map_map]
    rfl

/-- Both ways a sync converges if it succeeds and no failure waits for a deletion. -/
theorem run_syncClaims_ok {w after : World StampedStore ι} {sync : ClaimSync} (keyed : w.store.Keyed)
    (respects : request.labelSelector.Respects request.owner.ownerLabels)
    (unstopped : w.store.failures .deleteNodeClaim = [])
    (ended : (o.syncClaims request required).run StampedStore.serve w = (.ok sync, after)) :
    ∃ removed, w.store.Converged request.owner required.toNat after.store sync removed ∧
      ((o.syncClaims request required).calls StampedStore.serve w).filter
          (fun c => c.operation = .deleteNodeClaim) =
        removed.map fun claim => .deleteNodeClaim claim.name := by
  obtain ⟨same, success⟩ := o.run_listClaims request.owner w
  have quiet : ((o.listClaims request.owner).calls StampedStore.serve w).filter
      (fun c => c.operation = .deleteNodeClaim) = [] := by
    rw [List.filter_eq_nil_iff]
    intro c member
    rw [(o.makes_listClaims request.owner).calls w c member]
    exact Bool.false_ne_true
  cases listed : ((o.listClaims request.owner).run StampedStore.serve w).1 with
  | error failure =>
      rw [syncClaims, Program.run_andThen, listed] at ended
      cases ended
  | ok claims =>
      -- A sync either creates or deletes, never both; in the second case it may have nothing to do.
      by_cases few : (w.store.owned request.owner).length < required.toNat
      · obtain rfl := success claims listed
        rw [syncClaims, Program.run_andThen, listed] at ended
        rw [syncClaims, Program.calls_andThen, listed, List.filter_append, quiet, List.nil_append]
        generalize ((o.listClaims request.owner).run StampedStore.serve w).2 = v at same ended ⊢
        dsimp only at ended ⊢
        rw [if_pos few, Program.run_mapOk] at ended
        rw [if_pos few, Program.calls_mapOk]
        rcases ran : (o.createMany request _ []).run StampedStore.serve v with
          ⟨failure | names, final⟩
        · rw [ran] at ended
          cases ended
        · rw [ran] at ended
          cases ended
          obtain ⟨changes, calls⟩ := o.createMany_converges request respects same few ran
          refine ⟨[], changes, List.filter_eq_nil_iff.mpr ?_⟩
          intro c member deletes
          exact calls c member (of_decide_eq_true deletes)
      · have enough := Nat.le_of_not_lt few
        obtain ⟨run, called⟩ := o.run_syncClaims_surplus request required enough listed
        rw [run] at ended
        rw [called, List.filter_append, quiet, List.nil_append]
        obtain ⟨removed, changes, calls⟩ := deleteEach_converges keyed same unstopped enough
          ((victims (w.store.owned request.owner) required.toNat).map NodeClaim.name)
        rcases ran : (deleteEach _).run StampedStore.serve
          ((o.listClaims request.owner).run StampedStore.serve w).2 with ⟨failure | _, final⟩
        · rw [ran] at ended
          cases ended
        · rw [ran] at ended changes
          cases ended
          refine ⟨removed, changes, ?_⟩
          rw [calls, List.filter_eq_self]
          intro c member
          obtain ⟨claim, -, rfl⟩ := List.mem_map.mp member
          rfl

/-- A sync that succeeds, where no failure waits for a deletion, creates as many claims as were
missing and deletes as many live ones as were too many. A second one changes nothing any more. -/
theorem syncClaims_converges {w after : World StampedStore ι} {sync : ClaimSync}
    (built : w.store.Built)
    (respects : request.labelSelector.Respects request.owner.ownerLabels)
    (unstopped : w.store.failures .deleteNodeClaim = [])
    (ended : (o.syncClaims request required).run StampedStore.serve w = (.ok sync, after)) :
    (∃ removed, w.store.Converged request.owner required.toNat after.store sync removed ∧
      ((o.syncClaims request required).calls StampedStore.serve w).filter
          (fun c => c.operation = .deleteNodeClaim) =
        removed.map fun claim => .deleteNodeClaim claim.name) ∧
    (after.store.live request.owner).length ≤ required.toNat ∧
    min (w.store.live request.owner).length required.toNat ≤
      (after.store.live request.owner).length ∧
    ∀ c ∈ (o.syncClaims request required).calls StampedStore.serve after,
      c.operation ≠ .createNodeClaim ∧ c.operation ≠ .deleteNodeClaim := by
  obtain ⟨removed, changes, calls⟩ :=
    o.run_syncClaims_ok request required built.keyed respects unstopped ended
  have all := w.store.live_le_owned request.owner
  have owned := changes.owned_after
  have live := changes.live_after
  refine ⟨⟨removed, changes, calls⟩, by omega, by omega, ?_⟩
  intro c member
  rw [o.calls_syncClaims_of_settled request required (by omega) (by omega)] at member
  rw [(o.makes_listClaims request.owner).calls after c member]
  exact ⟨Operation.noConfusion, Operation.noConfusion⟩

/-- A sync that is to come to one claim creates it in an empty cluster. Of three claims, one of which is being
deleted and one of which waits for its node, it deletes the one that waits and leaves the first to go. -/
theorem syncClaims_converges_both_ways :
    let o : Orchestrator := { dialect := .azure, config := { cloudProvider := .azure } }
    let request : NodeRequest := .new ⟨"phi", "ai"⟩ "Standard_NC24ads_A100_v4"
    let claim (name : String) (deletionTimestamp : Option Timestamp) (ready : String) : NodeClaim :=
      { metadata := { name := some name, labels := some request.owner.ownerLabels, deletionTimestamp }
        spec := {}
        status := some { conditions := [{ type := "Ready", status := ready }] } }
    let going := claim "going" (some ⟨1577836800, 0⟩) "True"
    let serving := claim "serving" none "True"
    let waiting := claim "waiting" none "False"
    let store := ((Store.insertNodeClaim {} going).insertNodeClaim serving).insertNodeClaim waiting
    let empty : World StampedStore := { cluster := { nextStamp := ⟨0, 0⟩ }, ids := ⟨0⟩ }
    let full : World StampedStore := { cluster := { store, nextStamp := ⟨0, 0⟩ }, ids := ⟨0⟩ }
    let shrunk : ClaimSync := { deleted := ["going", "waiting"], existing := 3 }
    (∃ sync after, (o.syncClaims request 1).run StampedStore.serve empty = (.ok sync, after) ∧
      empty.store.Converged request.owner 1 after.store sync [] ∧ sync.created.length = 1 ∧
      (after.store.live request.owner).length = 1) ∧
    ∃ after removed, (o.syncClaims request 1).run StampedStore.serve full = (.ok shrunk, after) ∧
      full.store.Converged request.owner 1 after.store shrunk removed ∧
      removed.map NodeClaim.name = ["waiting"] ∧
      (after.store.owned request.owner).length = 2 ∧ (after.store.live request.owner).length = 1 ∧
      ∀ c ∈ (o.syncClaims request 1).calls StampedStore.serve after,
        c.operation ≠ .createNodeClaim ∧ c.operation ≠ .deleteNodeClaim := by
  intro o request claim going serving waiting store empty full shrunk
  have respects : request.labelSelector.Respects request.owner.ownerLabels :=
    LabelSet.respects_of_unset rfl rfl
  refine ⟨?_, ?_⟩
  · have ran : ∃ sync after,
        (o.syncClaims request 1).run StampedStore.serve empty = (.ok sync, after) := ⟨_, _, rfl⟩
    obtain ⟨sync, after, ended⟩ := ran
    obtain ⟨⟨removed, changes, -⟩, -⟩ := o.syncClaims_converges request 1 .empty respects rfl ended
    have none : removed = [] := List.eq_nil_of_length_eq_zero changes.removed_length
    subst none
    exact ⟨sync, after, ended, changes, changes.created_length, changes.live_after⟩
  · have built : full.store.Built :=
      ((Store.Built.empty.insertNodeClaim _).insertNodeClaim _).insertNodeClaim _
    have owned : full.store.owned request.owner = [going, serving, waiting] := by decide +kernel
    have live : full.store.live request.owner = [serving, waiting] := by decide +kernel
    have stays : goesBefore serving going = false := by decide
    have stays' : goesBefore waiting going = false := by decide
    have overtakes : goesBefore waiting serving = true := by decide
    have chosen : victims [going, serving, waiting] (UInt32.toNat 1) = [going, waiting] := by
      simp [victims, deletionOrder, List.mergeSort, List.MergeSort.Internal.splitInTwo, stays, stays',
        overtakes]
    have enough : UInt32.toNat 1 ≤ (full.store.owned request.owner).length := by
      rw [owned]
      decide
    obtain ⟨run, called⟩ := o.run_syncClaims_surplus request 1 enough
      (o.run_listClaims_of_unstopped request.owner rfl)
    obtain ⟨deleted, -, deletions⟩ := run_deleteEach
      (victims (full.store.owned request.owner) (UInt32.toNat 1))
      (o.run_listClaims request.owner full).1.deletions
    rw [deleted, owned, chosen] at run
    rw [deletions, owned, chosen] at called
    obtain ⟨⟨removed, changes, calls⟩, -, -, settled⟩ :=
      o.syncClaims_converges request 1 built respects rfl run
    refine ⟨_, removed, run, changes, ?_, ?_, ?_, settled⟩
    · have member : Call.deleteNodeClaim "waiting" ∈
          removed.map fun claim => .deleteNodeClaim claim.name := by
        rw [← calls, called]
        exact List.mem_filter.mpr ⟨List.mem_append_right _ (List.mem_singleton_self _), rfl⟩
      have single := changes.removed_length
      rw [live] at single
      obtain ⟨gone, rfl⟩ := List.length_eq_one_iff.mp single
      obtain ⟨_, inside, same⟩ := List.mem_map.mp member
      rw [List.mem_singleton.mp inside] at same
      exact congrArg (fun name => [name]) (Call.deleteNodeClaim.inj same)
    · have left := changes.owned_after
      rw [owned, live] at left
      exact left
    · have left := changes.live_after
      rw [owned, live] at left
      exact left

end Orchestrator

end NodeSupply
