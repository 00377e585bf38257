import NodeSupply.Proofs.Orchestrator.DeletionOrder
import NodeSupply.Proofs.Orchestrator.Listing

/-! Deleting claims. Under failures some of the names go; where no failure waits for a deletion, one
call is made for each claim that is not being deleted already, and all of them go. -/

namespace NodeSupply

variable {ι : Type} [IdSource ι]

namespace Orchestrator

/-- The names of the claims that are not being deleted. -/
def liveNames (claims : List NodeClaim) : List String :=
  (claims.filter fun claim => !claim.isDeleting).map NodeClaim.name

theorem liveNames_length (claims : List NodeClaim) :
    (liveNames claims).length = claims.countP fun claim => !claim.isDeleting := by
  rw [liveNames, List.length_map, List.countP_eq_length_filter]

theorem liveNames_of_deleting {claim : NodeClaim} (rest : List NodeClaim)
    (deleting : claim.isDeleting = true) : liveNames (claim :: rest) = liveNames rest := by
  rw [liveNames, List.filter_cons_of_neg (by simp [deleting])]
  rfl

theorem liveNames_of_live {claim : NodeClaim} (rest : List NodeClaim)
    (live : claim.isDeleting = false) :
    liveNames (claim :: rest) = claim.name :: liveNames rest := by
  rw [liveNames, List.filter_cons_of_pos (by simp [live])]
  rfl

/-- Nothing is done about claims that are all being deleted. -/
theorem deleteEach_of_deleting {claims : List NodeClaim} (deleting : liveNames claims = []) :
    deleteEach claims = .done (.ok ()) := by
  induction claims with
  | nil => rfl
  | cons claim rest ih =>
      cases gone : claim.isDeleting with
      | true =>
          rw [liveNames_of_deleting rest gone] at deleting
          rw [deleteEach, if_pos gone]
          exact ih deleting
      | false =>
          rw [liveNames_of_live rest gone] at deleting
          cases deleting

/-! ### Which calls are made -/

theorem makes_deleteClaim (name : String) :
    (deleteClaim name).Makes fun c => c = .deleteNodeClaim name := by
  have called : (Program.call (.deleteNodeClaim name)).Makes fun c => c = .deleteNodeClaim name :=
    Program.makes_call rfl
  refine called.bind ?_
  rintro (fault | _)
  · dsimp only
    split <;> trivial
  · trivial

theorem makes_deleteEach_live (claims : List NodeClaim) :
    (deleteEach claims).Makes fun c =>
      ∃ claim ∈ claims, claim.isDeleting = false ∧ c = .deleteNodeClaim claim.name := by
  induction claims with
  | nil => trivial
  | cons claim rest ih =>
      have later : (deleteEach rest).Makes fun c =>
          ∃ other ∈ claim :: rest, other.isDeleting = false ∧ c = .deleteNodeClaim other.name := by
        refine ih.mono ?_
        rintro c ⟨other, member, live, rfl⟩
        exact ⟨other, List.mem_cons_of_mem _ member, live, rfl⟩
      unfold deleteEach
      split
      · exact later
      · next live =>
        refine Program.Makes.andThen ((makes_deleteClaim claim.name).mono ?_) fun _ => later
        rintro c rfl
        exact ⟨claim, List.mem_cons_self, Bool.eq_false_iff.mpr live, rfl⟩

theorem makes_deleteEach (claims : List NodeClaim) :
    (deleteEach claims).Makes fun c => ∃ claim ∈ claims, c = .deleteNodeClaim claim.name := by
  refine (makes_deleteEach_live claims).mono ?_
  rintro c ⟨claim, member, -, called⟩
  exact ⟨claim, member, called⟩

/-- What a deletion leaves behind is what its one call leaves behind. -/
theorem store_deleteClaim (name : String) (w : World StampedStore ι) :
    ((deleteClaim name).run StampedStore.serve w).2.store =
      (w.store.perform w.cluster.stamp (.deleteNodeClaim name)).2 := by
  rw [deleteClaim, Program.run_bind]
  cases ((Program.call (.deleteNodeClaim name)).run StampedStore.serve w).1 with
  | ok _ => rfl
  | error fault =>
      dsimp only
      split <;> rfl

/-! ### Under failures -/

theorem upholds_deleteClaim (name : String) (w : World StampedStore ι) :
    (deleteClaim name).Upholds StampedStore.serve
      (fun v _ => v.store.claims = w.store.claims)
      (fun _ v => v.store.claims = w.store.claims ∨ v.store.claims = w.store.claims.erase name)
      w := by
  have either := (Store.perform_delete w.store w.cluster.stamp name).imp
    (fun ⟨_, _, same⟩ => same) fun ⟨_, erased⟩ => erased
  have answered : (Program.call (.deleteNodeClaim name)).Upholds StampedStore.serve
      (fun v _ => v.store.claims = w.store.claims)
      (fun _ v => v.store.claims = w.store.claims ∨ v.store.claims = w.store.claims.erase name)
      w := Program.upholds_call rfl either
  unfold deleteClaim
  refine answered.bind ?_
  rintro (fault | _) v either
  · dsimp only
    split <;> exact either
  · exact either

/-- Along the deletion of claims no more names go than there are claims among them that are not being
deleted already. -/
theorem upholds_deleteEach (claims : List NodeClaim) (w : World StampedStore ι) :
    (deleteEach claims).Upholds StampedStore.serve
      (fun v _ => ∃ gone, v.store.claims = w.store.claims.eraseMany gone ∧
        gone.length ≤ (liveNames claims).length)
      (fun _ v => ∃ gone, v.store.claims = w.store.claims.eraseMany gone ∧
        gone.length ≤ (liveNames claims).length) w := by
  induction claims generalizing w with
  | nil => exact ⟨[], rfl, Nat.le_refl _⟩
  | cons claim rest ih =>
      unfold deleteEach
      cases deleting : claim.isDeleting with
      | true =>
          rw [if_pos rfl, liveNames_of_deleting rest deleting]
          exact ih w
      | false =>
          rw [if_neg Bool.false_ne_true, liveNames_of_live rest deleting]
          have first : (deleteClaim claim.name).Upholds StampedStore.serve
              (fun v _ => ∃ gone, v.store.claims = w.store.claims.eraseMany gone ∧
                gone.length ≤ (claim.name :: liveNames rest).length)
              (fun _ v => ∃ gone, v.store.claims = w.store.claims.eraseMany gone ∧
                gone.length ≤ 1) w := by
            refine (upholds_deleteClaim claim.name w).mono ?_ ?_
            · intro v _ same
              exact ⟨[], same, Nat.zero_le _⟩
            · rintro _ v (same | erased)
              · exact ⟨[], same, Nat.zero_le _⟩
              · exact ⟨[claim.name], erased, Nat.le_refl _⟩
          refine first.andThen ?_ ?_
          · rintro failure v ⟨gone, erased, bound⟩
            exact ⟨gone, erased, Nat.le_trans bound (Nat.succ_le_succ (Nat.zero_le _))⟩
          · rintro _ v ⟨gone, erased, bound⟩
            have more : ∀ u : World StampedStore ι,
                (∃ later, u.store.claims = v.store.claims.eraseMany later ∧
                  later.length ≤ (liveNames rest).length) →
                ∃ all, u.store.claims = w.store.claims.eraseMany all ∧
                  all.length ≤ (claim.name :: liveNames rest).length := by
              rintro u ⟨later, further, laterBound⟩
              refine ⟨gone ++ later, ?_, ?_⟩
              · rw [further, erased, KeyMap.eraseMany_append]
              · rw [List.length_append, List.length_cons]
                omega
            exact (ih v).mono (fun u _ => more u) fun _ u => more u

/-! ### Where no failure waits -/

variable {w : World StampedStore ι}

theorem calls_deleteClaim {σ : Type} (serve : Server σ) (name : String) (w : World σ ι) :
    (deleteClaim name).calls serve w = [.deleteNodeClaim name] := by
  rw [deleteClaim, Program.calls_bind, Program.calls_call]
  cases ((Program.call (.deleteNodeClaim name)).run serve w).1 with
  | ok _ => rfl
  | error fault =>
      dsimp only
      split <;> rfl

theorem run_deleteClaim (unstopped : w.store.failures .deleteNodeClaim = []) (name : String) :
    ((deleteClaim name).run StampedStore.serve w).1 = .ok () ∧
      ((deleteClaim name).run StampedStore.serve w).2.store.claims = w.store.claims.erase name ∧
      ((deleteClaim name).run StampedStore.serve w).2.store.failures .deleteNodeClaim = [] := by
  obtain ⟨erased, missing⟩ := Store.perform_delete_unstopped unstopped w.cluster.stamp name
  rw [store_deleteClaim]
  refine ⟨?_, erased, ?_⟩
  · have answered : ((Program.call (.deleteNodeClaim name)).run StampedStore.serve w).1 =
        (w.store.perform w.cluster.stamp (.deleteNodeClaim name)).1 := rfl
    rw [deleteClaim, Program.run_bind, answered]
    cases answer : (w.store.perform w.cluster.stamp (.deleteNodeClaim name)).1 with
    | ok _ => rfl
    | error fault =>
        dsimp only
        -- Nothing is injected, so the claim can only have been missing.
        rw [if_pos (missing fault answer)]
        rfl
  · simp only [Store.perform_failures, Store.update, Call.operation, unstopped, List.tail_nil,
      if_true]

/-- One call is made for each claim that is not being deleted, and the names of these go. -/
theorem run_deleteEach (claims : List NodeClaim)
    (unstopped : w.store.failures .deleteNodeClaim = []) :
    ((deleteEach claims).run StampedStore.serve w).1 = .ok () ∧
      ((deleteEach claims).run StampedStore.serve w).2.store.claims =
        w.store.claims.eraseMany (liveNames claims) ∧
      (deleteEach claims).calls StampedStore.serve w =
        (liveNames claims).map .deleteNodeClaim := by
  induction claims generalizing w with
  | nil => exact ⟨rfl, rfl, rfl⟩
  | cons claim rest ih =>
      unfold deleteEach
      cases deleting : claim.isDeleting with
      | true =>
          rw [if_pos rfl, liveNames_of_deleting rest deleting]
          exact ih unstopped
      | false =>
          obtain ⟨succeeded, erased, queue⟩ := run_deleteClaim unstopped claim.name
          obtain ⟨ended, erasedAll, calls⟩ := ih queue
          rw [if_neg Bool.false_ne_true, liveNames_of_live rest deleting, Program.run_andThen,
            Program.calls_andThen, calls_deleteClaim, succeeded]
          refine ⟨ended, ?_, ?_⟩
          · rw [KeyMap.eraseMany_cons, ← erased]
            exact erasedAll
          · rw [List.map_cons, ← calls]
            rfl

/-! ### Syncs that delete -/

variable (o : Orchestrator) (request : NodeRequest) (required : UInt32)

/-- A sync that finds as many claims as it needs, or more, deletes the victims among them. -/
theorem run_syncClaims_surplus {w : World StampedStore ι}
    (enough : required.toNat ≤ (w.store.owned request.owner).length) {claims : List NodeClaim}
    (listed : ((o.listClaims request.owner).run StampedStore.serve w).1 = .ok claims) :
    let gone := victims (w.store.owned request.owner) required.toNat
    let v := ((o.listClaims request.owner).run StampedStore.serve w).2
    (o.syncClaims request required).run StampedStore.serve w =
        (((deleteEach gone).run StampedStore.serve v).1.map fun _ =>
            { deleted := gone.map NodeClaim.name,
              existing := (w.store.owned request.owner).length },
          ((deleteEach gone).run StampedStore.serve v).2) ∧
      (o.syncClaims request required).calls StampedStore.serve w =
        (o.listClaims request.owner).calls StampedStore.serve w ++
          (deleteEach gone).calls StampedStore.serve v := by
  obtain rfl := (o.run_listClaims request.owner w).2 claims listed
  have many := Nat.not_lt_of_le enough
  constructor
  · rw [syncClaims, Program.run_andThen, listed]
    dsimp only
    rw [if_neg many, Program.run_mapOk]
  · rw [syncClaims, Program.calls_andThen, listed]
    dsimp only
    rw [if_neg many, Program.calls_mapOk]

end Orchestrator

end NodeSupply
