import NodeSupply.Proofs.Cluster.Ownership

/-! Listing a workload's claims. However often listing is tried again, it leaves the claims alone, and
what it finds in the end are the claims that the workload owns. -/

namespace NodeSupply

variable {σ ι α ε : Type} [IdSource ι]

namespace Backoff

theorem retryFrom_succ (b : Backoff) (pause : Duration → Program Unit) (retriable : ε → Bool)
    (operation : Program (Except ε α)) (left retry : Nat) :
    b.retryFrom pause retriable operation (left + 1) retry =
      operation.bind fun
        | .ok value => .done (.ok value)
        | .error e =>
          if retriable e then
            (pause (b.delay retry)).bind fun _ =>
              b.retryFrom pause retriable operation left (retry + 1)
          else .done (.error e) := by
  rw [retryFrom]
  change operation.bind _ = _
  congr 1
  funext result
  cases result <;> rfl

/-- What an operation and the pauses between its attempts keep is kept by all attempts together, and
a success is the success of one attempt. -/
theorem upholds_retryFrom {serve : Server σ} {holds : World σ ι → Prop} {found : α → Prop}
    (b : Backoff) (retriable : ε → Bool) {operation : Program (Except ε α)}
    (attempt : ∀ v, holds v → operation.Upholds serve (fun v _ => holds v)
      (fun result v => holds v ∧ ∀ a, result = .ok a → found a) v)
    (paused : ∀ v d, holds v → holds (v.perform serve (.pause d)).2)
    (left retry : Nat) (w : World σ ι) (start : holds w) :
    (b.retryFrom Program.pause retriable operation left retry).Upholds serve
      (fun v _ => holds v) (fun result v => holds v ∧ ∀ a, result = .ok a → found a) w := by
  induction left generalizing retry w with
  | zero => exact attempt w start
  | succ left ih =>
      rw [retryFrom_succ]
      refine (attempt w start).bind ?_
      intro result v ⟨kept, success⟩
      cases result with
      | ok value => exact ⟨kept, success⟩
      | error e =>
          dsimp only
          split
          · exact ⟨kept, ih (retry + 1) _ (paused v _ kept)⟩
          · exact ⟨kept, success⟩

/-- Where a number of failures waits for an operation, each attempt takes one of them, and the attempts
succeed in the end if there are more of them than failures. -/
theorem run_retryFrom_isOk_iff {serve : Server σ} (b : Backoff) {operation : Program (Except ε α)}
    (waiting : World σ ι → Nat)
    (free : ∀ v, waiting v = 0 → ∃ a, (operation.run serve v).1 = .ok a)
    (stopped : ∀ v n, waiting v = n + 1 →
      (∃ e, (operation.run serve v).1 = .error e) ∧ waiting (operation.run serve v).2 = n)
    (paused : ∀ v d, waiting ((Program.pause d).run serve v).2 = waiting v)
    (left retry : Nat) (w : World σ ι) :
    (∃ a, ((b.retryFrom Program.pause (fun _ => true) operation left retry).run serve w).1 =
      .ok a) ↔ waiting w ≤ left := by
  induction left generalizing retry w with
  | zero =>
      rw [retryFrom, Nat.le_zero]
      refine ⟨?_, free w⟩
      rintro ⟨a, success⟩
      cases count : waiting w with
      | zero => rfl
      | succ n =>
          obtain ⟨⟨e, failed⟩, -⟩ := stopped w n count
          rw [failed] at success
          cases success
  | succ left ih =>
      rw [retryFrom_succ, Program.run_bind]
      cases count : waiting w with
      | zero =>
          obtain ⟨a, success⟩ := free w count
          rw [success]
          exact ⟨fun _ => Nat.zero_le _, fun _ => ⟨a, rfl⟩⟩
      | succ n =>
          obtain ⟨⟨e, failed⟩, fewer⟩ := stopped w n count
          rw [failed]
          dsimp only
          rw [if_pos rfl, Program.run_bind, ih, paused, fewer, Nat.add_le_add_iff_right]

theorem makes_retryFrom {allowed : Call → Prop} (b : Backoff) (retriable : ε → Bool)
    {operation : Program (Except ε α)} (makes : operation.Makes allowed) (left retry : Nat) :
    (b.retryFrom Program.pause retriable operation left retry).Makes allowed := by
  induction left generalizing retry with
  | zero => exact makes
  | succ left ih =>
      rw [retryFrom_succ]
      refine makes.bind ?_
      rintro (e | value)
      · dsimp only
        split
        · exact (Program.makes_perform rfl).bind fun _ => ih (retry + 1)
        · trivial
      · trivial

end Backoff

/-- The store of a world. -/
abbrev World.store (w : World StampedStore ι) : Store := w.cluster.store

/-- What a store has is kept by an effect if the call that it makes keeps it. -/
theorem World.perform_keeps (holds : Store → Prop) {v : World StampedStore ι} {e : Effect}
    (kept : ∀ c, e.call? = some c → ∀ stamp, holds (v.store.perform stamp c).2)
    (start : holds v.store) : holds (v.perform StampedStore.serve e).2.store := by
  cases called : e.call? with
  | none =>
      rw [World.store, v.perform_cluster_of_quiet _ called]
      exact start
  | some c =>
      cases e <;> cases called
      exact kept c rfl v.cluster.stamp

/-- Two stores with the same claims, in which the same failures wait for deletions. -/
structure Store.SameClaims (s t : Store) : Prop where
  claims : t.claims = s.claims
  deletions : t.failures .deleteNodeClaim = s.failures .deleteNodeClaim

namespace Store.SameClaims

theorem refl (s : Store) : s.SameClaims s := ⟨rfl, rfl⟩

theorem perform {s t : Store} (same : s.SameClaims t) (stamp : Stamp) {c : Call}
    (leaves : LeavesClaims c) : s.SameClaims (t.perform stamp c).2 := by
  refine ⟨(perform_claims_of_leaves leaves).trans same.claims, ?_⟩
  rw [perform_failures, update_of_ne, same.deletions]
  cases c <;> simp_all [LeavesClaims, Call.operation]

/-- No effect but a look at a claim, a creation or a deletion changes claims. -/
theorem perform_world {s : Store} {v : World StampedStore ι} {e : Effect}
    (leaves : ∀ c, e.call? = some c → LeavesClaims c) (same : s.SameClaims v.store) :
    s.SameClaims (v.perform StampedStore.serve e).2.store :=
  World.perform_keeps s.SameClaims (fun c asked stamp => same.perform stamp (leaves c asked)) same

end Store.SameClaims

namespace Orchestrator

variable (o : Orchestrator) (owner : WorkloadRef)

theorem makes_listClaims :
    (o.listClaims owner).Makes fun c => c = .listNodeClaims owner.ownerLabels := by
  have once : (Program.call (.listNodeClaims owner.ownerLabels)).Makes
      fun c => c = .listNodeClaims owner.ownerLabels := Program.makes_call rfl
  rw [listClaims, Backoff.run]
  refine (Backoff.makes_retryFrom o.listBackoff (fun _ => true) once _ 0).bind ?_
  rintro (_ | _) <;> trivial

/-- Listing finds what the workload owns, and leaves all claims as they are. -/
theorem upholds_listClaims (w : World StampedStore ι) :
    (o.listClaims owner).Upholds StampedStore.serve
      (fun v _ => w.store.SameClaims v.store)
      (fun result v => w.store.SameClaims v.store ∧
        ∀ claims, result = .ok claims → claims = w.store.owned owner) w := by
  have attempt : ∀ v : World StampedStore ι, w.store.SameClaims v.store →
      (Program.call (.listNodeClaims owner.ownerLabels)).Upholds StampedStore.serve
        (fun v _ => w.store.SameClaims v.store)
        (fun result v => w.store.SameClaims v.store ∧
          ∀ claims, result = .ok claims → claims = w.store.owned owner) v := by
    intro v same
    refine Program.upholds_call same ⟨same.perform v.cluster.stamp trivial, ?_⟩
    intro claims listed
    change (v.store.perform v.cluster.stamp (.listNodeClaims owner.ownerLabels)).1 = _ at listed
    rcases v.store.perform_list v.cluster.stamp owner.ownerLabels with ⟨_, failed⟩ | found
    · rw [failed] at listed
      cases listed
    · rw [found] at listed
      exact (Except.ok.inj listed).symm.trans (Store.owned_congr same.claims)
  -- Retries only see stores with the same claims, so each attempt can answer for the first store.
  rw [listClaims, Backoff.run]
  refine (Backoff.upholds_retryFrom o.listBackoff (fun _ => true) attempt
    (fun _ _ same => same.perform_world fun _ asked => nomatch asked) _ 0 w
    (.refl w.store)).bind ?_
  rintro (fault | claims) v ⟨same, success⟩
  · refine ⟨same, ?_⟩
    intro claims failed
    cases failed
  · exact ⟨same, fun _ listed => success _ (congrArg Except.ok (Except.ok.inj listed))⟩

theorem run_listClaims (w : World StampedStore ι) :
    w.store.SameClaims ((o.listClaims owner).run StampedStore.serve w).2.store ∧
      ∀ claims, ((o.listClaims owner).run StampedStore.serve w).1 = .ok claims →
        claims = w.store.owned owner :=
  (o.upholds_listClaims owner w).ended

theorem run_list_of_free {w : World StampedStore ι} (selector : LabelSet)
    (free : (w.store.failures .listNodeClaims).length = 0) :
    ∃ claims, ((Program.call (.listNodeClaims selector)).run StampedStore.serve w).1 =
      .ok claims := by
  have served : w.store.perform w.cluster.stamp (.listNodeClaims selector) = _ :=
    Store.perform_served (List.length_eq_zero_iff.mp free)
  exact ⟨_, congrArg Prod.fst served⟩

theorem run_list_of_stopped {w : World StampedStore ι} (selector : LabelSet) {n : Nat}
    (more : (w.store.failures .listNodeClaims).length = n + 1) :
    (∃ fault, ((Program.call (.listNodeClaims selector)).run StampedStore.serve w).1 =
      .error fault) ∧
    (((Program.call (.listNodeClaims selector)).run StampedStore.serve w).2.store.failures
      .listNodeClaims).length = n := by
  have queue : ((w.store.perform w.cluster.stamp (.listNodeClaims selector)).2.failures
      .listNodeClaims).length = n := by
    rw [Store.perform_failures, Call.operation, Store.update, if_pos rfl, List.length_tail, more]
    rfl
  refine ⟨?_, queue⟩
  rcases w.store.perform_cases w.cluster.stamp (.listNodeClaims selector) with
    ⟨_, _, -, failed⟩ | ⟨unstopped, -⟩
  · exact ⟨_, congrArg Prod.fst failed⟩
  · exact (List.ne_nil_of_length_eq_add_one more unstopped).elim

/-- Listing succeeds exactly if fewer failures wait for it than there are attempts. -/
theorem listClaims_isOk_iff (w : World StampedStore ι) :
    (∃ claims, ((o.listClaims owner).run StampedStore.serve w).1 = .ok claims) ↔
      (w.store.failures .listNodeClaims).length < o.listBackoff.attempts := by
  have paused : ∀ (v : World StampedStore ι) (d : Duration),
      (((Program.pause d).run StampedStore.serve v).2.store.failures .listNodeClaims).length =
        (v.store.failures .listNodeClaims).length := by
    intro v d
    have kept : ((Program.pause d).run StampedStore.serve v).2.cluster = v.cluster :=
      v.perform_cluster_of_quiet StampedStore.serve (e := .pause d) rfl
    rw [World.store, kept]
  have retried := o.listBackoff.run_retryFrom_isOk_iff _
    (fun _ => run_list_of_free owner.ownerLabels)
    (fun _ _ => run_list_of_stopped owner.ownerLabels) paused (o.listBackoff.attempts - 1) 0 w
  have positive : 0 < o.listBackoff.attempts := Nat.le_max_right _ _
  rw [← Nat.le_sub_one_iff_lt positive, ← retried, listClaims, Program.run_bind, Backoff.run]
  cases ((o.listBackoff.retryFrom Program.pause (fun _ => true)
    (Program.call (.listNodeClaims owner.ownerLabels)) (o.listBackoff.attempts - 1) 0).run
      StampedStore.serve w).1 with
  | ok claims => exact ⟨fun _ => ⟨claims, rfl⟩, fun _ => ⟨claims, rfl⟩⟩
  | error fault =>
      constructor
      · rintro ⟨_, success⟩
        cases success
      · rintro ⟨_, success⟩
        cases success

/-- Listing succeeds if no failure waits for it. -/
theorem run_listClaims_of_unstopped {w : World StampedStore ι}
    (unstopped : w.store.failures .listNodeClaims = []) :
    ((o.listClaims owner).run StampedStore.serve w).1 = .ok (w.store.owned owner) := by
  have inTime : (w.store.failures .listNodeClaims).length < o.listBackoff.attempts := by
    rw [unstopped, Backoff.attempts]
    exact Nat.le_max_right _ _
  obtain ⟨claims, listed⟩ := (o.listClaims_isOk_iff owner w).mpr inTime
  rw [listed, (o.run_listClaims owner w).2 claims listed]

end Orchestrator

end NodeSupply
