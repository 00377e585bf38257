import NodeSupply.Proofs.Orchestrator.Listing
import NodeSupply.Proofs.Orchestrator.Waiting

/-! Waiting for all pending claims of a workload. The claims are waited for one after the other, and each
wait has a deadline of its own, so the whole takes the sum of the waits, and it is held only by as many
deadlines as there are pending claims. -/

namespace NodeSupply

variable {σ ι : Type} [IdSource ι]

namespace Orchestrator

variable {o : Orchestrator} {name : String} {serve : Server σ} {v w : World σ ι}

/-! ### A wait that may be cancelled at any moment -/

theorem upholds_rest (d : Duration) {deadline : Nat} (whole : World.tick ∣ deadline)
    (before : v.clock ≤ deadline) (onTick : World.tick ∣ v.clock) :
    (Program.rest d deadline).Upholds serve (fun _ _ => True)
      (fun cause u => u.clock ≤ deadline ∧ (cause = none → World.tick ∣ u.clock)) v := by
  have ends := v.restEnd_le d deadline
  have wakes : (v.restEnd d deadline).2 = none → World.tick ∣ (v.restEnd d deadline).1 :=
    World.tick_dvd_restEnd
  rw [World.wholeTick_of_dvd whole] at ends
  cases rests : v.restEnd d deadline with
  | mk moment cause =>
      rw [rests] at ends wakes
      refine ⟨trivial, ?_⟩
      rw [World.perform_rest serve rests]
      constructor
      · exact Nat.max_le.mpr ⟨before, ends⟩
      · intro undisturbed
        change World.tick ∣ max v.clock moment
        rcases Nat.le_total v.clock moment with later | earlier
        · rw [Nat.max_eq_right later]
          exact wakes undisturbed
        · rw [Nat.max_eq_left earlier]
          exact onTick

/-- However a wait is cut short, it ends by its deadline, and a wait that succeeds ends on a whole
millisecond. -/
theorem upholds_lookUntil {deadline : Nat} (whole : World.tick ∣ deadline) (looks : Nat)
    (before : v.clock ≤ deadline) (onTick : World.tick ∣ v.clock) :
    (o.lookUntil name deadline looks).Upholds serve (fun _ _ => True)
      (fun result u => u.clock ≤ deadline ∧ ∀ claim, result = .ok claim → World.tick ∣ u.clock) v := by
  induction looks generalizing v with
  | zero => exact ⟨before, fun _ failed => by cases failed⟩
  | succ looks ih =>
      have asked : (Program.interruption deadline).Upholds serve (fun _ _ => True)
          (fun _ u => u.clock = v.clock) v := ⟨trivial, rfl⟩
      have called : ∀ u : World σ ι, (Program.call (.getNodeClaim name)).Upholds serve
          (fun _ _ => True) (fun _ t => t.clock = u.clock) u := fun _ => ⟨trivial, rfl⟩
      unfold lookUntil
      refine asked.bind ?_
      rintro (_ | cause) u unmoved
      · refine (called u).bind ?_
        rintro (fault | claim) t still
        · rw [← unmoved, ← still] at before
          exact ⟨before, fun _ failed => by cases failed⟩
        · rw [← unmoved, ← still] at before onTick
          dsimp only
          split
          · exact ⟨before, fun _ _ => onTick⟩
          · refine (upholds_rest _ whole before onTick).bind ?_
            rintro (_ | cause) s ⟨inTime, wakes⟩
            · exact ih inTime (wakes rfl)
            · exact ⟨inTime, fun _ failed => by cases failed⟩
      · rw [← unmoved] at before
        exact ⟨before, fun _ failed => by cases failed⟩

section Whole

variable (whole : World.tick ∣ o.config.wait.deadline.nanos) (onTick : World.tick ∣ w.clock)

include whole onTick

theorem waitForReady_inTime (serve : Server σ) (name : String) :
    ((o.waitForReady name).run serve w).2.clock ≤ w.clock + o.config.wait.deadline.nanos ∧
      ∀ claim, ((o.waitForReady name).run serve w).1 = .ok claim →
        World.tick ∣ ((o.waitForReady name).run serve w).2.clock :=
  (upholds_lookUntil (Nat.dvd_add onTick whole) _ (Nat.le_add_right _ _) onTick).ended

/-- Every claim that is waited for takes at most one deadline. -/
theorem waitForEach_clock_le (claims : List NodeClaim) :
    ((o.waitForEach claims).run serve w).2.clock ≤
      w.clock + claims.length * o.config.wait.deadline.nanos := by
  induction claims generalizing w with
  | nil => exact Nat.le_add_right _ _
  | cons claim rest ih =>
      obtain ⟨inTime, succeeds⟩ := waitForReady_inTime whole onTick serve claim.name
      rw [waitForEach, Program.run_andThen, List.length_cons, Nat.succ_mul]
      cases waited : ((o.waitForReady claim.name).run serve w).1 with
      | error failure =>
          dsimp only
          omega
      | ok found =>
          have later := ih (succeeds found waited)
          dsimp only
          omega

end Whole

/-! ### Waits in turn -/

theorem foldl_looks (cluster : σ) (looks : Nat) :
    (List.replicate looks (.getNodeClaim name)).foldl (fun cluster c => (serve c cluster).2) cluster =
      looked serve name cluster looks := by
  induction looks with
  | zero => rfl
  | succ looks ih =>
      rw [List.replicate_succ', List.foldl_append, ih]
      rfl

/-- What waits for claims come to, and after how many milliseconds, that are made one after the other and
are not cancelled: each starts when the one before has found its claim ready, and the first one that
fails is the last. -/
inductive WaitsInTurn (serve : Server σ) (limit : Duration) (interval deadline : Nat) :
    List NodeClaim → σ → Except Failure Unit → Nat → Prop
  | done (cluster : σ) : WaitsInTurn serve limit interval deadline [] cluster (.ok ()) 0
  | failed {claim : NodeClaim} {rest : List NodeClaim} {cluster : σ} {failure : Failure}
      {time looks : Nat} :
      Undisturbed claim.name limit (answer serve claim.name cluster) interval deadline (.error failure)
        time looks →
      WaitsInTurn serve limit interval deadline (claim :: rest) cluster (.error failure) time
  | ready {claim found : NodeClaim} {rest : List NodeClaim} {cluster : σ}
      {result : Except Failure Unit} {time looks later : Nat} :
      Undisturbed claim.name limit (answer serve claim.name cluster) interval deadline (.ok found) time
        looks →
      WaitsInTurn serve limit interval deadline rest (looked serve claim.name cluster looks) result
        later →
      WaitsInTurn serve limit interval deadline (claim :: rest) cluster result (time + later)

theorem waitForEach_inTurn (serve : Server σ) {interval d : Nat} (millis : InMillis o w interval d)
    (uncancelled : w.cancelAt = none) (claims : List NodeClaim) :
    ∃ time,
      WaitsInTurn serve o.config.wait.deadline interval d claims w.cluster
        ((o.waitForEach claims).run serve w).1 time ∧
      ((o.waitForEach claims).run serve w).2.clock = w.clock + time * World.tick := by
  induction claims generalizing w with
  | nil => exact ⟨0, .done w.cluster, by rw [Nat.zero_mul]; rfl⟩
  | cons claim rest ih =>
      obtain ⟨result, time, looks, outcome⟩ := Undisturbed.exists claim.name o.config.wait.deadline
        (answer serve claim.name w.cluster) interval d
      have quiet : w.QuietUntil (w.clock + time * World.tick) := by
        intro moment cancels
        rw [uncancelled] at cancels
        cases cancels
      have ends := waitForReady_undisturbed millis outcome quiet
      rw [waitForEach, Program.run_andThen, ends.result]
      cases result with
      | error failure => exact ⟨time, .failed outcome, ends.moment⟩
      | ok found =>
          have cluster : ((o.waitForReady claim.name).run serve w).2.cluster =
              looked serve claim.name w.cluster looks := by
            rw [Program.run_cluster, ends.calls, foldl_looks]
          have meanwhile : InMillis o ((o.waitForReady claim.name).run serve w).2 interval d :=
            { millis with
              onTick := by
                rw [ends.moment]
                exact Nat.dvd_add millis.onTick (Nat.dvd_mul_left _ _) }
          obtain ⟨later, waits, moment⟩ := ih meanwhile
            ((Program.run_cancelAt serve _ w).trans uncancelled)
          rw [cluster] at waits
          refine ⟨time + later, .ready outcome waits, ?_⟩
          rw [moment, ends.moment, Nat.add_mul, Nat.add_assoc]

/-! ### The pending claims of a workload -/

theorem listClaims_onTick (owner : WorkloadRef) (onTick : World.tick ∣ w.clock) :
    World.tick ∣ ((o.listClaims owner).run serve w).2.clock := by
  have attempt : ∀ v : World σ ι, World.tick ∣ v.clock →
      (Program.call (.listNodeClaims owner.ownerLabels)).Upholds serve
        (fun v _ => World.tick ∣ v.clock)
        (fun result v => World.tick ∣ v.clock ∧ ∀ claims, result = .ok claims → True) v :=
    fun _ start => ⟨start, start, fun _ _ => trivial⟩
  have listed := Backoff.upholds_retryFrom o.listBackoff (fun _ => true) attempt
    (fun _ _ _ => World.tick_dvd_wholeTick _) (o.listBackoff.attempts - 1) 0 w onTick
  rw [listClaims, Backoff.run, Program.run_bind]
  split
  · exact listed.ended.1
  · exact listed.ended.1

/-- What waiting for the pending claims of a workload takes, in whole milliseconds, from the moment at
which they are listed: however it ends, at most one deadline for each of them, and, if it is not
cancelled, exactly the waits in turn. So it keeps within a single deadline exactly if their sum does. -/
theorem waitForPending_time (o : Orchestrator) (request : NodeRequest) (serve : Server σ)
    (w : World σ ι) (p d : Nat) (poll : o.config.wait.pollInterval.nanos = p * World.tick)
    (limit : o.config.wait.deadline.nanos = d * World.tick) (positive : 0 < p) (longer : p < d)
    (onTick : World.tick ∣ w.clock) :
    let listing := (o.listClaims request.owner).run serve w
    let wait := (o.waitForPending request).run serve w
    (∀ failure, listing.1 = .error failure → wait = (.error failure, listing.2)) ∧
    ∀ claims, listing.1 = .ok claims →
      let pending := claims.filter (isPending request)
      wait.2.clock ≤ listing.2.clock + pending.length * o.config.wait.deadline.nanos ∧
      (w.cancelAt = none → ∃ time,
        WaitsInTurn serve o.config.wait.deadline (min p 946080000000) d pending listing.2.cluster wait.1
          time ∧
        wait.2.clock = listing.2.clock + time * World.tick ∧
        (wait.2.clock ≤ listing.2.clock + o.config.wait.deadline.nanos ↔ time ≤ d)) := by
  intro listing wait
  have listed : World.tick ∣ listing.2.clock := listClaims_onTick request.owner onTick
  constructor
  · intro failure failed
    change ((o.listClaims request.owner).andThen _).run serve w = _
    rw [Program.run_andThen, failed]
  · intro claims found pending
    have run : wait = (o.waitForEach pending).run serve listing.2 := by
      change ((o.listClaims request.owner).andThen _).run serve w = _
      rw [Program.run_andThen, found]
    constructor
    · rw [run]
      exact waitForEach_clock_le (limit ▸ Nat.dvd_mul_left _ _) listed pending
    · intro uncancelled
      have millis : InMillis o listing.2 (min p 946080000000) d :=
        .of_config poll limit positive longer listed
      obtain ⟨time, waits, moment⟩ := waitForEach_inTurn serve millis
        ((Program.run_cancelAt serve _ w).trans uncancelled) pending
      rw [← run] at waits moment
      refine ⟨time, waits, moment, ?_⟩
      rw [moment, limit, Nat.add_le_add_iff_left]
      exact Nat.mul_le_mul_right_iff (by decide)

/-- With the default schedule, a wait for two claims that no one reports on. -/
theorem waitForPending_time_of_two :
    let owned : LabelSet := (WorkloadRef.mk "phi" "ai").ownerLabels
    let claim (name : String) : NodeClaim :=
      { metadata := { name := some name, labels := some owned }
        spec := { requirements := [.isIn Label.instanceType ["Standard_NC12s_v3"]] } }
    let o : Orchestrator := { dialect := .azure, config := { cloudProvider := .azure } }
    let request : NodeRequest := { owner := ⟨"phi", "ai"⟩, instanceType := "Standard_NC12s_v3" }
    let store := (Store.insertNodeClaim {} (claim "c")).insertNodeClaim (claim "d")
    let w : World StampedStore := { cluster := { store, nextStamp := ⟨0, 0⟩ }, ids := ⟨0⟩ }
    ((o.listClaims request.owner).run StampedStore.serve w).1 = .ok [claim "c", claim "d"] ∧
      ((o.waitForPending request).run StampedStore.serve w).2.clock ≤
        ((o.listClaims request.owner).run StampedStore.serve w).2.clock +
          2 * o.config.wait.deadline.nanos := by
  intro owned claim o request store w
  have listed : ((o.listClaims request.owner).run StampedStore.serve w).1 =
      .ok [claim "c", claim "d"] := by decide +kernel
  have time := waitForPending_time o request StampedStore.serve w 1000 240000 (by decide) (by decide)
    (by decide) (by decide) (Nat.dvd_zero _)
  exact ⟨listed, (time.2 _ listed).1⟩

/-- Two claims that are ready two seconds after the wait for them starts: with a deadline of three
seconds, waiting for both succeeds after four. -/
theorem pending_waits_outlast_deadline :
    let owned : LabelSet := (WorkloadRef.mk "phi" "ai").ownerLabels
    let claim (name : String) : NodeClaim :=
      { metadata := { name := some name, labels := some owned }
        spec := { requirements := [.isIn Label.instanceType ["Standard_NC12s_v3"]] } }
    let script : Script := [[], [], [{ type := "Ready", status := "True" }]]
    let o : Orchestrator :=
      { dialect := .azure, config := { cloudProvider := .azure, wait := { deadline := .ofSeconds 3 } } }
    let request : NodeRequest := { owner := ⟨"phi", "ai"⟩, instanceType := "Standard_NC12s_v3" }
    let store := (((Store.insertNodeClaim {} (claim "c")).insertNodeClaim (claim "d")).scriptConditions
      "c" script).scriptConditions "d" script
    let w : World StampedStore := { cluster := { store, nextStamp := ⟨0, 0⟩ }, ids := ⟨0⟩ }
    o.config.validate = .ok () ∧
      ((o.listClaims request.owner).run StampedStore.serve w).1 = .ok [claim "c", claim "d"] ∧
      ((o.listClaims request.owner).run StampedStore.serve w).2.clock = 0 ∧
      ((o.waitForPending request).run StampedStore.serve w).1 = .ok () ∧
      ((o.waitForPending request).run StampedStore.serve w).2.clock = 4000 * World.tick ∧
      o.config.wait.deadline.nanos < 4000 * World.tick := by
  intro owned claim script o request store w
  refine ⟨?_, ?_, ?_, ?_, ?_, ?_⟩ <;> decide +kernel

end Orchestrator

end NodeSupply
