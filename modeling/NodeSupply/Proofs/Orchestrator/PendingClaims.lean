import NodeSupply.Proofs.Orchestrator.Readiness
import NodeSupply.Proofs.Scaling.Victims

/-! Which claims a wait for a workload's pending claims is about. It waits for these and no others, in
the order of their names, each in the world that the waits before it leave. The first wait that fails is
the last; if none does, all the claims are ready in the end. -/

namespace NodeSupply

variable {σ ι : Type} [IdSource ι]

namespace Orchestrator

/-! ### Waits one after the other -/

section Waits

variable (o : Orchestrator) (serve : Server σ)

/-- The world after a wait for a claim, whatever it comes to. -/
def afterWait (w : World σ ι) (claim : NodeClaim) : World σ ι :=
  ((o.waitForReady claim.name).run serve w).2

/-- The world after waits for claims one after the other. -/
def afterWaits (w : World σ ι) (claims : List NodeClaim) : World σ ι :=
  claims.foldl (o.afterWait serve) w

/-- Whether a wait for a claim succeeds. -/
def FindsReady (w : World σ ι) (claim : NodeClaim) : Prop :=
  ∃ found, ((o.waitForReady claim.name).run serve w).1 = .ok found

/-- Whether waits for claims one after the other all succeed, each where the ones before it end. -/
def AllReady : World σ ι → List NodeClaim → Prop
  | _, [] => True
  | w, claim :: rest => o.FindsReady serve w claim ∧ AllReady (o.afterWait serve w claim) rest

/-- The calls of waits for claims one after the other. -/
def waitCalls : World σ ι → List NodeClaim → List Call
  | _, [] => []
  | w, claim :: rest =>
    (o.waitForReady claim.name).calls serve w ++ waitCalls (o.afterWait serve w claim) rest

variable {o serve} {w : World σ ι}

theorem mem_waitCalls {claims : List NodeClaim} {c : Call} (made : c ∈ o.waitCalls serve w claims) :
    ∃ claim ∈ claims, c = .getNodeClaim claim.name := by
  induction claims generalizing w with
  | nil => cases made
  | cons claim rest ih =>
      rcases List.mem_append.mp made with here | later
      · exact ⟨claim, List.mem_cons_self, (o.makes_waitForReady claim.name).calls w c here⟩
      · obtain ⟨other, member, looks⟩ := ih later
        exact ⟨other, List.mem_cons_of_mem _ member, looks⟩

/-- Waits for claims one after the other succeed, or there is a first one that fails. -/
theorem allReady_or_failed (o : Orchestrator) (serve : Server σ) (w : World σ ι)
    (claims : List NodeClaim) :
    o.AllReady serve w claims ∨
      ∃ earlier claim later failure, claims = earlier ++ claim :: later ∧
        o.AllReady serve w earlier ∧
        ((o.waitForReady claim.name).run serve (o.afterWaits serve w earlier)).1 =
          .error failure := by
  induction claims generalizing w with
  | nil => exact .inl trivial
  | cons claim rest ih =>
      cases waited : ((o.waitForReady claim.name).run serve w).1 with
      | error failure => exact .inr ⟨[], claim, rest, failure, rfl, trivial, waited⟩
      | ok found =>
          refine (ih (o.afterWait serve w claim)).imp (fun all => ⟨⟨found, waited⟩, all⟩) ?_
          rintro ⟨earlier, other, later, failure, rfl, all, failed⟩
          exact ⟨claim :: earlier, other, later, failure, rfl, ⟨⟨found, waited⟩, all⟩, failed⟩

theorem waitForEach_cons_of_ready {claim : NodeClaim} (rest : List NodeClaim)
    (ready : o.FindsReady serve w claim) :
    (o.waitForEach (claim :: rest)).run serve w =
        (o.waitForEach rest).run serve (o.afterWait serve w claim) ∧
      (o.waitForEach (claim :: rest)).calls serve w =
        (o.waitForReady claim.name).calls serve w ++
          (o.waitForEach rest).calls serve (o.afterWait serve w claim) := by
  obtain ⟨found, waited⟩ := ready
  rw [waitForEach, Program.run_andThen, Program.calls_andThen, waited]
  exact ⟨rfl, rfl⟩

theorem waitForEach_of_allReady {claims : List NodeClaim} (all : o.AllReady serve w claims) :
    (o.waitForEach claims).run serve w = (.ok (), o.afterWaits serve w claims) ∧
      (o.waitForEach claims).calls serve w = o.waitCalls serve w claims := by
  induction claims generalizing w with
  | nil => exact ⟨rfl, rfl⟩
  | cons claim rest ih =>
      obtain ⟨run, calls⟩ := waitForEach_cons_of_ready rest all.1
      obtain ⟨runRest, callsRest⟩ := ih all.2
      exact ⟨run.trans runRest, calls.trans (congrArg _ callsRest)⟩

/-- Behind the first wait that fails nothing is done. -/
theorem waitForEach_of_failed {earlier : List NodeClaim} {claim : NodeClaim}
    (later : List NodeClaim) {failure : Failure} (all : o.AllReady serve w earlier)
    (failed : ((o.waitForReady claim.name).run serve (o.afterWaits serve w earlier)).1 =
      .error failure) :
    (o.waitForEach (earlier ++ claim :: later)).run serve w =
        (.error failure, o.afterWait serve (o.afterWaits serve w earlier) claim) ∧
      (o.waitForEach (earlier ++ claim :: later)).calls serve w =
        o.waitCalls serve w (earlier ++ [claim]) := by
  induction earlier generalizing w with
  | nil =>
      rw [afterWaits, List.foldl_nil] at failed
      rw [List.nil_append, waitForEach, Program.run_andThen, Program.calls_andThen, failed]
      exact ⟨rfl, rfl⟩
  | cons first rest ih =>
      obtain ⟨run, calls⟩ := waitForEach_cons_of_ready (rest ++ claim :: later) all.1
      obtain ⟨runRest, callsRest⟩ := ih all.2 failed
      exact ⟨run.trans runRest, calls.trans (congrArg _ callsRest)⟩

end Waits

/-- After waits that all succeed their claims are up, beside all that were up before. -/
theorem up_of_allReady {o : Orchestrator} {w : World StampedStore ι} {claims : List NodeClaim}
    (all : o.AllReady StampedStore.serve w claims) {name : String}
    (up : w.store.IsUp name ∨ ∃ claim ∈ claims, claim.name = name) :
    (o.afterWaits StampedStore.serve w claims).store.IsUp name := by
  induction claims generalizing w with
  | nil =>
      rcases up with before | ⟨_, member, -⟩
      · exact before
      · cases member
  | cons claim rest ih =>
      obtain ⟨⟨found, waited⟩, allRest⟩ := all
      have kept := (o.run_waitForReady_up waited).2
      refine ih allRest ?_
      rcases up with before | ⟨other, member, named⟩
      · exact .inl (kept name (.inr before))
      · rcases List.mem_cons.mp member with rfl | later
        · exact .inl (kept name (.inl named.symm))
        · exact .inr ⟨other, later, named⟩

/-! ### The pending claims -/

/-- The claims of a store that a wait for a request is about, in name order. -/
def pendingIn (s : Store) (request : NodeRequest) : List NodeClaim :=
  (s.owned request.owner).filter (isPending request)

theorem mem_pendingIn_iff {s : Store} (keyed : s.Keyed) {request : NodeRequest}
    {claim : NodeClaim} :
    claim ∈ pendingIn s request ↔
      s.claims.get? claim.name = some claim ∧ claim.isOwnedBy request.owner = true ∧
        claim.requestsInstanceType request.instanceType = true ∧
        claim.isInitialized = false ∧ claim.isDeleting = false := by
  have stored : (∃ name, s.claims.get? name = some claim) ↔
      s.claims.get? claim.name = some claim := by
    constructor
    · rintro ⟨name, bound⟩
      rwa [keyed name claim bound]
    · exact fun bound => ⟨_, bound⟩
  rw [pendingIn, List.mem_filter, Store.mem_owned_iff, stored, isPending]
  simp only [Bool.and_eq_true, Bool.not_eq_true', and_assoc]

theorem pendingIn_ascending {s : Store} (keyed : s.Keyed) (request : NodeRequest) :
    (pendingIn s request).Pairwise fun a b => a.name < b.name :=
  (keyed.owned_ascending request.owner).filter _

/-- No claim behind a claim in name order is one of those up to it. -/
theorem not_named_of_later {earlier later : List NodeClaim} {claim other : NodeClaim}
    (ascending : (earlier ++ claim :: later).Pairwise fun a b => a.name < b.name)
    (behind : other ∈ later) : ∀ first ∈ earlier ++ [claim], first.name ≠ other.name := by
  intro first member same
  have split : earlier ++ claim :: later = (earlier ++ [claim]) ++ later :=
    (List.append_assoc earlier [claim] later).symm
  rw [split] at ascending
  have below := (List.pairwise_append.mp ascending).2.2 first member other behind
  rw [same] at below
  exact String.lt_irrefl _ below

section Listed

variable (o : Orchestrator) (request : NodeRequest) (w : World StampedStore ι)

/-- Where listing fails, nothing else is done. -/
theorem waitForPending_of_unlisted {failure : Failure}
    (failed : ((o.listClaims request.owner).run StampedStore.serve w).1 = .error failure) :
    (o.waitForPending request).run StampedStore.serve w =
        (.error failure, ((o.listClaims request.owner).run StampedStore.serve w).2) ∧
      (o.waitForPending request).calls StampedStore.serve w =
        (o.listClaims request.owner).calls StampedStore.serve w := by
  rw [waitForPending, Program.run_andThen, Program.calls_andThen, failed]
  exact ⟨rfl, List.append_nil _⟩

/-- The claims that are listed are those that the workload owned before. -/
theorem waitForPending_of_listed {claims : List NodeClaim}
    (found : ((o.listClaims request.owner).run StampedStore.serve w).1 = .ok claims) :
    let v := ((o.listClaims request.owner).run StampedStore.serve w).2
    (o.waitForPending request).run StampedStore.serve w =
        (o.waitForEach (pendingIn w.store request)).run StampedStore.serve v ∧
      (o.waitForPending request).calls StampedStore.serve w =
        (o.listClaims request.owner).calls StampedStore.serve w ++
          (o.waitForEach (pendingIn w.store request)).calls StampedStore.serve v := by
  have owned := (o.run_listClaims request.owner w).2 claims found
  rw [waitForPending, Program.run_andThen, Program.calls_andThen, found, owned]
  exact ⟨rfl, rfl⟩

theorem calls_waitForPending :
    ∀ c ∈ (o.waitForPending request).calls StampedStore.serve w,
      c = .listNodeClaims request.owner.ownerLabels ∨
        ∃ claim ∈ pendingIn w.store request, c = .getNodeClaim claim.name := by
  have lists : ∀ c ∈ (o.listClaims request.owner).calls StampedStore.serve w,
      c = .listNodeClaims request.owner.ownerLabels := (o.makes_listClaims request.owner).calls w
  intro c made
  cases found : ((o.listClaims request.owner).run StampedStore.serve w).1 with
  | error failure =>
      rw [(o.waitForPending_of_unlisted request w found).2] at made
      exact .inl (lists c made)
  | ok claims =>
      rw [(o.waitForPending_of_listed request w found).2] at made
      refine (List.mem_append.mp made).imp (lists c) ?_
      exact (o.makes_waitForEach _).calls _ c

end Listed

/-- What a wait for a workload's pending claims does. It lists the workload's claims and looks at pending
ones only. If listing fails it does nothing else. Otherwise it succeeds exactly if the waits for the
pending claims in turn all do, and then these are up when it ends; it fails with the failure of the first
wait that fails, and looks at no claim behind that one. -/
theorem waitForPending_exact (o : Orchestrator) (request : NodeRequest)
    {w : World StampedStore ι} (keyed : w.store.Keyed) :
    let pending := pendingIn w.store request
    let listing := (o.listClaims request.owner).run StampedStore.serve w
    let listed := (o.listClaims request.owner).calls StampedStore.serve w
    let wait := (o.waitForPending request).run StampedStore.serve w
    let calls := (o.waitForPending request).calls StampedStore.serve w
    (∀ claim, claim ∈ pending ↔
      w.store.claims.get? claim.name = some claim ∧ claim.isOwnedBy request.owner = true ∧
        claim.requestsInstanceType request.instanceType = true ∧
        claim.isInitialized = false ∧ claim.isDeleting = false) ∧
    pending.Pairwise (fun a b => a.name < b.name) ∧
    (∀ c ∈ calls, c = .listNodeClaims request.owner.ownerLabels ∨
      ∃ claim ∈ pending, c = .getNodeClaim claim.name) ∧
    (∀ failure, listing.1 = .error failure →
      wait = (.error failure, listing.2) ∧ calls = listed) ∧
    ∀ claims, listing.1 = .ok claims →
      (wait.1 = .ok () ↔ o.AllReady StampedStore.serve listing.2 pending) ∧
      (wait.1 = .ok () →
        wait.2 = o.afterWaits StampedStore.serve listing.2 pending ∧
        calls = listed ++ o.waitCalls StampedStore.serve listing.2 pending ∧
        ∀ claim ∈ pending, wait.2.store.IsUp claim.name) ∧
      ∀ failure, wait.1 = .error failure →
        ∃ earlier claim later, pending = earlier ++ claim :: later ∧
          o.AllReady StampedStore.serve listing.2 earlier ∧
          (o.waitForReady claim.name).run StampedStore.serve
              (o.afterWaits StampedStore.serve listing.2 earlier) = (.error failure, wait.2) ∧
          calls = listed ++ o.waitCalls StampedStore.serve listing.2 (earlier ++ [claim]) ∧
          ∀ other ∈ later, .getNodeClaim other.name ∉ calls := by
  intro pending listing listed wait calls
  have ascending := pendingIn_ascending keyed request
  refine ⟨fun _ => mem_pendingIn_iff keyed, ascending, o.calls_waitForPending request w,
    fun _ => o.waitForPending_of_unlisted request w, ?_⟩
  intro claims found
  obtain ⟨run, made⟩ := o.waitForPending_of_listed request w found
  change wait = _ at run
  change calls = _ at made
  -- Either all the waits succeed or one is the first to fail; each way says how the whole ends.
  rcases o.allReady_or_failed StampedStore.serve listing.2 pending with
    all | ⟨earlier, claim, later, failure, split, all, failed⟩
  · obtain ⟨success, looks⟩ := waitForEach_of_allReady all
    rw [success] at run
    rw [looks] at made
    refine ⟨iff_of_true (congrArg Prod.fst run) all, fun _ => ⟨congrArg Prod.snd run, made, ?_⟩, ?_⟩
    · intro claim member
      rw [run]
      exact up_of_allReady all (.inr ⟨claim, member, rfl⟩)
    · intro failure failed
      rw [run] at failed
      cases failed
  · obtain ⟨ends, looks⟩ := waitForEach_of_failed later all failed
    rw [← split] at ends looks
    rw [ends] at run
    rw [looks] at made
    have notReady : ¬ o.AllReady StampedStore.serve listing.2 pending := by
      intro ready
      rw [(waitForEach_of_allReady ready).1] at ends
      cases congrArg Prod.fst ends
    refine ⟨iff_of_false (by rw [run]; nofun) notReady, ?_, ?_⟩
    · intro success
      rw [run] at success
      cases success
    · intro other same
      rw [run] at same ⊢
      obtain rfl : failure = other := Except.error.inj same
      refine ⟨earlier, claim, later, split, all, Prod.ext failed rfl, made, ?_⟩
      intro behind member looked
      rw [made] at looked
      rcases List.mem_append.mp looked with lists | waits
      · cases (o.makes_listClaims request.owner).calls w _ lists
      · obtain ⟨first, upTo, same⟩ := mem_waitCalls waits
        have named : first.name = behind.name := by
          injection same with name
          exact name.symm
        exact not_named_of_later (split ▸ ascending) member first upTo named

/-- A workload with three pending claims beside one that is initialized and one of another type: with
scripts that make them ready the wait succeeds, and if the launch of the second fails it ends there. -/
theorem waitForPending_exact_of_three :
    let owned : LabelSet := (WorkloadRef.mk "phi" "ai").ownerLabels
    let claim (name type : String) : NodeClaim :=
      { metadata := { name := some name, labels := some owned }
        spec := { requirements := [.isIn Label.instanceType [type]] } }
    let ready : Condition := { type := "Ready", status := "True" }
    let failed : Condition :=
      { type := "Launched", status := "False", message := some NodeClaim.launchUnavailable }
    let o : Orchestrator := { dialect := .azure, config := { cloudProvider := .azure } }
    let request : NodeRequest := { owner := ⟨"phi", "ai"⟩, instanceType := "Standard_NC12s_v3" }
    let pending := ["c", "d", "e"].map fun name => claim name "Standard_NC12s_v3"
    let others := [claim "a" "Standard_NC6s_v3",
      (claim "b" "Standard_NC12s_v3").withConditions [{ type := "Initialized", status := "True" }]]
    let world (second : Condition) : World StampedStore :=
      let store := (others ++ pending).foldl Store.insertNodeClaim {}
      { cluster :=
          { store := ((store.scriptConditions "c" [[], [ready]]).scriptConditions "d"
              [[second]]).scriptConditions "e" [[ready]]
            nextStamp := ⟨0, 0⟩ }
        ids := ⟨0⟩ }
    (∀ second, (world second).store.Keyed) ∧
      ((o.waitForPending request).run StampedStore.serve (world ready)).1 = .ok () ∧
      (∀ claim ∈ pending,
        ((o.waitForPending request).run StampedStore.serve (world ready)).2.store.IsUp claim.name) ∧
      ((o.waitForPending request).run StampedStore.serve (world failed)).1 =
        .error (.instanceTypeUnavailable "d" "Standard_NC12s_v3" NodeClaim.launchUnavailable) ∧
      ∃ earlier claim later, pending = earlier ++ claim :: later ∧
        ∀ other ∈ later,
          .getNodeClaim other.name ∉ (o.waitForPending request).calls StampedStore.serve
            (world failed) := by
  intro owned claim ready failed o request pending others world
  have keyed : ∀ second, (world second).store.Keyed := by
    intro second
    apply Store.Built.keyed
    refine .scriptConditions _ _ (.scriptConditions _ _ (.scriptConditions _ _ ?_))
    exact .insertNodeClaim _ (.insertNodeClaim _ (.insertNodeClaim _ (.insertNodeClaim _
      (.insertNodeClaim _ .empty))))
  have foundFirst : pendingIn (world ready).store request = pending := by decide +kernel
  have foundSecond : pendingIn (world failed).store request = pending := by decide +kernel
  have listed : ∀ second, ((o.listClaims request.owner).run StampedStore.serve (world second)).1 =
      .ok ((world second).store.owned request.owner) :=
    fun second => o.run_listClaims_of_unstopped request.owner rfl
  have success : ((o.waitForPending request).run StampedStore.serve (world ready)).1 = .ok () := by
    decide +kernel
  have failure : ((o.waitForPending request).run StampedStore.serve (world failed)).1 =
      .error (.instanceTypeUnavailable "d" "Standard_NC12s_v3" NodeClaim.launchUnavailable) := by
    decide +kernel
  obtain ⟨-, -, -, -, waits⟩ := waitForPending_exact o request (keyed ready)
  obtain ⟨-, -, -, -, stops⟩ := waitForPending_exact o request (keyed failed)
  have up := ((waits _ (listed ready)).2.1 success).2.2
  obtain ⟨earlier, last, later, split, -, -, -, unseen⟩ := (stops _ (listed failed)).2.2 _ failure
  rw [foundFirst] at up
  rw [foundSecond] at split
  exact ⟨keyed, success, up, failure, earlier, last, later, split, unseen⟩

end Orchestrator

end NodeSupply
