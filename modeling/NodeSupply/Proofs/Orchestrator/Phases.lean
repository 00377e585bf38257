import NodeSupply.Proofs.Orchestrator.Waiting

/-! Waiting for a claim and the phases of its life. A wait ends with the first look at a claim whose
phase is terminal, deletion aside: that a claim is being deleted neither ends a wait nor keeps it from
success. -/

namespace NodeSupply

namespace NodeClaim

/-- The claim as it would be if it were not being deleted. -/
def kept (c : NodeClaim) : NodeClaim :=
  { c with metadata := { c.metadata with deletionTimestamp := none } }

@[simp] theorem isDeleting_kept (c : NodeClaim) : c.kept.isDeleting = false := rfl

@[simp] theorem isReady_kept (c : NodeClaim) : c.kept.isReady = c.isReady := rfl

@[simp] theorem unavailableMessage?_kept (c : NodeClaim) :
    c.kept.unavailableMessage? = c.unavailableMessage? := rfl

variable {c : NodeClaim}

theorem kept_of_stays (stays : c.isDeleting = false) : c.kept = c := by
  have unmarked : c.metadata.deletionTimestamp = none := by
    simpa [isDeleting] using stays
  rw [kept, ← unmarked]

theorem phase_eq_deleted_iff : c.phase = .deleted ↔ c.isDeleting = true := by
  unfold phase
  split
  · simp [*]
  · split_ifs <;> simp [*]

theorem phase_eq_ready_iff : c.phase = .ready ↔ c.isDeleting = false ∧ c.isReady = true := by
  unfold phase
  split_ifs <;> simp [*]

theorem phase_eq_launchFailed_iff :
    c.phase = .launchFailed ↔
      c.isDeleting = false ∧ c.isReady = false ∧ c.unavailableMessage?.isSome = true := by
  unfold phase
  split_ifs <;> simp_all

theorem isTerminal_phase :
    c.phase.isTerminal = (c.isDeleting || c.isReady || c.unavailableMessage?.isSome) := by
  unfold phase
  split_ifs <;> simp_all [ClaimPhase.isTerminal]

end NodeClaim

namespace Orchestrator

/-! ### Answers by phase -/

/-- An answer after which a wait goes on that follows a notion of phase. -/
def OpenIn (phase : NodeClaim → ClaimPhase) (answer : Except ClusterFault NodeClaim) : Prop :=
  ∃ claim, answer = .ok claim ∧ (phase claim).isTerminal = false

/-- The answers that decide a wait that follows a notion of phase, each with a result that it allows. A
claim in the phase of deletion is no success, and its launch did not fail. -/
inductive DecidedIn (phase : NodeClaim → ClaimPhase) (name : String) :
    Except ClusterFault NodeClaim → Except Failure NodeClaim → Prop
  | fault (fault : ClusterFault) : DecidedIn phase name (.error fault) (.error (.cluster fault))
  | ready (claim : NodeClaim) : phase claim = .ready → DecidedIn phase name (.ok claim) (.ok claim)
  | launchFailed (claim : NodeClaim) (message : String) : phase claim = .launchFailed →
      claim.unavailableMessage? = some message →
      DecidedIn phase name (.ok claim)
        (.error (.instanceTypeUnavailable name (claim.instanceTypes.head?.getD "") message))
  | deleted (claim : NodeClaim) (failure : Failure) : phase claim = .deleted →
      (∀ name type message, failure ≠ .instanceTypeUnavailable name type message) →
      DecidedIn phase name (.ok claim) (.error failure)

/-- What a wait comes to that follows a notion of phase and is not cancelled, at which moment and after
how many looks: it ends with the first look whose answer does not leave it open, or at the deadline. -/
inductive FollowsPhases (phase : NodeClaim → ClaimPhase) (name : String) (limit : Duration)
    (answers : Nat → Except ClusterFault NodeClaim) (deadline : Nat) :
    Except Failure NodeClaim → Nat → Nat → Prop
  | decided (i : Nat) {result : Except Failure NodeClaim} {moment : Nat} : moment < deadline →
      (∀ k < i, OpenIn phase (answers k)) → DecidedIn phase name (answers i) result →
      FollowsPhases phase name limit answers deadline result moment (i + 1)
  | timedOut (looks : Nat) : (∀ k < looks, OpenIn phase (answers k)) →
      FollowsPhases phase name limit answers deadline (.error (.timeout name limit)) deadline looks

/-- The phase of a claim, deletion aside. -/
def keptPhase (claim : NodeClaim) : ClaimPhase := claim.kept.phase

theorem openIn_of_unsettled {name : String} {answer : Except ClusterFault NodeClaim}
    (unsettled : Unsettled name answer) : OpenIn keptPhase answer := by
  obtain ⟨claim, found, undecided⟩ := unsettled.claim
  refine ⟨claim, found, ?_⟩
  unfold verdict? at undecided
  split at undecided
  · cases undecided
  · next waiting =>
    rw [Option.map_eq_none_iff] at undecided
    simp [keptPhase, NodeClaim.isTerminal_phase, waiting, undecided]

theorem decidedIn_of_settles {name : String} {answer : Except ClusterFault NodeClaim}
    {result : Except Failure NodeClaim} (settles : Settles name answer result) :
    DecidedIn keptPhase name answer result := by
  cases settles with
  | fault fault => exact .fault fault
  | ready claim ready =>
      refine .ready claim (NodeClaim.phase_eq_ready_iff.mpr ?_)
      exact ⟨rfl, ready⟩
  | unavailable claim message waiting failed =>
      refine .launchFailed claim message (NodeClaim.phase_eq_launchFailed_iff.mpr ?_) failed
      refine ⟨rfl, waiting, ?_⟩
      rw [NodeClaim.unavailableMessage?_kept, failed]
      rfl

section Phases

variable {phase other : NodeClaim → ClaimPhase} {name : String} {limit : Duration}
  {answers : Nat → Except ClusterFault NodeClaim} {deadline moment looks : Nat}
  {result : Except Failure NodeClaim}

/-- A look that leaves the wait open comes before all others. -/
theorem FollowsPhases.after (first : OpenIn phase (answers 0))
    (follows : FollowsPhases phase name limit (fun k => answers (k + 1)) deadline result moment looks) :
    FollowsPhases phase name limit answers deadline result moment (looks + 1) := by
  have opens : ∀ n, (∀ k < n, OpenIn phase (answers (k + 1))) →
      ∀ k < n + 1, OpenIn phase (answers k) := by
    intro n going k below
    cases k with
    | zero => exact first
    | succ k => exact going k (Nat.lt_of_succ_lt_succ below)
  cases follows with
  | decided i before going decided => exact .decided (i + 1) before (opens i going) decided
  | timedOut _ going => exact .timedOut (looks + 1) (opens looks going)

/-- Notions of phase that agree on all claims that were found are followed alike. -/
theorem FollowsPhases.congr
    (follows : FollowsPhases phase name limit answers deadline result moment looks)
    (agree : ∀ k < looks, ∀ claim, answers k = .ok claim → phase claim = other claim) :
    FollowsPhases other name limit answers deadline result moment looks := by
  have opens : ∀ k < looks, OpenIn phase (answers k) → OpenIn other (answers k) := by
    rintro k below ⟨claim, found, going⟩
    exact ⟨claim, found, agree k below claim found ▸ going⟩
  cases follows with
  | decided i before going decided =>
      refine .decided i before ?_ ?_
      · intro k earlier
        exact opens k (Nat.lt_succ_of_lt earlier) (going k earlier)
      · have last := agree i (Nat.lt_succ_self i)
        generalize answers i = answer at decided last
        cases decided with
        | fault fault => exact .fault fault
        | ready claim ready => exact .ready claim (last claim rfl ▸ ready)
        | launchFailed claim message failed said =>
            exact .launchFailed claim message (last claim rfl ▸ failed) said
        | deleted claim failure deleted otherwise =>
            exact .deleted claim failure (last claim rfl ▸ deleted) otherwise
  | timedOut _ going =>
      refine .timedOut looks ?_
      intro k below
      exact opens k below (going k below)

theorem OpenIn.stays {claim : NodeClaim} (going : OpenIn NodeClaim.phase (.ok claim)) :
    claim.isDeleting = false := by
  obtain ⟨_, same, waiting⟩ := going
  cases same
  cases marked : claim.isDeleting with
  | false => rfl
  | true =>
      rw [NodeClaim.phase_eq_deleted_iff.mpr marked] at waiting
      cases waiting

/-- With deletion aside, every claim that decides a wait is ready or its launch failed. -/
theorem DecidedIn.not_deleted {claim : NodeClaim} {failure : Failure}
    (decided : DecidedIn keptPhase name (.ok claim) (.error failure)) :
    ∃ type message, failure = .instanceTypeUnavailable name type message := by
  cases decided with
  | launchFailed _ message _ _ => exact ⟨_, message, rfl⟩
  | deleted _ _ deleted _ => cases NodeClaim.phase_eq_deleted_iff.mp deleted

/-- A wait that follows the phases of claims never finds one that is being deleted. -/
theorem FollowsPhases.stays
    (kept : FollowsPhases keptPhase name limit answers deadline result moment looks)
    (follows : FollowsPhases NodeClaim.phase name limit answers deadline result moment looks) :
    ∀ k < looks, ∀ claim, answers k = .ok claim → claim.isDeleting = false := by
  intro k below claim found
  cases follows with
  | timedOut _ going => exact OpenIn.stays (found ▸ going k below)
  | decided i before going decided =>
      rcases Nat.lt_succ_iff_lt_or_eq.mp below with earlier | rfl
      · exact OpenIn.stays (found ▸ going k earlier)
      · cases kept with
        | timedOut => exact absurd before (Nat.lt_irrefl _)
        | decided _ _ _ verdict =>
            rw [found] at decided verdict
            cases decided with
            | ready _ ready => exact (NodeClaim.phase_eq_ready_iff.mp ready).1
            | launchFailed _ _ failed _ => exact (NodeClaim.phase_eq_launchFailed_iff.mp failed).1
            | deleted _ _ _ otherwise =>
                obtain ⟨type, message, unavailable⟩ := verdict.not_deleted
                exact absurd unavailable (otherwise _ _ _)

end Phases

section Waits

variable {σ ι : Type} [IdSource ι] {deadline : Nat}

theorem looked_succ (serve : Server σ) (name : String) (cluster : σ) (looks : Nat) :
    looked serve name cluster (looks + 1) =
      looked serve name (serve (.getNodeClaim name) cluster).2 looks := by
  induction looks with
  | zero => rfl
  | succ looks ih =>
      rw [looked, ih]
      rfl

/-- As long as the looks that are left last beyond the deadline, a wait follows the phases of claims,
deletion aside, however its looks are timed. -/
theorem lookUntil_follows (o : Orchestrator) (name : String) (serve : Server σ) (looks : Nat)
    {v : World σ ι} (before : v.clock ≤ deadline)
    (enough : deadline < v.clock + looks * o.pollLength) :
    ∃ result moment n,
      (o.lookUntil name deadline looks).Ends serve v result moment
        (List.replicate n (.getNodeClaim name)) ∧
      (result ≠ .error (.cancelled name) →
        FollowsPhases keptPhase name o.config.wait.deadline (answer serve name v.cluster)
          (World.wholeTick deadline) result moment n) := by
  induction looks generalizing v with
  | zero => omega
  | succ looks ih =>
      rcases v.interruption_cases deadline with stops | ⟨late, stops⟩ | ⟨early, going⟩
      · refine ⟨_, _, 0, lookUntil_interrupted looks stops, ?_⟩
        intro uncancelled
        exact absurd rfl uncancelled
      · refine ⟨_, _, 0, lookUntil_interrupted looks stops, ?_⟩
        intro _
        rw [Nat.le_antisymm (before.trans (World.le_wholeTick deadline)) late]
        exact .timedOut 0 fun _ never => nomatch never
      · by_cases unsettled : Unsettled name (serve (.getNodeClaim name) v.cluster).1
        · have first : OpenIn keptPhase (answer serve name v.cluster 0) := openIn_of_unsettled unsettled
          rcases v.restEnd_cases o.config.wait.pollInterval deadline with
            ⟨cancelled, _, rests⟩ | rests | ⟨wakes, rests⟩
          · refine ⟨_, _, 1, lookUntil_unsettled going unsettled rests ⟨rfl, rfl, rfl⟩, ?_⟩
            intro uncancelled
            exact absurd rfl uncancelled
          · refine ⟨_, _, 1, lookUntil_unsettled going unsettled rests ⟨rfl, rfl, rfl⟩, ?_⟩
            intro _
            refine FollowsPhases.after first ?_
            change FollowsPhases _ _ _ _ _ _ (max v.clock (World.wholeTick deadline)) 0
            rw [Nat.max_eq_right (Nat.le_of_lt early)]
            exact .timedOut 0 fun _ never => nomatch never
          · have awake : v.clock + o.pollLength ≤ World.pauseEnd v.clock o.config.wait.pollInterval :=
              World.le_wholeTick _
            have inTime : World.pauseEnd v.clock o.config.wait.pollInterval < deadline :=
              World.wholeTick_lt_of_lt wakes
            generalize World.pauseEnd v.clock o.config.wait.pollInterval = wake at awake inTime rests
            have moved : (rested serve name v wake).clock = wake :=
              Nat.max_eq_right (Nat.le_trans (Nat.le_add_right _ _) awake)
            -- The rest used up one of the looks, and the clock is further by at least its length.
            have lasting : deadline < (rested serve name v wake).clock + looks * o.pollLength := by
              rw [Nat.succ_mul] at enough
              omega
            obtain ⟨result, moment, n, ends, follows⟩ := ih (moved.trans_le (Nat.le_of_lt inTime)) lasting
            refine ⟨result, moment, n + 1, lookUntil_unsettled going unsettled rests ends, ?_⟩
            intro uncancelled
            refine FollowsPhases.after first ?_
            simp only [answer, looked_succ]
            exact follows uncancelled
        · obtain ⟨result, settles⟩ := not_forall_not.mp unsettled
          refine ⟨_, _, 1, lookUntil_settled looks going settles, ?_⟩
          intro _
          exact .decided 0 early (fun _ never => nomatch never) (decidedIn_of_settles settles)

end Waits

/-- A wait that is not cancelled ends with the first look at a claim whose phase is terminal, deletion
aside: with success if that phase is ready, as unavailable if the launch failed. So it follows the phases
of claims exactly if none that it finds is being deleted. -/
theorem waitForReady_phases {σ ι : Type} [IdSource ι] (o : Orchestrator) (name : String)
    (serve : Server σ) (w : World σ ι) (polls : 0 < o.config.wait.pollInterval.nanos)
    (uncancelled : ((o.waitForReady name).run serve w).1 ≠ .error (.cancelled name)) :
    let wait := (o.waitForReady name).run serve w
    let limit := o.config.wait.deadline
    let answers := answer serve name w.cluster
    let deadline := World.wholeTick (w.clock + limit.nanos)
    ∃ looks,
      (o.waitForReady name).calls serve w = List.replicate looks (.getNodeClaim name) ∧
      FollowsPhases keptPhase name limit answers deadline wait.1 wait.2.clock looks ∧
      (FollowsPhases NodeClaim.phase name limit answers deadline wait.1 wait.2.clock looks ↔
        ∀ k < looks, ∀ claim, answers k = .ok claim → claim.isDeleting = false) := by
  intro wait limit answers deadline
  have longest : 0 < longestPause.nanos := by decide
  have positive : 0 < o.pollLength := Nat.lt_min.mpr ⟨polls, longest⟩
  have enough : w.clock + limit.nanos < w.clock + mostLooks o.config.wait * o.pollLength := by
    refine Nat.add_lt_add_left ?_ _
    rw [Nat.mul_comm]
    exact Nat.lt_mul_div_succ _ positive
  obtain ⟨result, moment, looks, ends, follows⟩ :=
    lookUntil_follows o name serve _ (Nat.le_add_right _ _) enough
  have whole : (o.waitForReady name).Ends serve w result moment
      (List.replicate looks (.getNodeClaim name)) := by
    have started : Program.now.run serve w = (w.clock, w) := rfl
    exact .bind started ends
  have kept : FollowsPhases keptPhase name limit answers deadline wait.1 wait.2.clock looks := by
    rw [whole.result] at uncancelled
    change FollowsPhases _ _ _ _ _ ((o.waitForReady name).run serve w).1
      ((o.waitForReady name).run serve w).2.clock _
    rw [whole.result, whole.moment]
    exact follows uncancelled
  refine ⟨looks, whole.calls, kept, kept.stays, ?_⟩
  intro stay
  refine kept.congr ?_
  intro k below claim found
  rw [keptPhase, NodeClaim.kept_of_stays (stay k below claim found)]

/-- With the default schedule, a wait for a claim that goes through all phases on the way to being ready. -/
theorem waitForReady_phases_of_launch :
    let claim : NodeClaim := { metadata := { name := some "c" }, spec := {} }
    let reached (types : List String) : List Condition :=
      types.map fun type => { type, status := "True" }
    let o : Orchestrator := { dialect := .azure, config := { cloudProvider := .azure } }
    let store := (Store.insertNodeClaim {} claim).scriptConditions "c"
      [[], reached ["Launched"], reached ["Launched", "Initialized"],
        reached ["Launched", "Initialized", "Ready"]]
    let w : World StampedStore := { cluster := { store, nextStamp := ⟨0, 0⟩ }, ids := ⟨0⟩ }
    let answers := answer StampedStore.serve "c" w.cluster
    let wait := (o.waitForReady "c").run StampedStore.serve w
    0 < o.config.wait.pollInterval.nanos ∧ wait.1 ≠ .error (.cancelled "c") ∧
      (List.range 4).map (fun look => (answers look).toOption.map NodeClaim.phase) =
        [some .created, some .launching, some .initialized, some .ready] ∧
      (o.waitForReady "c").calls StampedStore.serve w = List.replicate 4 (.getNodeClaim "c") ∧
      wait.2.clock = 3000 * World.tick ∧
      FollowsPhases NodeClaim.phase "c" o.config.wait.deadline answers
        (World.wholeTick (w.clock + o.config.wait.deadline.nanos)) wait.1 wait.2.clock 4 := by
  intro claim reached o store w answers wait
  have polls : 0 < o.config.wait.pollInterval.nanos := by decide
  have uncancelled : wait.1 ≠ .error (.cancelled "c") := by decide +kernel
  have called : (o.waitForReady "c").calls StampedStore.serve w =
      List.replicate 4 (.getNodeClaim "c") := by decide +kernel
  have stays : ∀ k < 4, (answers k).toOption.any NodeClaim.isDeleting = false := by decide +kernel
  obtain ⟨looks, calls, -, follows⟩ :=
    waitForReady_phases o "c" StampedStore.serve w polls uncancelled
  obtain rfl : looks = 4 := by
    rw [called] at calls
    simpa using (congrArg List.length calls).symm
  refine ⟨polls, uncancelled, by decide +kernel, called, by decide +kernel, follows.mpr ?_⟩
  intro k below found same
  have marked := stays k below
  rwa [show answers k = .ok found from same] at marked

/-- Two claims that are being deleted: a wait for the one that is ready succeeds, and one for the other
makes look after look until the deadline. -/
theorem deleted_claims_are_awaited :
    let ready : NodeClaim :=
      { metadata := { name := some "c", deletionTimestamp := some ⟨1577836800, 0⟩ }, spec := {}
        status := some { conditions := [{ type := "Ready", status := "True" }] } }
    let waiting : NodeClaim :=
      { metadata := { name := some "d", deletionTimestamp := some ⟨1577836800, 0⟩ }, spec := {} }
    let o : Orchestrator :=
      { dialect := .azure, config := { cloudProvider := .azure, wait := { deadline := .ofSeconds 3 } } }
    let store := (Store.insertNodeClaim {} ready).insertNodeClaim waiting
    let w : World StampedStore := { cluster := { store, nextStamp := ⟨0, 0⟩ }, ids := ⟨0⟩ }
    ready.phase = .deleted ∧ waiting.phase = .deleted ∧
      ((o.waitForReady "c").run StampedStore.serve w).1 = .ok ready ∧
      (o.waitForReady "d").Ends StampedStore.serve w (.error (.timeout "d" (.ofSeconds 3)))
        (3000 * World.tick) (List.replicate 3 (.getNodeClaim "d")) := by
  intro ready waiting o store w
  refine ⟨by decide, by decide, by decide +kernel, ?_⟩
  exact ⟨by decide +kernel, by decide +kernel, by decide +kernel⟩

end Orchestrator

end NodeSupply
