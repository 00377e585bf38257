import NodeSupply.Proofs.Orchestrator.Sessions
import NodeSupply.Proofs.Program.Refusals

/-! How a refused call is classed that an operation fails with. The failure keeps the answer of the last
call, whichever it was, so its class follows the code of that answer; only the creation of a node class
is wrapped in a failure whose class does not. -/

namespace NodeSupply

namespace Failure

/-- Whether a failure says that a call was refused. -/
def isRefusal : Failure → Bool
  | .cluster _ | .nodeClassBootstrap _ _ _ | .nameCollision _ => true
  | .capacity _ | .instanceTypeUnavailable _ _ _ | .timeout _ _ | .cancelled _
  | .unsupportedCloud _ | .insufficientByoNodes _ _ | .config _ => false

/-- Whether a failure is what the refusal comes to that is left, or not about a refusal if none is. -/
inductive ComesOf : Failure → Option Refusal → Prop
  | cluster {c : Call} (fault : ClusterFault) : c.operation ≠ .createNodeClass →
      ComesOf (.cluster fault) (some ⟨c, fault⟩)
  | bootstrap (kind name : String) (manifest : NodeClass) (fault : ClusterFault) :
      ComesOf (.nodeClassBootstrap kind name fault) (some ⟨.createNodeClass manifest, fault⟩)
  | collision (attempts : Nat) (claim : NodeClaim) {fault : ClusterFault} : fault.isConflict = true →
      ComesOf (.nameCollision attempts) (some ⟨.createNodeClaim claim, fault⟩)
  | own {failure : Failure} : failure.isRefusal = false → ComesOf failure none

/-- A refusal for a fault of the call itself is one to mend the request for, unless the call was to create
a node class; all others are worth another try. -/
theorem ComesOf.failureClass {failure : Failure} {c : Call} {fault : ClusterFault}
    (comes : failure.ComesOf (some ⟨c, fault⟩)) :
    failure.failureClass =
      if fault.isInvalid = true ∧ c.operation ≠ .createNodeClass then .validation
      else .transient := by
  cases comes with
  | cluster _ other => simp [Failure.failureClass, other]
  | bootstrap kind name manifest _ => simp [Failure.failureClass, Call.operation]
  | collision attempts claim conflict =>
      have valid : fault.isInvalid = false := by
        rw [ClusterFault.isConflict, decide_eq_true_eq] at conflict
        rw [ClusterFault.isInvalid, conflict]
        rfl
      simp [Failure.failureClass, valid]

end Failure

theorem ClusterFault.isInvalid_iff {fault : ClusterFault} {code : UInt16}
    (coded : fault.code? = some code) : fault.isInvalid = true ↔ code = 400 ∨ code = 422 := by
  simp [isInvalid, coded]

namespace Orchestrator

variable {α : Type} (o : Orchestrator) (request : NodeRequest)

/-- Whether a failure is what the refusal comes to that is left. -/
def Accounts (result : Except Failure α) (last : Option Refusal) : Prop :=
  ∀ failure, result = .error failure → failure.ComesOf last

/-- The same of an operation that leaves no refusal if it succeeds. -/
def Clears (result : Except Failure α) (last : Option Refusal) : Prop :=
  Accounts result last ∧ ∀ a, result = .ok a → last = none

theorem accounts_ok (a : α) (last : Option Refusal) : Accounts (.ok a) last :=
  fun _ failed => nomatch failed

theorem clears_ok (a : α) : Clears (.ok a) none := ⟨accounts_ok a none, fun _ _ => rfl⟩

theorem accounts_error {failure : Failure} {last : Option Refusal} (comes : failure.ComesOf last) :
    Accounts (.error failure : Except Failure α) last := by
  rintro _ ⟨⟩
  exact comes

theorem clears_error {failure : Failure} {last : Option Refusal} (comes : failure.ComesOf last) :
    Clears (.error failure : Except Failure α) last :=
  ⟨accounts_error comes, fun _ failed => nomatch failed⟩

theorem leaves_andThen {β : Type} {p : Program (Except Failure α)}
    {f : α → Program (Except Failure β)} {last : Option Refusal} (first : p.Leaves Clears last)
    (second : ∀ a, (f a).Leaves Accounts none) : (p.andThen f).Leaves Accounts last := by
  refine first.andThen ?_ ?_
  · intro failure later clears
    exact accounts_error (clears.1 failure rfl)
  · intro a later clears
    rw [clears.2 a rfl]
    exact second a

theorem leaves_mapOk {β : Type} {p : Program (Except Failure α)} {f : α → β}
    {last : Option Refusal} (leaves : p.Leaves Accounts last) :
    (p.mapOk f).Leaves Accounts last := by
  refine leaves.bind ?_
  rintro (failure | a) later accounts
  · exact accounts_error (accounts failure rfl)
  · exact accounts_ok (f a) later

/-! ### Creation -/

theorem leaves_ensureNodeClass : o.ensureNodeClass.Leaves Accounts none := by
  unfold ensureNodeClass
  cases o.dialect.nodeClassKind? with
  | none => exact accounts_error (.own rfl)
  | some kind =>
      refine Program.leaves_call ?_ ?_
      · intro fault
        exact accounts_error (.cluster fault Operation.noConfusion)
      · rintro (_ | _)
        · dsimp only
          cases made : o.dialect.nodeClass o.config.nodeClassName with
          | error failure =>
              refine accounts_error (.own ?_)
              cases dialect : o.dialect <;> rw [dialect] at made <;> cases made
              rfl
          | ok manifest =>
              refine Program.leaves_call ?_ fun _ => accounts_ok _ _
              intro fault
              dsimp only
              split
              · exact accounts_ok _ _
              · exact accounts_error (.bootstrap _ _ manifest fault)
        · exact accounts_ok _ _

theorem leaves_prepare : o.prepare.Leaves Accounts none := by
  unfold prepare
  split
  · exact o.leaves_ensureNodeClass
  · exact accounts_ok _ _

theorem leaves_submit (claim : NodeClaim) (last : Option Refusal) :
    (submit claim).Leaves
      (fun result later => Clears result later ∧ ∀ failure, result = .error failure →
        ∃ fault, failure = .cluster fault ∧ later = some ⟨.createNodeClaim claim, fault⟩) last := by
  refine Program.leaves_call ?_ ?_
  · intro fault
    refine ⟨clears_error (.cluster fault Operation.noConfusion), ?_⟩
    rintro _ ⟨⟩
    exact ⟨fault, rfl, rfl⟩
  · intro stored
    exact ⟨clears_ok stored, fun _ failed => nomatch failed⟩

/-- Attempts under fresh names account for their failure, if the refusal that is left before the last of
them has been given up is a collision. -/
theorem leaves_submitFresh (attempts : Nat) (last : Option Refusal)
    (gaveUp : attempts = 0 → Failure.ComesOf (.nameCollision nameAttempts) last) :
    (o.submitFresh request attempts).Leaves Clears last := by
  induction attempts generalizing last with
  | zero => exact clears_error (gaveUp rfl)
  | succ attempts ih =>
      unfold submitFresh
      intro id
      refine (leaves_submit (o.claimWithId request id) last).bind ?_
      rintro (failure | stored) later ⟨clears, refused⟩
      · obtain ⟨fault, rfl, rfl⟩ := refused failure rfl
        dsimp only
        split
        · next taken =>
          intro _
          exact ih _ fun _ => .collision nameAttempts (o.claimWithId request id) taken
        · exact clears_error (clears.1 _ rfl)
      · rw [clears.2 stored rfl]
        exact clears_ok stored

theorem leaves_createClaim (claim : NodeClaim) : (o.createClaim claim).Leaves Clears none := by
  refine (leaves_prepare o).andThen ?_ ?_
  · intro failure later accounts
    exact clears_error (accounts failure rfl)
  · intro _ later _
    exact (leaves_submit claim later).mono fun _ _ clears => clears.1

theorem leaves_createClaimFor : (o.createClaimFor request).Leaves Clears none := by
  refine (leaves_prepare o).andThen ?_ ?_
  · intro failure later accounts
    exact clears_error (accounts failure rfl)
  · intro _ later _
    exact o.leaves_submitFresh request nameAttempts later fun none => nomatch none

theorem leaves_createMany (count : Nat) (created : List String) :
    (o.createMany request count created).Leaves Accounts none := by
  induction count generalizing created with
  | zero => exact accounts_ok _ _
  | succ count ih =>
      exact leaves_andThen (o.leaves_createClaimFor request) fun claim => ih _

/-! ### Listing and waiting -/

theorem leaves_listClaims (owner : WorkloadRef) (last : Option Refusal) :
    (o.listClaims owner).Leaves Clears last := by
  have listing : ∀ left retry last, (o.listBackoff.retryFrom Program.pause (fun _ => true)
      (Program.call (.listNodeClaims owner.ownerLabels)) left retry).Leaves
        (Call.listNodeClaims owner.ownerLabels).Reports last := by
    intro left
    induction left with
    | zero => exact fun retry last => Program.leaves_reports _
    | succ left ih =>
        intro retry last
        rw [Backoff.retryFrom_succ]
        exact Program.leaves_call (fun fault _ => ih _ _) fun claims => .answered claims
  unfold listClaims
  refine (listing _ 0 last).bind ?_
  rintro _ _ (fault | claims)
  · exact clears_error (.cluster fault Operation.noConfusion)
  · exact clears_ok claims

theorem comesOf_interrupted (name : String) (i : Interruption) :
    Failure.ComesOf (o.interrupted name i) none := by
  cases i <;> exact .own rfl

theorem clears_verdict {name : String} {claim : NodeClaim} {verdict : Except Failure NodeClaim}
    (looked : verdict? name claim = some verdict) : Clears verdict none := by
  unfold verdict? at looked
  split at looked
  · cases looked
    exact clears_ok claim
  · obtain ⟨message, -, rfl⟩ := Option.map_eq_some_iff.mp looked
    exact clears_error (.own rfl)

theorem leaves_lookUntil (name : String) (deadline looks : Nat) :
    (o.lookUntil name deadline looks).Leaves Clears none := by
  induction looks with
  | zero => exact clears_error (o.comesOf_interrupted name .deadline)
  | succ looks ih =>
      unfold lookUntil
      rintro (_ | i)
      · refine Program.leaves_call ?_ ?_
        · intro fault
          exact clears_error (.cluster fault Operation.noConfusion)
        · intro claim
          dsimp only
          cases looked : verdict? name claim with
          | some verdict => exact clears_verdict looked
          | none =>
              rintro (_ | i)
              · exact ih
              · exact clears_error (o.comesOf_interrupted name i)
      · exact clears_error (o.comesOf_interrupted name i)

theorem leaves_waitForReady (name : String) : (o.waitForReady name).Leaves Clears none :=
  fun _ => o.leaves_lookUntil name _ _

theorem leaves_waitForEach (claims : List NodeClaim) : (o.waitForEach claims).Leaves Accounts none := by
  induction claims with
  | nil => exact accounts_ok _ _
  | cons claim rest ih =>
      exact leaves_andThen (o.leaves_waitForReady claim.name) fun _ => ih

/-! ### Deletion -/

theorem leaves_deleteClaim (name : String) (last : Option Refusal) :
    (deleteClaim name).Leaves Accounts last := by
  refine Program.leaves_call ?_ fun _ => accounts_ok _ _
  intro fault
  dsimp only
  split
  · exact accounts_ok _ _
  · exact accounts_error (.cluster fault Operation.noConfusion)

theorem leaves_deleteEach (claims : List NodeClaim) (last : Option Refusal) :
    (deleteEach claims).Leaves Accounts last := by
  induction claims generalizing last with
  | nil => exact accounts_ok _ _
  | cons claim rest ih =>
      unfold deleteEach
      split
      · exact ih last
      · refine (leaves_deleteClaim claim.name last).andThen ?_ fun _ later _ => ih later
        intro failure later accounts
        exact accounts_error (accounts failure rfl)

/-! ### All operations -/

theorem leaves_syncClaims (required : UInt32) :
    (o.syncClaims request required).Leaves Accounts none := by
  refine leaves_andThen (o.leaves_listClaims request.owner none) fun claims => ?_
  split
  · exact leaves_mapOk (o.leaves_createMany request _ [])
  · exact leaves_mapOk (leaves_deleteEach _ none)

theorem leaves_program (action : Action) : (action.program o).Leaves Accounts none := by
  have listing : ∀ owner, (o.listClaims owner).Leaves Accounts none := fun owner =>
    (o.leaves_listClaims owner none).mono fun _ _ clears => clears.1
  cases action with
  | createClaim claim =>
      exact leaves_mapOk ((o.leaves_createClaim claim).mono fun _ _ clears => clears.1)
  | createClaimFor request =>
      exact leaves_mapOk ((o.leaves_createClaimFor request).mono fun _ _ clears => clears.1)
  | waitForReady name =>
      exact leaves_mapOk ((o.leaves_waitForReady name).mono fun _ _ clears => clears.1)
  | listClaims owner => exact leaves_mapOk (listing owner)
  | existingClaims request => exact leaves_mapOk (leaves_mapOk (listing request.owner))
  | waitForPending request =>
      exact leaves_andThen (o.leaves_listClaims request.owner none)
        fun claims => o.leaves_waitForEach _
  | deleteClaim name => exact leaves_deleteClaim name none
  | syncClaims request required => exact leaves_mapOk (o.leaves_syncClaims request required)
  | claimsReady request required => exact leaves_mapOk (leaves_mapOk (listing request.owner))

variable {σ ι : Type} [IdSource ι]

/-- The class of a failure follows the code of the answer that the operation ended with: those that find
fault with the call ask for another request, and all others are worth another try. So it is for every
call but the creation of a node class, after which every failure counts as worth another try. Where the
last call succeeded, or there was none, the failure is not about a refused call. -/
theorem failureClass_of_refusal {p : Program (Except Failure Unit)}
    (offered : p = o.ensureNodeClass ∨ ∃ action : Action, p = action.program o)
    (serve : Server σ) (w : World σ ι) {failure : Failure}
    (ended : (p.run serve w).1 = .error failure) :
    (∀ c fault code, p.refusal? serve w = some ⟨c, fault⟩ → fault.code? = some code →
      (p.calls serve w).getLast? = some c ∧
      failure.failureClass =
        (if (code = 400 ∨ code = 422) ∧ c.operation ≠ .createNodeClass then .validation
        else .transient) ∧
      (failure.isRetryable = true ↔
        ¬((code = 400 ∨ code = 422) ∧ c.operation ≠ .createNodeClass))) ∧
    (p.refusal? serve w = none → failure.isRefusal = false) := by
  have leaves : p.Leaves Accounts none := by
    rcases offered with rfl | ⟨action, rfl⟩
    · exact o.leaves_ensureNodeClass
    · exact o.leaves_program action
  have comes : failure.ComesOf (p.refusal? serve w) := leaves.run serve w failure ended
  constructor
  · intro c fault code left coded
    rw [left] at comes
    have ranked := comes.failureClass
    simp only [ClusterFault.isInvalid_iff coded] at ranked
    refine ⟨Program.getLast?_calls serve p w left, ranked, ?_⟩
    rw [Failure.isRetryable, ranked]
    split <;> simp_all
  · intro nothing
    rw [nothing] at comes
    cases comes with
    | own quiet => exact quiet

/-- A refusal of the look at the node class, which is one to mend the request for. -/
theorem failureClass_of_refusal_of_look :
    let o : Orchestrator := { dialect := .azure, config := { cloudProvider := .azure } }
    let store := ({} : Store).failNext .getNodeClass 422
    let w : World StampedStore := { cluster := { store, nextStamp := ⟨0, 0⟩ }, ids := ⟨0⟩ }
    let fault := Store.injected .getNodeClass 422
    (o.ensureNodeClass.run StampedStore.serve w).1 = .error (.cluster fault) ∧
      Failure.failureClass (.cluster fault) = .validation ∧
      Failure.isRetryable (.cluster fault) ≠ true := by
  intro o store w fault
  have ended : (o.ensureNodeClass.run StampedStore.serve w).1 = .error (.cluster fault) := rfl
  have left : o.ensureNodeClass.refusal? StampedStore.serve w =
      some ⟨.nodeClassExists .aks o.config.nodeClassName, fault⟩ := rfl
  obtain ⟨-, ranked, retryable⟩ :=
    (o.failureClass_of_refusal (.inl rfl) StampedStore.serve w ended).1 _ _ 422 left rfl
  exact ⟨ended, ranked, fun retried => retryable.mp retried ⟨.inr rfl, Operation.noConfusion⟩⟩

/-- The creation of a node class that the server finds invalid counts as worth another try. -/
theorem rejected_nodeClass_counts_as_transient :
    let o : Orchestrator := { dialect := .azure, config := { cloudProvider := .azure } }
    let store := ({} : Store).failNext .createNodeClass 422
    let w : World StampedStore := { cluster := { store, nextStamp := ⟨0, 0⟩ }, ids := ⟨0⟩ }
    let fault := Store.injected .createNodeClass 422
    let failure : Failure := .nodeClassBootstrap "AKSNodeClass" "default" fault
    (o.ensureNodeClass.run StampedStore.serve w).1 = .error failure ∧
      (∃ manifest, o.ensureNodeClass.refusal? StampedStore.serve w =
        some ⟨.createNodeClass manifest, fault⟩) ∧
      fault.code? = some 422 ∧ failure.failureClass = .transient ∧ failure.isRetryable = true ∧
      Failure.failureClass (.cluster fault) = .validation := by
  intro o store w fault failure
  exact ⟨rfl, ⟨_, rfl⟩, rfl, rfl, rfl, rfl⟩

end Orchestrator

end NodeSupply
