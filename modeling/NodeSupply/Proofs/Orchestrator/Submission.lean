import NodeSupply.Proofs.Orchestrator.Creation
import NodeSupply.Proofs.Orchestrator.Deletion
import NodeSupply.Proofs.Orchestrator.Sessions
import NodeSupply.Proofs.Orchestrator.Waiting

/-! When claims are asked for. A creation first prepares and then asks for a claim exactly if that
succeeded; all other calls of an action are about claims that are there already. -/

namespace NodeSupply

variable {σ ι : Type} [IdSource ι]

namespace Call

/-- Whether a call is only about what is there. -/
def OnExisting : Call → Prop
  | .getNodeClaim _ | .deleteNodeClaim _ | .listNodeClaims _ | .listNodes _ => True
  | .createNodeClaim _ | .nodeClassExists _ _ | .createNodeClass _ => False

theorem OnExisting.noCreation {c : Call} (existing : c.OnExisting) :
    c.operation ≠ .createNodeClaim := by
  cases c <;> first | exact existing.elim | exact Operation.noConfusion

theorem OnExisting.notAboutNodeClass {c : Call} (existing : c.OnExisting) : ¬c.AboutNodeClass := by
  cases c <;> first | exact existing.elim | simp [AboutNodeClass, operation]

end Call

namespace Program

variable {α β ε : Type} {serve : Server σ} {w : World σ ι}

/-- Whether one of the calls of a run asks for a claim. -/
def AsksForClaim (serve : Server σ) (p : Program α) (w : World σ ι) : Prop :=
  ∃ c ∈ p.calls serve w, c.operation = .createNodeClaim

theorem not_asks_of_existing {p : Program α} (makes : p.Makes Call.OnExisting) :
    ¬p.AsksForClaim serve w := by
  rintro ⟨c, member, asks⟩
  exact (makes.calls w c member).noCreation asks

theorem asks_andThen_iff {p : Program (Except ε α)} {f : α → Program (Except ε β)} :
    (p.andThen f).AsksForClaim serve w ↔ p.AsksForClaim serve w ∨
      ∃ a, (p.run serve w).1 = .ok a ∧ (f a).AsksForClaim serve (p.run serve w).2 := by
  rw [AsksForClaim, calls_andThen]
  cases (p.run serve w).1 with
  | error e => simp [AsksForClaim]
  | ok a => simp [AsksForClaim, or_and_right, exists_or]

theorem asks_mapOk_iff {p : Program (Except ε α)} {f : α → β} :
    (p.mapOk f).AsksForClaim serve w ↔ p.AsksForClaim serve w := by
  rw [AsksForClaim, calls_mapOk]
  rfl

end Program

namespace Orchestrator

variable (o : Orchestrator) (serve : Server σ)

/-! ### One creation -/

theorem calls_submit (claim : NodeClaim) (w : World σ ι) :
    (submit claim).calls serve w = [.createNodeClaim claim] := by
  rw [submit, Program.calls_bind, Program.calls_call]
  cases ((Program.call (.createNodeClaim claim)).run serve w).1 <;> rfl

theorem calls_submitFresh_ne_nil (request : NodeRequest) (attempts : Nat) (w : World σ ι) :
    (o.submitFresh request (attempts + 1)).calls serve w ≠ [] := by
  rw [submitFresh, Program.calls_bind, Program.calls_bind, calls_submit]
  simp

/-- The calls of a creation: those of the preparation, and, exactly if that succeeds, submissions. -/
def SubmitsWhenPrepared {α : Type} (creation : Program α) (w : World σ ι) : Prop :=
  ∃ submissions, creation.calls serve w = o.prepare.calls serve w ++ submissions ∧
    (∀ c ∈ submissions, c.operation = .createNodeClaim) ∧
    (submissions ≠ [] ↔ (o.prepare.run serve w).1 = .ok ())

variable {o serve}

theorem submits_andThen {α : Type} {submission : Program (Except Failure α)}
    (makes : submission.Makes fun c => c.operation = .createNodeClaim)
    (asks : ∀ v : World σ ι, submission.calls serve v ≠ []) (w : World σ ι) :
    o.SubmitsWhenPrepared serve (o.prepare.andThen fun _ => submission) w := by
  rw [SubmitsWhenPrepared, Program.calls_andThen]
  refine ⟨_, rfl, ?_⟩
  cases (o.prepare.run serve w).1 with
  | error failure =>
      refine ⟨(fun _ member => nomatch member), ?_⟩
      constructor
      · intro nonempty
        exact (nonempty rfl).elim
      · intro prepared
        cases prepared
  | ok _ =>
      refine ⟨makes.calls _, ?_⟩
      constructor
      · intro _
        rfl
      · intro _
        exact asks _

theorem submits_createClaim (claim : NodeClaim) (w : World σ ι) :
    o.SubmitsWhenPrepared serve (o.createClaim claim) w := by
  refine submits_andThen (makes_submit claim) ?_ w
  intro v
  rw [calls_submit]
  exact List.cons_ne_nil _ _

theorem submits_createClaimFor (request : NodeRequest) (w : World σ ι) :
    o.SubmitsWhenPrepared serve (o.createClaimFor request) w :=
  submits_andThen (o.makes_submitFresh request nameAttempts)
    (o.calls_submitFresh_ne_nil serve request 4) w

theorem SubmitsWhenPrepared.asks_iff {α : Type} {creation : Program α} {w : World σ ι}
    (submits : o.SubmitsWhenPrepared serve creation w) :
    creation.AsksForClaim serve w ↔ (o.prepare.run serve w).1 = .ok () := by
  obtain ⟨submissions, calls, claims, some⟩ := submits
  rw [← some, Program.AsksForClaim, calls]
  constructor
  · rintro ⟨c, member, asks⟩ rfl
    rw [List.append_nil] at member
    -- The preparation itself is only about node classes.
    exact (o.makes_prepare.calls w c member).not_creation asks
  · intro nonempty
    obtain ⟨c, member⟩ := List.exists_mem_of_ne_nil _ nonempty
    exact ⟨c, List.mem_append_right _ member, claims c member⟩

/-! ### Actions -/

variable (o serve)

/-- What an action does for each claim that it creates, if it is one that creates claims. -/
def Action.creation? : Action → Option (Program (Except Failure NodeClaim))
  | .createClaim claim => some (o.createClaim claim)
  | .createClaimFor request | .syncClaims request _ => some (o.createClaimFor request)
  | .waitForReady _ | .listClaims _ | .existingClaims _ | .waitForPending _ | .deleteClaim _
  | .claimsReady _ _ => none

theorem submits_creation {action : Action} {creation : Program (Except Failure NodeClaim)}
    (creates : action.creation? o = some creation) (w : World σ ι) :
    o.SubmitsWhenPrepared serve creation w := by
  cases action with
  | createClaim claim =>
      cases creates
      exact submits_createClaim claim w
  | createClaimFor request =>
      cases creates
      exact submits_createClaimFor request w
  | syncClaims request required =>
      cases creates
      exact submits_createClaimFor request w
  | _ => cases creates

theorem makes_listClaims_onExisting (owner : WorkloadRef) :
    (o.listClaims owner).Makes Call.OnExisting := by
  refine (o.makes_listClaims owner).mono ?_
  rintro c rfl
  trivial

theorem makes_deleteEach_onExisting (claims : List NodeClaim) :
    (deleteEach claims).Makes Call.OnExisting := by
  refine (makes_deleteEach claims).mono ?_
  rintro c ⟨claim, -, rfl⟩
  trivial

theorem makes_onExisting_of_no_creation {action : Action} (creates : action.creation? o = none) :
    (action.program o).Makes Call.OnExisting := by
  have waits : ∀ name, (o.waitForReady name).Makes Call.OnExisting := by
    intro name
    refine (o.makes_waitForReady name).mono ?_
    rintro c rfl
    trivial
  cases action with
  | createClaim claim => cases creates
  | createClaimFor request => cases creates
  | syncClaims request required => cases creates
  | waitForReady name => exact (waits name).mapOk
  | listClaims owner => exact (o.makes_listClaims_onExisting owner).mapOk
  | existingClaims request => exact (o.makes_listClaims_onExisting request.owner).mapOk.mapOk
  | claimsReady request required => exact (o.makes_listClaims_onExisting request.owner).mapOk.mapOk
  | deleteClaim name =>
      refine (makes_deleteClaim name).mono ?_
      rintro c rfl
      trivial
  | waitForPending request =>
      refine (o.makes_listClaims_onExisting request.owner).andThen fun claims => ?_
      refine (o.makes_waitForEach _).mono ?_
      rintro c ⟨claim, -, rfl⟩
      trivial

/-- Many creations are one after the other, each from a world that is passed through. -/
theorem calls_createMany (request : NodeRequest) (count : Nat) (created : List String)
    (w : World σ ι) :
    ∃ starts : List (World σ ι), (o.createMany request count created).calls serve w =
        starts.flatMap (fun v => (o.createClaimFor request).calls serve v) ∧
      ∀ v ∈ starts, v ∈ (o.createMany request count created).worlds serve w := by
  induction count generalizing created w with
  | zero => exact ⟨[], rfl, fun _ member => nomatch member⟩
  | succ count ih =>
      have here := Program.mem_worlds_self serve (o.createMany request (count + 1) created) w
      rw [createMany, Program.calls_andThen]
      cases result : ((o.createClaimFor request).run serve w).1 with
      | error failure =>
          refine ⟨[w], ?_, ?_⟩
          · rw [List.append_nil, List.flatMap_singleton]
          · intro v member
            rw [List.mem_singleton.mp member]
            exact here
      | ok claim =>
          obtain ⟨starts, calls, passed⟩ := ih (created ++ [claim.name])
            ((o.createClaimFor request).run serve w).2
          refine ⟨w :: starts, ?_, ?_⟩
          · rw [List.flatMap_cons]
            exact congrArg _ calls
          · intro v member
            rcases List.mem_cons.mp member with rfl | later
            · exact here
            · exact Program.mem_worlds_andThen serve result (passed v later)

/-- The calls of a sync: some about what is there, and then one creation after the other, each from a
world that is passed through. -/
theorem calls_syncClaims (request : NodeRequest) (required : UInt32) (w : World σ ι) :
    ∃ (existing : List Call) (starts : List (World σ ι)),
      (o.syncClaims request required).calls serve w =
        existing ++ starts.flatMap (fun v => (o.createClaimFor request).calls serve v) ∧
      (∀ c ∈ existing, c.OnExisting) ∧
      ∀ v ∈ starts, v ∈ (o.syncClaims request required).worlds serve w := by
  have listing : ∀ c ∈ (o.listClaims request.owner).calls serve w, c.OnExisting :=
    (o.makes_listClaims_onExisting request.owner).calls w
  cases listed : ((o.listClaims request.owner).run serve w).1 with
  | error failure =>
      refine ⟨_, [], ?_, listing, (fun _ member => nomatch member)⟩
      rw [syncClaims, Program.calls_andThen, listed]
      rfl
  | ok claims =>
      by_cases few : claims.length < required.toNat
      · obtain ⟨starts, calls, passed⟩ := o.calls_createMany serve request
          (required.toNat - claims.length) [] ((o.listClaims request.owner).run serve w).2
        refine ⟨_, starts, ?_, listing, ?_⟩
        · rw [syncClaims, Program.calls_andThen, listed, ← calls]
          dsimp only
          rw [if_pos few, Program.calls_mapOk]
        · intro v member
          refine Program.mem_worlds_andThen serve listed ?_
          rw [if_pos few]
          exact Program.mem_worlds_bind serve _ (passed v member)
      · refine ⟨(o.listClaims request.owner).calls serve w ++
          (deleteEach (victims claims required.toNat)).calls serve
            ((o.listClaims request.owner).run serve w).2, [], ?_, ?_,
          (fun _ member => nomatch member)⟩
        · rw [syncClaims, Program.calls_andThen, listed, List.flatMap_nil, List.append_nil]
          dsimp only
          rw [if_neg few, Program.calls_mapOk]
        · intro c member
          rcases List.mem_append.mp member with early | late
          · exact listing c early
          · exact (makes_deleteEach_onExisting _).calls _ c late

/-- The calls of an action that creates claims: some about what is there, and then one creation after
the other, each from a world that is passed through. -/
theorem calls_of_creations {action : Action} {creation : Program (Except Failure NodeClaim)}
    (creates : action.creation? o = some creation) (w : World σ ι) :
    ∃ (existing : List Call) (starts : List (World σ ι)),
      (action.program o).calls serve w =
        existing ++ starts.flatMap (fun v => creation.calls serve v) ∧
      (∀ c ∈ existing, c.OnExisting) ∧ ∀ v ∈ starts, v ∈ (action.program o).worlds serve w := by
  have alone : ∀ p : Program (Except Failure NodeClaim), ∃ (existing : List Call)
      (starts : List (World σ ι)), (p.mapOk fun _ => ()).calls serve w =
        existing ++ starts.flatMap (fun v => p.calls serve v) ∧
      (∀ c ∈ existing, c.OnExisting) ∧ ∀ v ∈ starts, v ∈ (p.mapOk fun _ => ()).worlds serve w := by
    intro p
    refine ⟨[], [w], ?_, (fun _ member => nomatch member), ?_⟩
    · rw [Program.calls_mapOk, List.nil_append, List.flatMap_singleton]
    · intro v member
      rw [List.mem_singleton.mp member]
      exact Program.mem_worlds_self serve _ w
  cases action with
  | createClaim claim =>
      cases creates
      exact alone _
  | createClaimFor request =>
      cases creates
      exact alone _
  | syncClaims request required =>
      cases creates
      obtain ⟨existing, starts, calls, onExisting, passed⟩ :=
        o.calls_syncClaims serve request required w
      refine ⟨existing, starts, ?_, onExisting, ?_⟩
      · rw [Action.program, Program.calls_mapOk]
        exact calls
      · intro v member
        exact Program.mem_worlds_bind serve _ (passed v member)
  | _ => cases creates

/-- A call of an action that creates claims is about what is there, or sees to the node class, or asks
for a claim after this has succeeded. -/
theorem call_of_creations {action : Action} (creates : (action.creation? o).isSome) {w : World σ ι}
    {c : Call} (called : c ∈ (action.program o).calls serve w) :
    c.OnExisting ∨ ∃ v : World σ ι, c ∈ o.prepare.calls serve v ∨
      c.operation = .createNodeClaim ∧ (o.prepare.run serve v).1 = .ok () := by
  obtain ⟨creation, creates⟩ := Option.isSome_iff_exists.mp creates
  obtain ⟨existing, starts, calls, onExisting, -⟩ := o.calls_of_creations serve creates w
  rw [calls] at called
  rcases List.mem_append.mp called with early | late
  · exact .inl (onExisting c early)
  · obtain ⟨v, -, inCreation⟩ := List.mem_flatMap.mp late
    obtain ⟨submissions, creationCalls, claims, some⟩ := o.submits_creation serve creates v
    rw [creationCalls] at inCreation
    rcases List.mem_append.mp inCreation with prepares | submits
    · exact .inr ⟨v, .inl prepares⟩
    · exact .inr ⟨v, .inr ⟨claims c submits, some.mp (List.ne_nil_of_mem submits)⟩⟩

end Orchestrator

end NodeSupply
