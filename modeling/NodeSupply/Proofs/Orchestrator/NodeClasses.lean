import NodeSupply.Proofs.Orchestrator.Submission

/-! Node classes come before claims. With the gate on, every claim is asked for after the node class was
seen to in the same creation, so a store without the class stays without claims. The one exception is
a class that another is said to have created: such an answer can be injected. With the gate off,
nobody asks about node classes. -/

namespace NodeSupply

variable {σ ι : Type} [IdSource ι]

namespace Store

variable {s : Store}

theorem hasNodeClass_of_looked {kind : NodeClassKind} {name : String} (stamp : Stamp)
    (seen : (s.perform stamp (.nodeClassExists kind name)).1 = .ok true) :
    s.hasNodeClass kind name = true := by
  rcases perform_cases s stamp (.nodeClassExists kind name) with ⟨_, _, -, stopped⟩ | ⟨-, served⟩
  · rw [stopped] at seen
    cases seen
  · rw [served] at seen
    exact Except.ok.inj seen

/-- A creation of a node class that succeeds, or that says that the class is there, leaves it behind,
unless it says so because of an injected failure. -/
theorem hasNodeClass_of_created {manifest : NodeClass} (stamp : Stamp)
    (fine : ∀ fault, (s.perform stamp (.createNodeClass manifest)).1 = .error fault →
      fault.isConflict = true)
    (notInjected : ¬∃ later, s.failures .createNodeClass = 409 :: later) :
    (s.perform stamp (.createNodeClass manifest)).2.hasNodeClass manifest.kind manifest.name =
      true := by
  rcases perform_cases s stamp (.createNodeClass manifest) with
    ⟨code, later, queue, stopped⟩ | ⟨-, served⟩
  · have conflict := fine _ (congrArg Prod.fst stopped)
    obtain rfl : code = 409 := by
      simpa [injected, Store.fault, ClusterFault.isConflict, ClusterFault.code?] using conflict
    exact (notInjected ⟨later, queue⟩).elim
  · rw [served]
    simp only [serve, createNodeClass]
    split
    · next present => exact present
    · exact hasNodeClass_insertNodeClass _ _ _

/-! ### The two calls without failures -/

variable {stamp : Stamp} {kind : NodeClassKind} {name : String}

theorem hasNodeClass_iff : s.hasNodeClass kind name = true ↔ (kind, name) ∈ s.nodeClasses :=
  List.contains_iff_mem

theorem perform_calm (calm : ∀ op, s.failures op = []) (stamp : Stamp) (c : Call) :
    ∀ op, (s.perform stamp c).2.failures op = [] := by
  intro op
  rw [perform_failures, calm, update, calm, List.tail_nil, ite_self]

theorem perform_nodeClassExists (calm : ∀ op, s.failures op = []) (stamp : Stamp)
    (kind : NodeClassKind) (name : String) :
    (s.perform stamp (.nodeClassExists kind name)).1 = .ok (s.hasNodeClass kind name) ∧
      (s.perform stamp (.nodeClassExists kind name)).2.nodeClasses = s.nodeClasses := by
  rw [perform_served (calm _)]
  exact ⟨rfl, rfl⟩

/-- A creation finds the class there, and says so, or adds it. -/
theorem perform_createNodeClass (calm : ∀ op, s.failures op = []) (stamp : Stamp)
    (manifest : NodeClass) :
    ((manifest.kind, manifest.name) ∈ s.nodeClasses ∧
      (∃ fault, fault.isConflict = true ∧
        (s.perform stamp (.createNodeClass manifest)).1 = .error fault) ∧
      (s.perform stamp (.createNodeClass manifest)).2.nodeClasses = s.nodeClasses) ∨
    ((manifest.kind, manifest.name) ∉ s.nodeClasses ∧
      (s.perform stamp (.createNodeClass manifest)).1 = .ok () ∧
      (s.perform stamp (.createNodeClass manifest)).2.nodeClasses =
        (manifest.kind, manifest.name) :: s.nodeClasses) := by
  rw [perform_served (calm _)]
  cases present : s.hasNodeClass manifest.kind manifest.name with
  | true =>
      have there : (s.counted .createNodeClass).hasNodeClass manifest.kind manifest.name = true :=
        present
      simp only [serve, createNodeClass, Call.operation, there, if_true]
      exact .inl ⟨hasNodeClass_iff.mp present, ⟨_, rfl, rfl⟩, rfl⟩
  | false =>
      have missing : (s.counted .createNodeClass).hasNodeClass manifest.kind manifest.name = false :=
        present
      simp only [serve, createNodeClass, insertNodeClass, Call.operation, missing,
        Bool.false_eq_true, if_false]
      refine .inr ⟨fun member => ?_, rfl, rfl⟩
      rw [hasNodeClass_iff.mpr member] at present
      cases present

end Store

namespace Orchestrator

variable (o : Orchestrator)

/-- Whether a store has the node class that an orchestrator's claims point at. -/
def HasNodeClass (s : Store) : Prop :=
  ∃ kind, o.dialect.nodeClassKind? = some kind ∧ s.hasNodeClass kind o.config.nodeClassName = true

/-- Whether a store has no claim before it has the node class. -/
def ClassFirst (s : Store) : Prop := s.claims ≠ .empty → o.HasNodeClass s

/-- Whether a step creates a node class and is answered by an injected conflict. -/
def InjectedConflict (s : Store) (e : Effect) : Prop :=
  (∃ manifest, e = .call (.createNodeClass manifest)) ∧
    ∃ later, s.failures .createNodeClass = 409 :: later

variable {o} {s : Store}

theorem HasNodeClass.perform (present : o.HasNodeClass s) (stamp : Stamp) (c : Call) :
    o.HasNodeClass (s.perform stamp c).2 := by
  obtain ⟨kind, own, there⟩ := present
  exact ⟨kind, own, Store.perform_keeps_nodeClass there stamp c⟩

theorem HasNodeClass.classFirst (present : o.HasNodeClass s) : o.ClassFirst s := fun _ => present

theorem ClassFirst.perform (classFirst : o.ClassFirst s) (stamp : Stamp) {c : Call}
    (noCreation : c.operation ≠ .createNodeClaim) : o.ClassFirst (s.perform stamp c).2 := by
  intro some
  by_cases none : s.claims = .empty
  · refine (some (KeyMap.eq_empty_iff.mpr fun name => ?_)).elim
    exact Store.perform_keeps_unbound (KeyMap.eq_empty_iff.mp none name) noCreation stamp
  · exact (classFirst none).perform stamp c

/-- The manifest of a node class is of the orchestrator's kind and bears the configured name. -/
theorem nodeClass_own {d : CloudDialect} {kind : NodeClassKind} {name : String}
    {manifest : NodeClass} (own : d.nodeClassKind? = some kind)
    (made : d.nodeClass name = .ok manifest) : manifest.kind = kind ∧ manifest.name = name := by
  cases d with
  | azure =>
      cases own
      cases made
      exact ⟨rfl, rfl⟩
  | aws clusterName =>
      cases own
      cases made
      exact ⟨rfl, rfl⟩
  | arc => cases own

theorem exists_nodeClass {d : CloudDialect} {kind : NodeClassKind}
    (kinded : d.nodeClassKind? = some kind) (name : String) :
    ∃ manifest, d.nodeClass name = .ok manifest := by
  cases d with
  | azure => exact ⟨_, rfl⟩
  | aws clusterName => exact ⟨_, rfl⟩
  | arc => cases kinded

/-! ### Along a run -/

variable {w : World StampedStore ι}

/-- Once the node class is there, nothing that a program does removes it. -/
theorem upholds_hasNodeClass {α : Type} (p : Program α) (present : o.HasNodeClass w.store) :
    p.Upholds StampedStore.serve (fun v _ => o.HasNodeClass v.store)
      (fun _ v => o.HasNodeClass v.store) w := by
  refine Program.upholds_of_kept ?_ present
  intro v e before
  exact World.perform_keeps o.HasNodeClass (fun c _ stamp => before.perform stamp c) before

/-- What does not ask for claims keeps the order. -/
theorem upholds_classFirst {α : Type} {p : Program α}
    (makes : p.Makes fun c => c.operation ≠ .createNodeClaim) (classFirst : o.ClassFirst w.store) :
    p.Upholds StampedStore.serve (fun v _ => o.ClassFirst v.store)
      (fun _ v => o.ClassFirst v.store) w := by
  refine makes.upholds ?_ classFirst
  intro v e noCreation before
  exact World.perform_keeps o.ClassFirst
    (fun c asked stamp => before.perform stamp (noCreation c asked)) before

theorem until_looked (classFirst : o.ClassFirst w.store) {kind : NodeClassKind}
    (own : o.dialect.nodeClassKind? = some kind) :
    (Program.call (.nodeClassExists kind o.config.nodeClassName)).UpholdsUntil StampedStore.serve
      (fun v e => InjectedConflict v.store e) (fun v _ => o.ClassFirst v.store)
      (fun outcome v => o.ClassFirst v.store ∧ (outcome = .ok true → o.HasNodeClass v.store)) w := by
  refine Program.until_call classFirst (.inr ⟨?_, ?_⟩)
  · exact classFirst.perform w.cluster.stamp Operation.noConfusion
  · intro seen
    have there := Store.hasNodeClass_of_looked w.cluster.stamp seen
    exact HasNodeClass.perform ⟨kind, own, there⟩ w.cluster.stamp _

theorem until_created (classFirst : o.ClassFirst w.store) {kind : NodeClassKind}
    (own : o.dialect.nodeClassKind? = some kind) {manifest : NodeClass}
    (made : o.dialect.nodeClass o.config.nodeClassName = .ok manifest) :
    (Program.call (.createNodeClass manifest)).UpholdsUntil StampedStore.serve
      (fun v e => InjectedConflict v.store e) (fun v _ => o.ClassFirst v.store)
      (fun outcome v => o.ClassFirst v.store ∧
        ((∀ fault, outcome = .error fault → fault.isConflict = true) → o.HasNodeClass v.store))
      w := by
  refine Program.until_call classFirst ?_
  by_cases injected : ∃ later, w.store.failures .createNodeClass = 409 :: later
  · exact .inl ⟨⟨manifest, rfl⟩, injected⟩
  · refine .inr ⟨classFirst.perform w.cluster.stamp Operation.noConfusion, ?_⟩
    intro fine
    have there := Store.hasNodeClass_of_created w.cluster.stamp fine injected
    obtain ⟨sameKind, sameName⟩ := nodeClass_own own made
    rw [sameKind, sameName] at there
    exact ⟨kind, own, there⟩

/-- Seeing to the node class succeeds only if the class is there in the end, up to an injected
conflict. -/
theorem until_ensureNodeClass (classFirst : o.ClassFirst w.store) :
    o.ensureNodeClass.UpholdsUntil StampedStore.serve (fun v e => InjectedConflict v.store e)
      (fun v _ => o.ClassFirst v.store)
      (fun result v => o.ClassFirst v.store ∧ (result = .ok () → o.HasNodeClass v.store)) w := by
  unfold ensureNodeClass
  cases own : o.dialect.nodeClassKind? with
  | none => exact ⟨classFirst, fun ok => nomatch ok⟩
  | some kind =>
      refine (until_looked classFirst own).bind ?_
      rintro (fault | _ | _) v ⟨classFirst, seen⟩
      · exact ⟨classFirst, fun ok => nomatch ok⟩
      · dsimp only
        cases made : o.dialect.nodeClass o.config.nodeClassName with
        | error failure => exact ⟨classFirst, fun ok => nomatch ok⟩
        | ok manifest =>
            refine (until_created classFirst own made).bind ?_
            rintro (fault | _) u ⟨classFirst, created⟩
            · dsimp only
              split
              · next conflict =>
                refine ⟨classFirst, fun _ => created ?_⟩
                rintro _ ⟨⟩
                exact conflict
              · exact ⟨classFirst, fun ok => nomatch ok⟩
            · refine ⟨classFirst, fun _ => created ?_⟩
              intro _ failed
              cases failed
      · exact ⟨classFirst, fun _ => seen rfl⟩

/-- Whatever is done after the node class was seen to finds the class there. -/
theorem until_prepared {α : Type} (gate : o.config.featureGates.ensureNodeClass = true)
    (submission : Program (Except Failure α)) (classFirst : o.ClassFirst w.store) :
    (o.prepare.andThen fun _ => submission).UpholdsUntil StampedStore.serve
      (fun v e => InjectedConflict v.store e) (fun v _ => o.ClassFirst v.store)
      (fun _ v => o.ClassFirst v.store) w := by
  rw [prepare, if_pos gate]
  refine (until_ensureNodeClass classFirst).andThen ?_ ?_
  · intro failure v ended
    exact ended.1
  · intro _ v ended
    exact ((upholds_hasNodeClass submission (ended.2 rfl)).mono
      (fun _ _ present => present.classFirst) fun _ _ present => present.classFirst).until

theorem until_createMany (gate : o.config.featureGates.ensureNodeClass = true)
    (request : NodeRequest) (count : Nat) (created : List String)
    (classFirst : o.ClassFirst w.store) :
    (o.createMany request count created).UpholdsUntil StampedStore.serve
      (fun v e => InjectedConflict v.store e) (fun v _ => o.ClassFirst v.store)
      (fun _ v => o.ClassFirst v.store) w := by
  induction count generalizing created w with
  | zero => exact classFirst
  | succ count ih =>
      refine (until_prepared gate _ classFirst).andThen ?_ ?_
      · intro failure v kept
        exact kept
      · intro claim v kept
        exact ih _ kept

theorem until_syncClaims (gate : o.config.featureGates.ensureNodeClass = true)
    (request : NodeRequest) (required : UInt32) (classFirst : o.ClassFirst w.store) :
    (o.syncClaims request required).UpholdsUntil StampedStore.serve
      (fun v e => InjectedConflict v.store e) (fun v _ => o.ClassFirst v.store)
      (fun _ v => o.ClassFirst v.store) w := by
  have listing := (o.makes_listClaims_onExisting request.owner).mono
    fun _ existing => existing.noCreation
  refine (upholds_classFirst listing classFirst).until.andThen (fun _ _ kept => kept) ?_
  intro claims v kept
  dsimp only
  split
  · exact (until_createMany gate request _ [] kept).mapOk
  · have deletes := (makes_deleteEach_onExisting (victims claims required.toNat)).mono
      fun _ existing => existing.noCreation
    exact (upholds_classFirst deletes kept).until.mapOk

/-- Every action that creates claims keeps the order, up to an injected conflict. -/
theorem until_action (gate : o.config.featureGates.ensureNodeClass = true) {action : Action}
    (creates : (action.creation? o).isSome) (classFirst : o.ClassFirst w.store) :
    (action.program o).UpholdsUntil StampedStore.serve (fun v e => InjectedConflict v.store e)
      (fun v _ => o.ClassFirst v.store) (fun _ v => o.ClassFirst v.store) w := by
  cases action with
  | createClaim claim => exact (until_prepared gate _ classFirst).mapOk
  | createClaimFor request => exact (until_prepared gate _ classFirst).mapOk
  | syncClaims request required => exact (until_syncClaims gate request required classFirst).mapOk
  | _ => cases creates

/-! ### Whole sessions -/

/-- Whether the calls of a turn are some about what is there, and then one creation after the other: the
calls that see to the node class, and, exactly if these succeed, submissions. -/
def Turn.SeesToNodeClass (turn : Turn) : Prop :=
  ∃ creation, turn.action.creation? turn.orchestrator = some creation ∧
    ∃ (existing : List Call) (starts : List (World StampedStore turn.ids)),
      turn.calls = existing ++ starts.flatMap (fun v => creation.calls StampedStore.serve v) ∧
      (∀ c ∈ existing, c.OnExisting) ∧
      ∀ v ∈ starts, v ∈ turn.program.worlds StampedStore.serve turn.world ∧
        ∃ submissions, creation.calls StampedStore.serve v =
            turn.orchestrator.ensureNodeClass.calls StampedStore.serve v ++ submissions ∧
          (∀ c ∈ turn.orchestrator.ensureNodeClass.calls StampedStore.serve v, c.AboutNodeClass) ∧
          (∀ c ∈ submissions, c.operation = .createNodeClaim) ∧
          (submissions ≠ [] ↔
            (turn.orchestrator.ensureNodeClass.run StampedStore.serve v).1 = .ok ())

variable {turn : Turn}

theorem seesToNodeClass_of_gate (gate : turn.orchestrator.config.featureGates.ensureNodeClass = true)
    (creates : (turn.action.creation? turn.orchestrator).isSome) : turn.SeesToNodeClass := by
  obtain ⟨creation, creates⟩ := Option.isSome_iff_exists.mp creates
  obtain ⟨existing, starts, calls, onExisting, passed⟩ :=
    turn.orchestrator.calls_of_creations StampedStore.serve creates turn.world
  refine ⟨creation, creates, existing, starts, calls, onExisting, fun v member => ?_⟩
  have submits := turn.orchestrator.submits_creation StampedStore.serve creates v
  rw [SubmitsWhenPrepared, prepare, if_pos gate] at submits
  obtain ⟨submissions, creationCalls, claims, some⟩ := submits
  exact ⟨passed v member, submissions, creationCalls,
    turn.orchestrator.makes_ensureNodeClass.calls v, claims, some⟩

/-- With the gate off nobody asks about node classes. -/
theorem no_nodeClass_of_no_gate
    (gate : turn.orchestrator.config.featureGates.ensureNodeClass = false)
    (creates : (turn.action.creation? turn.orchestrator).isSome) :
    ∀ c ∈ turn.calls, ¬c.AboutNodeClass := by
  have skipped : turn.orchestrator.prepare = .done (.ok ()) := if_neg (gate ▸ Bool.false_ne_true)
  intro c called about
  rcases turn.orchestrator.call_of_creations StampedStore.serve creates called with
    existing | ⟨v, prepares | ⟨asks, -⟩⟩
  · exact existing.notAboutNodeClass about
  · rw [skipped] at prepares
    cases prepares
  · exact about.not_creation asks

/-- Where a cloud has no node class, the gate keeps all claims from being asked for. -/
theorem no_creation_of_no_kind (gate : turn.orchestrator.config.featureGates.ensureNodeClass = true)
    (creates : (turn.action.creation? turn.orchestrator).isSome)
    (none : turn.orchestrator.dialect.nodeClassKind? = none) :
    ∀ c ∈ turn.calls, c.operation ≠ .createNodeClaim := by
  have refused : turn.orchestrator.prepare =
      .done (.error (.unsupportedCloud turn.orchestrator.dialect.cloud)) := by
    rw [prepare, if_pos gate, ensureNodeClass, none]
  intro c called asks
  rcases turn.orchestrator.call_of_creations StampedStore.serve creates called with
    existing | ⟨v, prepares | ⟨-, prepared⟩⟩
  · exact existing.noCreation asks
  · rw [refused] at prepares
    cases prepares
  · rw [refused] at prepared
    cases prepared

/-- Through any creations and syncs of one orchestrator, whatever fails: with the gate on, claims are
only asked for once the node class was seen to, so none is there without the class unless a conflict
was injected into its creation, and on a cloud without node classes none is there at all; with the
gate off, no call is about node classes. -/
theorem nodeClass_before_claims {s : Store} {turns : List Turn} (session : Session s turns)
    (start : s.claims = .empty)
    (actions : ∀ turn ∈ turns, turn.orchestrator = o ∧ (turn.action.creation? o).isSome) :
    (o.config.featureGates.ensureNodeClass = true →
      (∀ turn ∈ turns, turn.SeesToNodeClass) ∧
      (∀ earlier turn later, turns = earlier ++ turn :: later → ∀ k t, turn.stores[k]? = some t →
        t.claims ≠ .empty → o.HasNodeClass t ∨
          ∃ step ∈ earlier.flatMap Turn.steps ++ turn.steps.take k,
            InjectedConflict step.1 step.2) ∧
      (o.dialect = .arc → ∀ turn ∈ turns, (∀ c ∈ turn.calls, c.operation ≠ .createNodeClaim) ∧
        ∀ t ∈ turn.stores, t.claims = .empty)) ∧
    (o.config.featureGates.ensureNodeClass = false →
      ∀ turn ∈ turns, ∀ c ∈ turn.calls,
        c.operation ≠ .getNodeClass ∧ c.operation ≠ .createNodeClass) := by
  constructor
  · intro gate
    refine ⟨?_, ?_, ?_⟩
    · intro turn member
      obtain ⟨rfl, creates⟩ := actions turn member
      exact seesToNodeClass_of_gate gate creates
    · intro earlier turn later split k t reached claims
      have kept : ∀ turn ∈ turns, o.ClassFirst turn.world.store →
          turn.program.UpholdsUntil StampedStore.serve (fun v e => InjectedConflict v.store e)
            (fun v _ => o.ClassFirst v.store) (fun _ v => o.ClassFirst v.store) turn.world := by
        intro turn member classFirst
        obtain ⟨rfl, creates⟩ := actions turn member
        exact until_action gate creates classFirst
      refine (session.upholds_until o.ClassFirst InjectedConflict (fun some => (some start).elim)
        (fun _ _ classFirst => classFirst) kept split k reached).imp ?_ id
      intro classFirst
      exact classFirst claims
    · intro arc
      have asked : ∀ turn ∈ turns, ∀ c ∈ turn.calls, c.operation ≠ .createNodeClaim := by
        intro turn member
        obtain ⟨rfl, creates⟩ := actions turn member
        exact no_creation_of_no_kind gate creates (by rw [arc]; rfl)
      intro turn member
      refine ⟨asked turn member, fun t reached => KeyMap.eq_empty_iff.mpr fun name => ?_⟩
      exact session.unbound_of_no_creation asked (by rw [start]; rfl) turn member t reached
  · intro gate turn member c called
    obtain ⟨rfl, creates⟩ := actions turn member
    exact not_or.mp (no_nodeClass_of_no_gate gate creates c called)

/-- A creation whose look at the node class fails, and a sync that makes up for it. -/
theorem nodeClass_before_claims_after_failure :
    let o : Orchestrator :=
      { dialect := .azure
        config := { cloudProvider := .azure, featureGates := { ensureNodeClass := true } } }
    let request : NodeRequest := .new ⟨"phi", "ai"⟩ "Standard_NC24ads_A100_v4"
    let world : Store → World StampedStore := fun store =>
      { cluster := { store, nextStamp := ⟨0, 0⟩ }, ids := ⟨0⟩ }
    let first : Turn :=
      ⟨o, .createClaimFor request, world (Store.failNext {} .getNodeClass 500)⟩
    let second : Turn := ⟨o, .syncClaims request 1, world first.after⟩
    let turns := [first, second]
    Session {} turns ∧ ({} : Store).claims = .empty ∧
      (∀ turn ∈ turns, turn.orchestrator = o ∧ (turn.action.creation? o).isSome) ∧
      o.config.featureGates.ensureNodeClass = true ∧ second.after.claims.size = 1 ∧
      (∀ turn ∈ turns, turn.SeesToNodeClass) ∧
      (∀ earlier turn later, turns = earlier ++ turn :: later → ∀ k t, turn.stores[k]? = some t →
        t.claims ≠ .empty → o.HasNodeClass t ∨
          ∃ step ∈ earlier.flatMap Turn.steps ++ turn.steps.take k,
            InjectedConflict step.1 step.2) := by
  intro o request world first second turns
  have session : Session {} turns := .cons _ rfl (.next rfl (.nil _))
  have actions : ∀ turn ∈ turns, turn.orchestrator = o ∧ (turn.action.creation? o).isSome := by
    simp only [turns, List.forall_mem_cons, List.not_mem_nil, false_implies, implies_true, and_true]
    exact ⟨⟨rfl, rfl⟩, rfl, rfl⟩
  obtain ⟨sees, classFirst, -⟩ := (nodeClass_before_claims session rfl actions).1 rfl
  exact ⟨session, rfl, actions, rfl, by rfl, sees, classFirst⟩

end Orchestrator

end NodeSupply
