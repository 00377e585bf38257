import NodeSupply.Proofs.Orchestrator.Listing

/-! Creating claims. However often it fails on the way, a creation leaves behind the claims of before
and, under new names, claims that were made for the request. -/

namespace NodeSupply

variable {ι : Type} [IdSource ι]

namespace Call

/-- Whether a call is about node classes. -/
def AboutNodeClass (c : Call) : Prop := c.operation = .getNodeClass ∨ c.operation = .createNodeClass

theorem AboutNodeClass.leaves {c : Call} (about : c.AboutNodeClass) : Store.LeavesClaims c := by
  rcases about with looked | created
  · cases c <;> trivial
  · cases c <;> trivial

theorem AboutNodeClass.not_creation {c : Call} (about : c.AboutNodeClass) :
    c.operation ≠ .createNodeClaim := by
  rcases about with looked | created
  · rw [looked]
    exact Operation.noConfusion
  · rw [created]
    exact Operation.noConfusion

/-- Whether a call is one of those that creating a claim can take. -/
def ForCreation (c : Call) : Prop := c.AboutNodeClass ∨ c.operation = .createNodeClaim

theorem ForCreation.not_deletion {c : Call} (creates : c.ForCreation) :
    c.operation ≠ .deleteNodeClaim := by
  rcases creates with (same | same) | same <;> rw [same] <;> exact Operation.noConfusion

end Call

namespace Orchestrator

/-- A store in which claims made for a request have joined those of another store, each under a name
that was not taken. -/
structure Grown (o : Orchestrator) (request : NodeRequest) (s t : Store)
    (fresh : List NodeClaim) : Prop where
  made : ∀ claim ∈ fresh, ∃ id stamp, claim = Store.stamped (o.claimWithId request id) stamp
  distinct : (fresh.map NodeClaim.name).Nodup
  unbound : ∀ claim ∈ fresh, s.claims.get? claim.name = none
  claims : t.claims = s.claims.insertMany (fresh.map fun claim => (claim.name, claim))
  deletions : t.failures .deleteNodeClaim = s.failures .deleteNodeClaim

namespace Grown

variable {o : Orchestrator} {request : NodeRequest} {s t u : Store} {fresh later : List NodeClaim}
  {claim : NodeClaim}

theorem of_same (same : s.SameClaims t) : o.Grown request s t [] where
  made := fun _ member => nomatch member
  distinct := List.nodup_nil
  unbound := fun _ member => nomatch member
  claims := same.claims
  deletions := same.deletions

theorem same (grown : o.Grown request s t []) : s.SameClaims t := ⟨grown.claims, grown.deletions⟩

theorem bindings_distinct (grown : o.Grown request s t fresh) :
    ((fresh.map fun claim => (claim.name, claim)).map (·.1)).Nodup := by
  rw [List.map_map]
  exact grown.distinct

theorem get?_fresh (grown : o.Grown request s t fresh) (member : claim ∈ fresh) :
    t.claims.get? claim.name = some claim := by
  rw [grown.claims]
  exact KeyMap.get?_insertMany_of_mem grown.bindings_distinct (List.mem_map.mpr ⟨claim, member, rfl⟩)

theorem get?_other (grown : o.Grown request s t fresh) {name : String}
    (other : name ∉ fresh.map NodeClaim.name) : t.claims.get? name = s.claims.get? name := by
  rw [grown.claims, KeyMap.get?_insertMany_of_absent]
  intro binding member same
  obtain ⟨claim, inFresh, rfl⟩ := List.mem_map.mp member
  exact other (List.mem_map.mpr ⟨claim, inFresh, same⟩)

/-- No name gets free. -/
theorem unbound_before (grown : o.Grown request s t fresh) {name : String}
    (unbound : t.claims.get? name = none) : s.claims.get? name = none := by
  rw [← grown.get?_other, unbound]
  intro member
  obtain ⟨claim, inFresh, rfl⟩ := List.mem_map.mp member
  rw [grown.get?_fresh inFresh] at unbound
  cases unbound

theorem trans (first : o.Grown request s t fresh) (second : o.Grown request t u later) :
    o.Grown request s u (fresh ++ later) where
  made := by
    intro claim member
    rcases List.mem_append.mp member with early | late
    · exact first.made claim early
    · exact second.made claim late
  distinct := by
    rw [List.map_append, List.nodup_append]
    refine ⟨first.distinct, second.distinct, ?_⟩
    intro name inFirst other inSecond same
    obtain ⟨early, inFresh, rfl⟩ := List.mem_map.mp inFirst
    obtain ⟨late, inLater, rfl⟩ := List.mem_map.mp inSecond
    -- A name of the second step was free in the middle, where those of the first are bound.
    have free := second.unbound late inLater
    rw [← same, first.get?_fresh inFresh] at free
    cases free
  unbound := by
    intro claim member
    rcases List.mem_append.mp member with early | late
    · exact first.unbound claim early
    · exact first.unbound_before (second.unbound claim late)
  claims := by
    rw [List.map_append, KeyMap.insertMany_append, ← first.claims]
    exact second.claims
  deletions := second.deletions.trans first.deletions

/-- A creation fails and leaves the claims as they are, or adds the claim that was submitted. -/
theorem of_perform (same : s.SameClaims t) (id : String) (stamp : Stamp) :
    (∃ fault, (t.perform stamp (.createNodeClaim (o.claimWithId request id))).1 = .error fault ∧
      s.SameClaims (t.perform stamp (.createNodeClaim (o.claimWithId request id))).2) ∨
    (∃ stored, (t.perform stamp (.createNodeClaim (o.claimWithId request id))).1 = .ok stored ∧
      o.Grown request s (t.perform stamp (.createNodeClaim (o.claimWithId request id))).2
        [stored]) := by
  have queue : ∀ claim, (t.perform stamp (.createNodeClaim claim)).2.failures .deleteNodeClaim =
      s.failures .deleteNodeClaim := by
    intro claim
    rw [Store.perform_failures, Store.update_of_ne Operation.noConfusion, same.deletions]
  rcases t.perform_create stamp (o.claimWithId request id) with
    ⟨fault, failed, kept⟩ | ⟨free, stored, inserted⟩
  · exact .inl ⟨fault, failed, kept.trans same.claims, queue _⟩
  · refine .inr ⟨_, stored, ?_⟩
    rw [same.claims] at free inserted
    constructor
    · intro claim member
      exact ⟨id, stamp, List.mem_singleton.mp member⟩
    · exact List.nodup_singleton _
    · intro claim member
      rw [List.mem_singleton.mp member]
      exact free
    · exact inserted
    · exact queue _

theorem values_perm (grown : o.Grown request s t fresh) :
    t.claims.values.Perm (fresh ++ s.claims.values) := by
  rw [grown.claims]
  exact KeyMap.values_insertMany_perm grown.distinct grown.unbound

/-- What was made for a request is live, and belongs to its owner if the selector lets it. -/
theorem live_of_fresh (grown : o.Grown request s t fresh)
    (respects : request.labelSelector.Respects request.owner.ownerLabels) :
    ∀ claim ∈ fresh, claim.isDeleting = false ∧ claim.isOwnedBy request.owner = true := by
  intro claim member
  obtain ⟨id, stamp, rfl⟩ := grown.made claim member
  exact ⟨rfl, (o.isOwnedBy_iff_respects request rfl).mpr respects⟩

end Grown

variable (o : Orchestrator) (request : NodeRequest)

/-! ### What a creation does -/

theorem makes_ensureNodeClass : o.ensureNodeClass.Makes Call.AboutNodeClass := by
  unfold ensureNodeClass
  cases o.dialect.nodeClassKind? with
  | none => trivial
  | some kind =>
      refine (Program.makes_call (.inl rfl)).bind ?_
      rintro (fault | _ | _)
      · trivial
      · dsimp only
        cases o.dialect.nodeClass o.config.nodeClassName with
        | error failure => trivial
        | ok manifest =>
            refine (Program.makes_call (.inr rfl)).bind ?_
            rintro (fault | _)
            · dsimp only
              split <;> trivial
            · trivial
      · trivial

theorem makes_prepare : o.prepare.Makes Call.AboutNodeClass := by
  unfold prepare
  split
  · exact o.makes_ensureNodeClass
  · trivial

theorem makes_submit (claim : NodeClaim) :
    (submit claim).Makes fun c => c.operation = .createNodeClaim := by
  have called : (Program.call (.createNodeClaim claim)).Makes
      fun c => c.operation = .createNodeClaim := Program.makes_call rfl
  refine called.bind ?_
  rintro (_ | _) <;> trivial

theorem makes_submitFresh (attempts : Nat) :
    (o.submitFresh request attempts).Makes fun c => c.operation = .createNodeClaim := by
  induction attempts with
  | zero => trivial
  | succ attempts ih =>
      have generates : (o.generateClaim request).Makes fun c => c.operation = .createNodeClaim :=
        (Program.makes_perform rfl).bind fun _ => trivial
      refine generates.bind ?_
      intro claim
      refine (makes_submit claim).bind ?_
      rintro (failure | stored)
      · dsimp only
        split
        · exact (Program.makes_perform rfl).bind fun _ => ih
        · trivial
      · trivial

theorem makes_createClaimFor : (o.createClaimFor request).Makes Call.ForCreation :=
  (o.makes_prepare.mono fun _ => .inl).andThen fun _ =>
    (o.makes_submitFresh request nameAttempts).mono fun _ => .inr

theorem makes_createMany (count : Nat) (created : List String) :
    (o.createMany request count created).Makes Call.ForCreation := by
  induction count generalizing created with
  | zero => trivial
  | succ count ih => exact (o.makes_createClaimFor request).andThen fun _ => ih _

variable {o request} {s : Store}

theorem upholds_prepare {w : World StampedStore ι} (same : s.SameClaims w.store) :
    o.prepare.Upholds StampedStore.serve (fun v _ => s.SameClaims v.store)
      (fun _ v => s.SameClaims v.store) w :=
  o.makes_prepare.upholds
    (fun _ _ about kept => kept.perform_world fun c asked => (about c asked).leaves) same

theorem upholds_submit {w : World StampedStore ι} (same : s.SameClaims w.store) (id : String) :
    (submit (o.claimWithId request id)).Upholds StampedStore.serve
      (fun v _ => s.SameClaims v.store)
      (fun result v => o.Grown request s v.store result.toOption.toList) w := by
  have answered : (Program.call (.createNodeClaim (o.claimWithId request id))).Upholds
      StampedStore.serve (fun v _ => s.SameClaims v.store)
      (fun outcome v => (∃ fault, outcome = .error fault ∧ s.SameClaims v.store) ∨
        ∃ stored, outcome = .ok stored ∧ o.Grown request s v.store [stored]) w :=
    Program.upholds_call same (Grown.of_perform same id w.cluster.stamp)
  unfold submit
  refine answered.bind ?_
  rintro _ v (⟨fault, rfl, kept⟩ | ⟨stored, rfl, grown⟩)
  · exact Grown.of_same kept
  · exact grown

theorem upholds_submitFresh (attempts : Nat) {w : World StampedStore ι}
    (same : s.SameClaims w.store) :
    (o.submitFresh request attempts).Upholds StampedStore.serve
      (fun v _ => s.SameClaims v.store)
      (fun result v => o.Grown request s v.store result.toOption.toList) w := by
  induction attempts generalizing w with
  | zero => exact .of_same same
  | succ attempts ih =>
      refine ⟨same, ?_⟩
      have named : s.SameClaims (w.perform StampedStore.serve .freshId).2.store := same
      refine (upholds_submit named _).bind ?_
      rintro (failure | stored) v grown
      · dsimp only
        split
        -- A refused name has left the claims alone, and the next attempt starts from the same ones.
        · refine ⟨grown.same, ih ?_⟩
          exact grown.same.perform_world fun _ asked => nomatch asked
        · exact grown
      · exact grown

/-- Creating a claim comes to one claim of the request if it succeeds, and to none if it fails. -/
theorem upholds_createClaimFor (o : Orchestrator) (request : NodeRequest)
    {w : World StampedStore ι} (same : s.SameClaims w.store) :
    (o.createClaimFor request).Upholds StampedStore.serve
      (fun v _ => s.SameClaims v.store)
      (fun result v => o.Grown request s v.store result.toOption.toList) w := by
  unfold createClaimFor
  refine (upholds_prepare same).andThen ?_ ?_
  · intro failure v kept
    exact .of_same kept
  · intro _ v kept
    exact upholds_submitFresh nameAttempts kept

theorem run_createClaimFor_ok {w after : World StampedStore ι} {claim : NodeClaim}
    (created : (o.createClaimFor request).run StampedStore.serve w = (.ok claim, after)) :
    o.Grown request w.store after.store [claim] := by
  have grown := (o.upholds_createClaimFor request (.refl w.store)).ended
  rw [created] at grown
  exact grown

/-- Along the creation of many claims no more are added than are asked for; if the creation succeeds
these are all of them, and it comes to their names. -/
theorem upholds_createMany (o : Orchestrator) (request : NodeRequest) (count : Nat)
    (created : List String) (w : World StampedStore ι) :
    (o.createMany request count created).Upholds StampedStore.serve
      (fun v _ => ∃ fresh, o.Grown request w.store v.store fresh ∧ fresh.length ≤ count)
      (fun result v => ∃ fresh, o.Grown request w.store v.store fresh ∧ fresh.length ≤ count ∧
        ∀ names, result = .ok names →
          names = created ++ fresh.map NodeClaim.name ∧ fresh.length = count) w := by
  induction count generalizing created w with
  | zero =>
      refine ⟨[], .of_same (.refl _), Nat.le_refl _, ?_⟩
      intro names ended
      cases ended
      exact ⟨(List.append_nil _).symm, rfl⟩
  | succ count ih =>
      have first : (o.createClaimFor request).Upholds StampedStore.serve
          (fun v _ => ∃ fresh, o.Grown request w.store v.store fresh ∧ fresh.length ≤ count + 1)
          (fun result v => o.Grown request w.store v.store result.toOption.toList) w :=
        (o.upholds_createClaimFor request (.refl w.store)).mono
          (fun _ _ same => ⟨[], .of_same same, Nat.zero_le _⟩) fun _ _ grown => grown
      unfold createMany
      -- Names made so far were bound when the next claim is made, so the steps compose.
      refine first.andThen ?_ ?_
      · intro failure v grown
        refine ⟨[], grown, Nat.zero_le _, ?_⟩
        intro names failed
        cases failed
      · intro claim v grown
        refine (ih (created ++ [claim.name]) v).mono ?_ ?_
        · rintro u _ ⟨later, further, bound⟩
          exact ⟨claim :: later, grown.trans further, Nat.succ_le_succ bound⟩
        · rintro result u ⟨later, further, bound, success⟩
          refine ⟨claim :: later, grown.trans further, Nat.succ_le_succ bound, ?_⟩
          intro names ended
          obtain ⟨listed, all⟩ := success names ended
          refine ⟨?_, congrArg (· + 1) all⟩
          rw [listed, List.append_assoc]
          rfl

end Orchestrator

end NodeSupply
