import NodeSupply.Proofs.Orchestrator.Sessions
import NodeSupply.Proofs.Orchestrator.Waiting
import NodeSupply.Proofs.Scaling.Convergence

/-! Three operations judge a workload's claims: a wait by whether a claim is ready, a sync by how many
there are, and the published readiness by both. They agree: a sync has nothing to do exactly if the
count is right, and claims that were all waited for are up, however the waits were ordered. -/

namespace NodeSupply

variable {ι : Type} [IdSource ι]

/-- Whatever else is reported on a claim, it has its node once it is ready. -/
theorem NodeClaim.isProvisioned_of_isReady {claim : NodeClaim} (ready : claim.isReady = true) :
    claim.isProvisioned = true := by
  unfold isReady hasCondition at ready
  unfold isProvisioned
  cases found : claim.condition? "Ready" with
  | none =>
      rw [found] at ready
      cases ready
  | some condition =>
      rw [found] at ready
      exact ready

/-! ### Counting -/

namespace Orchestrator

variable (o : Orchestrator) (request : NodeRequest) (required : UInt32)

theorem readiness_counted_iff {claims : List NodeClaim} {required : Nat} :
    (∀ current needed, readiness claims required ≠ .countMismatch current needed) ↔
      claims.length = required := by
  unfold readiness
  split
  · next differ => exact ⟨fun counted => (counted _ _ rfl).elim, fun same => (differ same).elim⟩
  · next same =>
    refine ⟨fun _ => not_not.mp same, fun _ current needed => ?_⟩
    split <;> nofun

theorem readiness_of_provisioned {claims : List NodeClaim} {required : Nat}
    (counted : claims.length = required)
    (provisioned : ∀ claim ∈ claims, claim.isProvisioned = true) :
    readiness claims required = .ready required := by
  have noneLeft : claims.find? (fun claim => !claim.isProvisioned) = none := by
    rw [List.find?_eq_none]
    intro claim member
    rw [provisioned claim member]
    exact Bool.false_ne_true
  rw [readiness, if_neg (not_not.mpr counted), noneLeft, counted]

section Unstopped

variable {w : World StampedStore ι} (unstopped : w.store.failures .listNodeClaims = [])

include unstopped

theorem run_claimsReady_of_unstopped :
    ((o.claimsReady request required).run StampedStore.serve w).1 =
      .ok (readiness (w.store.owned request.owner) required.toNat) := by
  rw [claimsReady, Program.run_mapOk, o.run_listClaims_of_unstopped _ unstopped]
  rfl

/-- A sync of claims that are as many as required leaves them all. -/
theorem run_syncClaims_of_counted
    (counted : (w.store.owned request.owner).length = required.toNat) :
    ((o.syncClaims request required).run StampedStore.serve w).1 =
      .ok { existing := required.toNat } := by
  rw [syncClaims, Program.run_andThen, o.run_listClaims_of_unstopped _ unstopped]
  dsimp only
  have noVictims : victims (w.store.owned request.owner) required.toNat = [] := by
    rw [← List.length_eq_zero_iff, victims_length, counted, Nat.sub_self]
  rw [if_neg (Nat.not_lt.mpr (Nat.le_of_eq counted.symm)), noVictims, counted]
  rfl

/-- A sync has nothing to create and nothing to delete exactly if the count is right. -/
theorem syncClaims_idle_iff :
    (∃ sync, ((o.syncClaims request required).run StampedStore.serve w).1 = .ok sync ∧
      sync.created = [] ∧ sync.deleted = []) ↔
      (w.store.owned request.owner).length = required.toNat := by
  constructor
  · rintro ⟨sync, done, noneCreated, noneDeleted⟩
    rw [syncClaims, Program.run_andThen, o.run_listClaims_of_unstopped _ unstopped] at done
    dsimp only at done
    split at done
    · next few =>
      have grown := (o.upholds_createMany request
        (required.toNat - (w.store.owned request.owner).length) []
        ((o.listClaims request.owner).run StampedStore.serve w).2).ended
      obtain ⟨names, named, rfl⟩ := Program.ok_of_mapOk done
      obtain ⟨fresh, -, -, all⟩ := grown
      obtain ⟨created, missing⟩ := all names named
      have none : fresh.length = 0 := by
        rw [List.nil_append, show names = [] from noneCreated] at created
        exact List.length_eq_zero_iff.mpr (List.map_eq_nil_iff.mp created.symm)
      omega
    · next enough =>
      obtain ⟨_, -, rfl⟩ := Program.ok_of_mapOk done
      have surplus := victims_length (w.store.owned request.owner) required.toNat
      rw [List.map_eq_nil_iff.mp noneDeleted, List.length_nil] at surplus
      omega
  · intro counted
    exact ⟨_, o.run_syncClaims_of_counted request required unstopped counted, rfl, rfl⟩

end Unstopped

end Orchestrator

/-! ### What a wait leaves -/

namespace Store

variable {s t : Store} {owner : WorkloadRef}

/-- What is kept of each claim besides what it asks for and what is reported on it, by its name. -/
def metadata (s : Store) : KeyMap Metadata := s.claims.mapValues NodeClaim.metadata

/-- Whether the claim of a name is there and ready. -/
def IsUp (s : Store) (name : String) : Prop :=
  ∃ claim, s.claims.get? name = some claim ∧ claim.isReady = true

theorem metadata_of_claims (same : t.claims = s.claims) : t.metadata = s.metadata :=
  congrArg (KeyMap.mapValues NodeClaim.metadata) same

theorem get?_of_metadata (same : t.metadata = s.metadata) {name : String} {claim : NodeClaim}
    (bound : t.claims.get? name = some claim) :
    ∃ before, s.claims.get? name = some before ∧ before.metadata = claim.metadata := by
  have kept : t.metadata.get? name = some claim.metadata := by
    rw [metadata, KeyMap.get?_mapValues, bound]
    rfl
  rw [same, metadata, KeyMap.get?_mapValues] at kept
  exact Option.map_eq_some_iff.mp kept

theorem keyed_of_metadata (keyed : s.Keyed) (same : t.metadata = s.metadata) : t.Keyed := by
  intro key claim bound
  obtain ⟨before, stored, kept⟩ := get?_of_metadata same bound
  rw [← keyed key before stored, NodeClaim.name, NodeClaim.name, kept]

/-- Who owns a claim is decided by its labels, so equal metadata means equally many claims. -/
theorem owned_length_of_metadata (same : t.metadata = s.metadata) :
    (t.owned owner).length = (s.owned owner).length := by
  have counts : ∀ u : Store, (u.owned owner).length =
      u.metadata.values.countP fun m => LabelSet.matched m.labels owner.ownerLabels := by
    intro u
    rw [owned_length, metadata, KeyMap.values_mapValues, List.countP_map]
    rfl
  rw [counts, counts, same]

theorem perform_get_metadata (s : Store) (stamp : Stamp) (name : String) :
    (s.perform stamp (.getNodeClaim name)).2.metadata = s.metadata := by
  rcases perform_get s stamp name with ⟨_, -, same⟩ | ⟨_, -, -, same⟩ |
    ⟨claim, conditions, bound, -, inserted⟩
  · exact metadata_of_claims same
  · exact metadata_of_claims same
  · refine KeyMap.ext_get? fun key => ?_
    rw [metadata, metadata, KeyMap.get?_mapValues, KeyMap.get?_mapValues, inserted,
      KeyMap.get?_insert]
    split
    · next same =>
      rw [same, bound]
      rfl
    · rfl

/-- The claim that a look comes back with is stored as it came. -/
theorem perform_get_found (s : Store) (stamp : Stamp) {name : String} {claim : NodeClaim}
    (found : (s.perform stamp (.getNodeClaim name)).1 = .ok claim) :
    (s.perform stamp (.getNodeClaim name)).2.claims.get? name = some claim := by
  rcases perform_get s stamp name with ⟨_, failed, -⟩ | ⟨stored, bound, answer, same⟩ |
    ⟨stored, conditions, -, answer, inserted⟩
  · rw [failed] at found
    cases found
  · rw [answer] at found
    rw [same, bound, Except.ok.inj found]
  · rw [answer] at found
    rw [inserted, KeyMap.get?_insert_self, Except.ok.inj found]

end Store

namespace Orchestrator

open Store

/-- Only of a claim that is ready the verdict is a success. -/
theorem ready_of_verdict {name : String} {found claim : NodeClaim}
    (success : verdict? name found = some (.ok claim)) : found = claim ∧ claim.isReady = true := by
  rw [verdict?] at success
  split at success
  · next ready =>
    cases success
    exact ⟨rfl, ready⟩
  · obtain ⟨_, -, failed⟩ := Option.map_eq_some_iff.mp success
    cases failed

theorem upholds_lookUntil_found (o : Orchestrator) (name : String) (deadline looks : Nat)
    (w : World StampedStore ι) :
    (o.lookUntil name deadline looks).Upholds StampedStore.serve (fun _ _ => True)
      (fun result v => ∀ claim, result = .ok claim →
        v.store.claims.get? name = some claim ∧ claim.isReady = true) w := by
  induction looks generalizing w with
  | zero =>
      intro claim found
      cases found
  | succ looks ih =>
      have look : ∀ v : World StampedStore ι,
          (Program.call (.getNodeClaim name)).Upholds StampedStore.serve (fun _ _ => True)
            (fun answer u => ∀ claim, answer = .ok claim →
              u.store.claims.get? name = some claim) v := by
        intro v
        refine Program.upholds_call trivial ?_
        intro claim found
        exact v.store.perform_get_found v.cluster.stamp found
      have quiet : ∀ (e : Effect) (v : World StampedStore ι),
          (Program.perform e).Upholds StampedStore.serve (fun _ _ => True) (fun _ _ => True) v :=
        fun _ v => (Program.upholds_iff _ v).mpr ⟨fun _ _ => trivial, trivial⟩
      have stopped : ∀ (failure : Failure) (claim : NodeClaim), .error failure ≠ Except.ok claim := by
        intro failure claim failed
        cases failed
      -- Only a verdict ends in a claim, and no call comes between the look it is about and the end.
      unfold lookUntil
      refine (quiet _ w).bind ?_
      rintro (_ | cause) v -
      · refine (look v).bind ?_
        rintro (fault | found) v stored
        · exact fun claim failed => (stopped _ claim failed).elim
        · dsimp only
          split
          · next result settled =>
            intro claim success
            obtain ⟨rfl, ready⟩ := ready_of_verdict (success ▸ settled)
            exact ⟨stored found rfl, ready⟩
          · refine (quiet _ v).bind ?_
            rintro (_ | cause) v -
            · exact ih v
            · exact fun claim failed => (stopped _ claim failed).elim
      · exact fun claim failed => (stopped _ claim failed).elim

/-- A wait changes no claim's metadata and, if it succeeds, leaves the claim that it was for up beside
all that were up before. -/
theorem run_waitForReady_up (o : Orchestrator) {name : String} {w : World StampedStore ι}
    {claim : NodeClaim} (success : ((o.waitForReady name).run StampedStore.serve w).1 = .ok claim) :
    ((o.waitForReady name).run StampedStore.serve w).2.store.metadata = w.store.metadata ∧
      ∀ other, other = name ∨ w.store.IsUp other →
        ((o.waitForReady name).run StampedStore.serve w).2.store.IsUp other := by
  have makes := o.makes_waitForReady name
  have found := (o.upholds_lookUntil_found name (w.clock + o.config.wait.deadline.nanos)
    (mostLooks o.config.wait) w).ended claim success
  refine ⟨?_, ?_⟩
  · have keeps : (o.waitForReady name).Upholds StampedStore.serve
        (fun v _ => v.store.metadata = w.store.metadata)
        (fun _ v => v.store.metadata = w.store.metadata) w := by
      refine makes.upholds ?_ rfl
      intro v e looks kept
      refine World.perform_keeps (fun t => t.metadata = w.store.metadata) ?_ kept
      intro c asked stamp
      rw [looks c asked, perform_get_metadata, kept]
    exact keeps.ended
  · intro other up
    -- The claim itself is up by the last look at it; looks at it leave all other claims alone.
    by_cases awaited : other = name
    · exact ⟨claim, awaited ▸ found⟩
    · have keeps : (o.waitForReady name).Upholds StampedStore.serve
          (fun v _ => v.store.IsUp other) (fun _ v => v.store.IsUp other) w := by
        refine makes.upholds ?_ (up.resolve_left awaited)
        intro v e looks kept
        refine World.perform_keeps (fun t => t.IsUp other) ?_ kept
        intro c asked stamp
        obtain ⟨stored, bound, ready⟩ := kept
        have elsewhere : subject? c ≠ some other := by
          rw [looks c asked]
          exact fun same => awaited (Option.some.inj same).symm
        exact ⟨stored, (perform_elsewhere elsewhere).1.trans bound, ready⟩
      exact keeps.ended

/-! ### Waits one after the other -/

/-- Whether a turn is a wait for a claim that succeeds. -/
def Turn.Awaits (turn : Turn) (name : String) : Prop :=
  turn.action = .waitForReady name ∧ (turn.program.run StampedStore.serve turn.world).1 = .ok ()

theorem Turn.Awaits.up {turn : Turn} {name : String} (awaits : turn.Awaits name) :
    turn.after.metadata = turn.world.store.metadata ∧
      ∀ other, other = name ∨ turn.world.store.IsUp other → turn.after.IsUp other := by
  obtain ⟨waits, success⟩ := awaits
  unfold Turn.after
  rw [Turn.program, waits, Action.program] at success ⊢
  obtain ⟨claim, found, -⟩ := Program.ok_of_mapOk success
  rw [Program.run_mapOk]
  exact turn.orchestrator.run_waitForReady_up found

/-- After successful waits in any order, the claims that were waited for are up, and no claim has
changed its metadata. -/
theorem Session.up_of_waits {s : Store} {turns : List Turn} (session : Session s turns)
    (waits : ∀ turn ∈ turns, ∃ name, turn.Awaits name) :
    (endStore s turns).metadata = s.metadata ∧
      ∀ name, s.IsUp name ∨ (∃ turn ∈ turns, turn.Awaits name) → (endStore s turns).IsUp name := by
  induction session with
  | nil s =>
      refine ⟨rfl, ?_⟩
      rintro name (up | ⟨_, member, -⟩)
      · exact up
      · cases member
  | @cons s turn rest waiting begins continues ih =>
      -- The first wait leaves its claim up, and the waits behind it keep it so.
      obtain ⟨awaited, awaits⟩ := waits turn List.mem_cons_self
      obtain ⟨keptFirst, upFirst⟩ := awaits.up
      rw [begins] at keptFirst upFirst
      obtain ⟨keptRest, upRest⟩ := ih fun later member => waits later (List.mem_cons_of_mem _ member)
      refine ⟨keptRest.trans keptFirst, ?_⟩
      rintro name (up | ⟨some, member, named⟩)
      · exact upRest name (.inl (upFirst name (.inr up)))
      · rcases List.mem_cons.mp member with rfl | later
        · obtain rfl : awaited = name := by
            have same := awaits.1.symm.trans named.1
            injection same
          exact upRest awaited (.inl (upFirst awaited (.inl rfl)))
        · exact upRest name (.inr ⟨some, later, named⟩)

theorem Session.owned_ready_of_waits {s : Store} {turns : List Turn} {owner : WorkloadRef}
    (session : Session s turns) (keyed : s.Keyed)
    (waits : ∀ turn ∈ turns, ∃ name, turn.Awaits name)
    (all : ∀ claim ∈ s.owned owner, ∃ turn ∈ turns, turn.Awaits claim.name) :
    ∀ claim ∈ (endStore s turns).owned owner, claim.isReady = true := by
  obtain ⟨kept, up⟩ := session.up_of_waits waits
  intro claim member
  have bound := (keyed_of_metadata keyed kept).get?_of_mem_owned member
  obtain ⟨before, stored, same⟩ := get?_of_metadata kept bound
  have owned : before ∈ s.owned owner := by
    refine mem_owned_iff.mpr ⟨⟨_, stored⟩, ?_⟩
    rw [NodeClaim.isOwnedBy, NodeClaim.labels, same]
    exact (mem_owned_iff.mp member).2
  obtain ⟨found, there, ready⟩ := up before.name (.inr (all before owned))
  have named : before.name = claim.name := by rw [NodeClaim.name, NodeClaim.name, same]
  rw [named, bound] at there
  exact Option.some.inj there ▸ ready

/-- The three judgements agree. On any state, a sync that has nothing to do and a readiness that
complains of no count are the same. And once successful waits have seen each of a workload's claims,
in any order and with nothing in between, the workload is ready with that many claims, a sync to that
many only lists them, and the published condition is met. -/
theorem count_sync_and_readiness_agree (o : Orchestrator) (request : NodeRequest) (required : UInt32)
    {w : World StampedStore ι} (unstopped : w.store.failures .listNodeClaims = []) :
    ((∃ sync, ((o.syncClaims request required).run StampedStore.serve w).1 = .ok sync ∧
        sync.created = [] ∧ sync.deleted = []) ↔
      ∃ readiness, ((o.claimsReady request required).run StampedStore.serve w).1 = .ok readiness ∧
        ∀ current needed, readiness ≠ .countMismatch current needed) ∧
    ∀ (s : Store) (turns : List Turn), s.Built → Session s turns →
      (∀ turn ∈ turns, ∃ name, turn.Awaits name) →
      (∀ claim ∈ s.owned request.owner, ∃ turn ∈ turns, turn.Awaits claim.name) →
      w.store.claims = (endStore s turns).claims →
      required.toNat = (s.owned request.owner).length →
      ((o.claimsReady request required).run StampedStore.serve w).1 = .ok (.ready required.toNat) ∧
        ((o.syncClaims request required).run StampedStore.serve w).1 =
          .ok { existing := required.toNat } ∧
        (∀ c ∈ (o.syncClaims request required).calls StampedStore.serve w,
          c = .listNodeClaims request.owner.ownerLabels) ∧
        ∀ byoNodes,
          (ProvisioningCondition.ofReadiness byoNodes (.ready required.toNat)).ready = true := by
  have judged := o.run_claimsReady_of_unstopped request required unstopped
  refine ⟨?_, ?_⟩
  · rw [o.syncClaims_idle_iff request required unstopped, judged, ← readiness_counted_iff]
    simp only [Except.ok.injEq, exists_eq_left']
  · intro s turns built session waits all same many
    have counted : (w.store.owned request.owner).length = required.toNat := by
      rw [owned_congr same, owned_length_of_metadata (session.up_of_waits waits).1, many]
    have provisioned : ∀ claim ∈ w.store.owned request.owner, claim.isProvisioned = true := by
      intro claim member
      rw [owned_congr same] at member
      exact NodeClaim.isProvisioned_of_isReady
        (session.owned_ready_of_waits built.keyed waits all claim member)
    have fewLive : (w.store.live request.owner).length ≤ required.toNat :=
      counted ▸ w.store.live_le_owned request.owner
    refine ⟨?_, o.run_syncClaims_of_counted request required unstopped counted, ?_, fun _ => rfl⟩
    · rw [judged, readiness_of_provisioned counted provisioned]
    · rw [o.calls_syncClaims_of_settled request required (Nat.le_of_eq counted.symm) fewLive]
      exact (o.makes_listClaims request.owner).calls w

/-- Two claims that get ready at the second look, waited for against the order of their names. -/
theorem count_sync_and_readiness_agree_on_two :
    let request : NodeRequest := { owner := ⟨"phi", "ai"⟩, instanceType := "Standard_NC12s_v3" }
    let claim (name : String) : NodeClaim :=
      { metadata := { name := some name, labels := some request.owner.ownerLabels }, spec := {} }
    let script : Script := [[], [{ type := "Ready", status := "True" }]]
    let o : Orchestrator := { dialect := .azure, config := { cloudProvider := .azure } }
    let s := (((Store.insertNodeClaim {} (claim "c")).insertNodeClaim (claim "d")).scriptConditions
      "c" script).scriptConditions "d" script
    let world (store : Store) : World StampedStore :=
      { cluster := { store, nextStamp := ⟨0, 0⟩ }, ids := ⟨0⟩ }
    let first : Turn :=
      { orchestrator := o, action := .waitForReady "d", world := world s }
    let second : Turn :=
      { orchestrator := o, action := .waitForReady "c", world := world first.after }
    let w := world second.after
    Session s [first, second] ∧ first.Awaits "d" ∧ second.Awaits "c" ∧
      s.owned request.owner = [claim "c", claim "d"] ∧
      ((o.claimsReady request 2).run StampedStore.serve w).1 = .ok (.ready 2) ∧
      ((o.syncClaims request 2).run StampedStore.serve w).1 = .ok { existing := 2 } := by
  intro request claim script o s world first second w
  have built : s.Built :=
    .scriptConditions _ _ (.scriptConditions _ _ (.insertNodeClaim _ (.insertNodeClaim _ .empty)))
  have session : Session s [first, second] := .next rfl (.next rfl (.nil _))
  have last : first.Awaits "d" := ⟨rfl, by decide +kernel⟩
  have next : second.Awaits "c" := ⟨rfl, by decide +kernel⟩
  have owned : s.owned request.owner = [claim "c", claim "d"] := by decide +kernel
  have agree := count_sync_and_readiness_agree o request 2 (w := w) (by decide +kernel)
  have waits : ∀ turn ∈ [first, second], ∃ name, turn.Awaits name := by
    simp only [List.mem_cons, List.not_mem_nil, or_false, forall_eq_or_imp, forall_eq]
    exact ⟨⟨"d", last⟩, "c", next⟩
  have all : ∀ claim ∈ s.owned request.owner, ∃ turn ∈ [first, second], turn.Awaits claim.name := by
    rw [owned]
    simp only [List.mem_cons, List.not_mem_nil, or_false, forall_eq_or_imp, forall_eq, exists_eq_or_imp,
      exists_eq_left]
    exact ⟨.inr next, .inl last⟩
  obtain ⟨up, idle, -⟩ := agree.2 s [first, second] built session waits all rfl
    (congrArg List.length owned).symm
  exact ⟨session, last, next, owned, up, idle⟩

end Orchestrator

end NodeSupply
