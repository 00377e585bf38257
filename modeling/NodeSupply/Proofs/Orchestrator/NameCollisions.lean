import Mathlib.Order.Nat
import NodeSupply.Proofs.Orchestrator.Submission

/-! Creating a claim under one fresh name after the other. An attempt that collides leaves the claims as
they are, so all attempts up to the first one that does not collide meet the same claims, and this one
decides what the creation comes to. -/

namespace NodeSupply

variable {σ ι : Type} [IdSource ι]

namespace IdSource

/-- The source behind a number of identifiers. -/
def skip (ids : ι) (count : Nat) : ι := (fun rest => (take rest).2)^[count] ids

def nth (ids : ι) (count : Nat) : String := (take (skip ids count)).1

theorem take_skip (ids : ι) (count : Nat) : (take (skip ids count)).2 = skip ids (count + 1) := by
  simp only [skip, Function.iterate_succ_apply']

end IdSource

namespace Program

/-- Whether a run comes to what another one comes to, after some calls of its own. -/
structure Proceeds {α : Type} (serve : Server σ) (p : Program α) (w : World σ ι) (calls : List Call)
    (q : Program α) (v : World σ ι) : Prop where
  run : p.run serve w = q.run serve v
  calls : p.calls serve w = calls ++ q.calls serve v

variable {α : Type} {serve : Server σ} {p q r : Program α} {w v u : World σ ι}

theorem Proceeds.refl : p.Proceeds serve w [] p w := ⟨rfl, rfl⟩

theorem Proceeds.trans {first second : List Call} (early : p.Proceeds serve w first q v)
    (late : q.Proceeds serve v second r u) : p.Proceeds serve w (first ++ second) r u := by
  refine ⟨early.run.trans late.run, ?_⟩
  rw [early.calls, late.calls, List.append_assoc]

theorem Proceeds.quiet_trans {later : List Call} (early : p.Proceeds serve w [] q v)
    (late : q.Proceeds serve v later r u) : p.Proceeds serve w later r u := early.trans late

theorem proceeds_bind {β : Type} {f : α → Program β} {a : α} (ran : p.run serve w = (a, v)) :
    (p.bind f).Proceeds serve w (p.calls serve w) (f a) v := by
  refine ⟨?_, ?_⟩
  · rw [run_bind, ran]
  · rw [calls_bind, ran]

end Program

namespace Store

variable {s : Store} {stamp : Stamp} {claim : NodeClaim}

/-- The store after a number of creations that stored nothing: fewer failures wait, and more calls are
counted. -/
def asked (s : Store) (attempts : Nat) : Store :=
  { s with
    failures := update s.failures .createNodeClaim ((s.failures .createNodeClaim).drop attempts)
    calls := update s.calls .createNodeClaim (s.calls .createNodeClaim + attempts) }

@[simp] theorem asked_waiting (s : Store) (attempts : Nat) :
    (s.asked attempts).failures .createNodeClaim =
      (s.failures .createNodeClaim).drop attempts := by
  simp [asked]

theorem asked_zero (s : Store) : s.asked 0 = s := by
  simp [asked, update_eq_self]

theorem asked_asked (s : Store) (first second : Nat) :
    (s.asked first).asked second = s.asked (first + second) := by
  simp [asked, Nat.add_assoc]

theorem perform_create_stopped {code : UInt16}
    (waits : (s.failures .createNodeClaim)[0]? = some code) :
    s.perform stamp (.createNodeClaim claim) =
      (.error (injected .createNodeClaim code), s.asked 1) := by
  rcases s.perform_cases stamp (.createNodeClaim claim) with
    ⟨other, later, queue, stopped⟩ | ⟨unstopped, -⟩
  · rw [Call.operation] at queue
    rw [queue] at waits
    cases waits
    simp [stopped, asked, queue, counted, Call.operation]
  · rw [Call.operation] at unstopped
    rw [unstopped] at waits
    cases waits

theorem perform_create_unstopped (waits : (s.failures .createNodeClaim)[0]? = none) :
    s.perform stamp (.createNodeClaim claim) = (s.asked 1).createNodeClaim stamp claim := by
  have unstopped : s.failures .createNodeClaim = [] := by
    rwa [← List.head?_eq_getElem?, List.head?_eq_none_iff] at waits
  have counted : s.counted .createNodeClaim = s.asked 1 := by
    simp [Store.counted, asked, unstopped, update_eq_self]
  rw [perform_served unstopped, Call.operation, counted]
  rfl

end Store

namespace NodeRequest

variable (request : NodeRequest)

/-- The name that a claim of the request gets at an attempt, counted from zero. -/
def freshName (ids : ι) (attempt : Nat) : String :=
  ClaimName.of request.owner.nameSpace request.owner.name (IdSource.nth ids attempt)

/-- Whether an attempt, counted from zero, fails because of its name: the failure that waits for it says
so, or none waits and there is a claim of that name. -/
def Collides (w : World StampedStore ι) (attempt : Nat) : Prop :=
  match (w.store.failures .createNodeClaim)[attempt]? with
  | some code => code = 409
  | none => w.store.claims.contains (request.freshName w.ids attempt) = true

def FirstFree (w : World StampedStore ι) (attempt : Nat) : Prop :=
  attempt < 5 ∧ ¬request.Collides w attempt ∧ ∀ k < attempt, request.Collides w k

variable {request} in
theorem FirstFree.unique {w : World StampedStore ι} {j k : Nat} (first : request.FirstFree w j)
    (second : request.FirstFree w k) : j = k := by
  rcases Nat.lt_trichotomy j k with below | same | above
  · exact (first.2.1 (second.2.2 j below)).elim
  · exact same
  · exact (second.2.1 (first.2.2 k above)).elim

theorem collide_or_firstFree (w : World StampedStore ι) :
    (∀ k < 5, request.Collides w k) ∨ ∃ attempt, request.FirstFree w attempt := by
  classical
  by_cases free : ∃ k, ¬request.Collides w k
  · have first := Nat.find_spec free
    rcases Nat.lt_or_ge (Nat.find free) 5 with early | late
    · exact .inr ⟨Nat.find free, early, first, fun k below => not_not.mp (Nat.find_min free below)⟩
    · refine .inl fun k below => not_not.mp (Nat.find_min free ?_)
      exact Nat.lt_of_lt_of_le below late
  · exact .inl fun k _ => not_not.mp (not_exists.mp free k)

end NodeRequest

namespace Orchestrator

variable (o : Orchestrator) (request : NodeRequest)

/-! ### One attempt -/

/-- The claim that an attempt submits, counted from zero. -/
def freshClaim (ids : ι) (attempt : Nat) : NodeClaim :=
  o.claimWithId request (IdSource.nth ids attempt)

/-- The world after an attempt that left a store behind. -/
def attempted (w : World StampedStore ι) (store : Store) : World StampedStore ι :=
  { w with
    cluster := { w.cluster with store, taken := w.cluster.taken + 1 }
    ids := (IdSource.take w.ids).2 }

/-- The world after an attempt that collided, and the pause behind it. -/
def collided (w : World StampedStore ι) : World StampedStore ι :=
  { attempted w (w.store.asked 1) with clock := World.pauseEnd w.clock nameRetryPause }

/-- How a creation goes on after an attempt, with some attempts left. -/
def afterAnswer (attempts : Nat) :
    Except ClusterFault NodeClaim → Program (Except Failure NodeClaim)
  | .ok stored => .done (.ok stored)
  | .error fault =>
    if fault.isConflict then
      (Program.pause nameRetryPause).bind fun _ => o.submitFresh request attempts
    else .done (.error (.cluster fault))

variable {o request} {w : World StampedStore ι}

theorem run_submit {claim : NodeClaim} {answer : Except ClusterFault NodeClaim} {after : Store}
    (performed : w.store.perform w.cluster.stamp (.createNodeClaim claim) = (answer, after)) :
    (submit claim).run StampedStore.serve w =
      (answer.mapError .cluster,
        { w with cluster := { w.cluster with store := after, taken := w.cluster.taken + 1 } }) := by
  have served : StampedStore.serve (.createNodeClaim claim) w.cluster =
      (answer, { w.cluster with store := after, taken := w.cluster.taken + 1 }) := by
    rw [StampedStore.serve, performed]
    rfl
  rw [submit, Program.run_bind, Program.run_call, served]
  cases answer <;> rfl

theorem proceeds_attempt (attempts : Nat) {answer : Except ClusterFault NodeClaim} {after : Store}
    (performed : w.store.perform w.cluster.stamp
      (.createNodeClaim (o.freshClaim request w.ids 0)) = (answer, after)) :
    (o.submitFresh request (attempts + 1)).Proceeds StampedStore.serve w
      [.createNodeClaim (o.freshClaim request w.ids 0)] (o.afterAnswer request attempts answer)
      (attempted w after) := by
  let named : World StampedStore ι := { w with ids := (IdSource.take w.ids).2 }
  have generated : (o.generateClaim request).run StampedStore.serve w =
      (o.freshClaim request w.ids 0, named) := rfl
  have submitted : (submit (o.freshClaim request w.ids 0)).run StampedStore.serve named =
      (answer.mapError .cluster, attempted w after) := run_submit performed
  rw [submitFresh]
  refine (Program.proceeds_bind generated).quiet_trans ?_
  rw [← calls_submit StampedStore.serve (o.freshClaim request w.ids 0) named]
  cases answer <;> exact Program.proceeds_bind submitted

/-- An attempt that collides leads to the attempts that are left. -/
theorem proceeds_collided (attempts : Nat) (collides : request.Collides w 0) :
    (o.submitFresh request (attempts + 1)).Proceeds StampedStore.serve w
      [.createNodeClaim (o.freshClaim request w.ids 0)]
      (o.submitFresh request attempts) (collided w) := by
  have refused : ∃ fault, fault.isConflict = true ∧ w.store.perform w.cluster.stamp
      (.createNodeClaim (o.freshClaim request w.ids 0)) = (.error fault, w.store.asked 1) := by
    unfold NodeRequest.Collides at collides
    split at collides
    · next code waits =>
      subst collides
      exact ⟨_, rfl, Store.perform_create_stopped waits⟩
    · next waits =>
      refine ⟨Store.alreadyExists "NodeClaim" (request.freshName w.ids 0), rfl, ?_⟩
      exact (Store.perform_create_unstopped waits).trans (if_pos collides)
  obtain ⟨fault, conflict, performed⟩ := refused
  have retries : o.afterAnswer request attempts (.error fault) =
      (Program.pause nameRetryPause).bind fun _ => o.submitFresh request attempts := if_pos conflict
  have paused : (Program.pause nameRetryPause).run StampedStore.serve
      (attempted w (w.store.asked 1)) = ((), collided w) := rfl
  have attempt := proceeds_attempt attempts performed
  exact (retries ▸ attempt).trans (Program.proceeds_bind paused)

/-- An attempt that a failure waits for, and that does not collide, is the last one. -/
theorem proceeds_refused (attempts : Nat) {code : UInt16}
    (waits : (w.store.failures .createNodeClaim)[0]? = some code) (other : ¬request.Collides w 0) :
    (o.submitFresh request (attempts + 1)).Proceeds StampedStore.serve w
      [.createNodeClaim (o.freshClaim request w.ids 0)]
      (.done (.error (.cluster (Store.injected .createNodeClaim code))))
      (attempted w (w.store.asked 1)) := by
  rw [NodeRequest.Collides, waits] at other
  have ends : o.afterAnswer request attempts (.error (Store.injected .createNodeClaim code)) =
      .done (.error (.cluster (Store.injected .createNodeClaim code))) := by
    refine if_neg ?_
    intro conflict
    exact other (Option.some.inj (of_decide_eq_true conflict))
  exact ends ▸ proceeds_attempt attempts (Store.perform_create_stopped waits)

/-- An attempt that does not collide, and that no failure waits for, stores its claim. -/
theorem proceeds_stored (attempts : Nat)
    (waits : (w.store.failures .createNodeClaim)[0]? = none) (free : ¬request.Collides w 0) :
    (o.submitFresh request (attempts + 1)).Proceeds StampedStore.serve w
      [.createNodeClaim (o.freshClaim request w.ids 0)]
      (.done (.ok (Store.stamped (o.freshClaim request w.ids 0) w.cluster.stamp)))
      (attempted w { w.store.asked 1 with
        claims := w.store.claims.insert (request.freshName w.ids 0)
          (Store.stamped (o.freshClaim request w.ids 0) w.cluster.stamp)
        scripts := w.store.launchScripts (request.freshName w.ids 0) }) := by
  rw [NodeRequest.Collides, waits] at free
  exact proceeds_attempt attempts ((Store.perform_create_unstopped waits).trans (if_neg free))

theorem collides_collided {attempt : Nat} :
    request.Collides (collided w) attempt ↔ request.Collides w (attempt + 1) := by
  have waiting : ((collided w).store.failures .createNodeClaim)[attempt]? =
      (w.store.failures .createNodeClaim)[attempt + 1]? := by
    change ((w.store.asked 1).failures .createNodeClaim)[attempt]? = _
    rw [Store.asked_waiting, List.getElem?_drop, Nat.add_comm]
  unfold NodeRequest.Collides
  rw [waiting]
  rfl

/-! ### All attempts -/

/-- Attempts that all collide lead to the attempts that are left. -/
theorem proceeds_collisions (attempts count : Nat) (collide : ∀ k < count, request.Collides w k) :
    (o.submitFresh request (attempts + count)).Proceeds StampedStore.serve w
      ((List.range count).map fun k => .createNodeClaim (o.freshClaim request w.ids k))
      (o.submitFresh request attempts) (collided^[count] w) := by
  induction count generalizing w with
  | zero => exact .refl
  | succ count ih =>
      -- Behind the first attempt the others meet the same claims, and are counted from one less.
      have first : (o.submitFresh request (attempts + count + 1)).Proceeds StampedStore.serve w _ _ _ :=
        proceeds_collided (attempts + count) (collide 0 (Nat.succ_pos count))
      have rest : ∀ k < count, request.Collides (collided w) k := by
        intro k below
        exact collides_collided.mpr (collide (k + 1) (Nat.succ_lt_succ below))
      have all := first.trans (ih rest)
      rw [List.range_succ_eq_map, List.map_cons, List.map_map]
      exact all

theorem store_iterate (count : Nat) (w : World StampedStore ι) :
    (collided^[count] w).store = w.store.asked count := by
  induction count with
  | zero => exact w.store.asked_zero.symm
  | succ count ih =>
      rw [Function.iterate_succ_apply', ← Store.asked_asked, ← ih]
      rfl

theorem ids_iterate (count : Nat) (w : World StampedStore ι) :
    (collided^[count] w).ids = IdSource.skip w.ids count := by
  induction count with
  | zero => rfl
  | succ count ih =>
      rw [Function.iterate_succ_apply', ← IdSource.take_skip, ← ih]
      rfl

theorem waiting_iterate (count : Nat) (w : World StampedStore ι) :
    ((collided^[count] w).store.failures .createNodeClaim)[0]? =
      (w.store.failures .createNodeClaim)[count]? := by
  rw [store_iterate, Store.asked_waiting, List.getElem?_drop, Nat.add_zero]

theorem collides_iterate {count attempt : Nat} :
    request.Collides (collided^[count] w) attempt ↔ request.Collides w (attempt + count) := by
  induction count generalizing w with
  | zero => rfl
  | succ count ih =>
      rw [Function.iterate_succ_apply, ih, collides_collided, Nat.add_assoc]

theorem freshClaim_iterate (count : Nat) (w : World StampedStore ι) :
    o.freshClaim request (collided^[count] w).ids 0 = o.freshClaim request w.ids count := by
  rw [ids_iterate]
  rfl

/-- Whether an attempt of a creation that begins in a world stores its claim, and nothing else happens to
claims. -/
def Stores (o : Orchestrator) (request : NodeRequest) (w : World StampedStore ι) (attempt : Nat)
    (result : Except Failure NodeClaim) (after : World StampedStore ι) : Prop :=
  let name := request.freshName w.ids attempt
  w.store.claims.get? name = none ∧
    ∃ stamp, result = .ok (Store.stamped (o.freshClaim request w.ids attempt) stamp) ∧
      after.store = { w.store.asked (attempt + 1) with
        claims := w.store.claims.insert name
          (Store.stamped (o.freshClaim request w.ids attempt) stamp)
        scripts := w.store.launchScripts name }

/-- What a creation comes to whose first attempt begins in a world. -/
structure Attempted (o : Orchestrator) (request : NodeRequest) (w : World StampedStore ι)
    (attempts : Nat) (result : Except Failure NodeClaim) (after : World StampedStore ι) : Prop where
  most : attempts ≤ 5
  ids : after.ids = IdSource.skip w.ids attempts
  /-- The creation gives up if all attempts collide. -/
  collided : (∀ k < 5, request.Collides w k) →
    attempts = 5 ∧ result = .error (.nameCollision 5)
  /-- The first attempt that does not collide is the last one. -/
  decided : ∀ k, request.FirstFree w k → attempts = k + 1
  refused : ∀ k code, request.FirstFree w k →
    (w.store.failures .createNodeClaim)[k]? = some code →
    result = .error (.cluster (Store.injected .createNodeClaim code))
  stored : ∀ k, request.FirstFree w k → (w.store.failures .createNodeClaim)[k]? = none →
    o.Stores request w k result after
  untouched : ∀ failure, result = .error failure → after.store = w.store.asked attempts

section Outcomes

variable {k : Nat} (first : request.FirstFree w k)

include first

theorem run_of_firstFree {result : Except Failure NodeClaim} {after : World StampedStore ι}
    (last : (o.submitFresh request (4 - k + 1)).Proceeds StampedStore.serve (collided^[k] w)
      [.createNodeClaim (o.freshClaim request (collided^[k] w).ids 0)] (.done result) after) :
    (o.submitFresh request nameAttempts).run StampedStore.serve w = (result, after) ∧
      (o.submitFresh request nameAttempts).calls StampedStore.serve w =
        (List.range (k + 1)).map fun j => .createNodeClaim (o.freshClaim request w.ids j) := by
  have early := first.1
  have all : nameAttempts = 4 - k + 1 + k := by
    rw [nameAttempts]
    omega
  have run := (proceeds_collisions (4 - k + 1) k first.2.2).trans last
  rw [all]
  refine ⟨run.run, run.calls.trans ?_⟩
  rw [Program.calls_done, List.append_nil, freshClaim_iterate, List.range_succ, List.map_append]
  rfl

theorem attempted_of_firstFree {result : Except Failure NodeClaim} {after : World StampedStore ι}
    (ids : after.ids = IdSource.skip w.ids (k + 1))
    (refused : ∀ code, (w.store.failures .createNodeClaim)[k]? = some code →
      result = .error (.cluster (Store.injected .createNodeClaim code)))
    (stored : (w.store.failures .createNodeClaim)[k]? = none → o.Stores request w k result after)
    (untouched : ∀ failure, result = .error failure → after.store = w.store.asked (k + 1)) :
    o.Attempted request w (k + 1) result after where
  most := first.1
  ids := ids
  collided := fun all => (first.2.1 (all k first.1)).elim
  decided := by
    intro j other
    rw [other.unique first]
  refused := by
    intro j code other waits
    exact refused code (other.unique first ▸ waits)
  stored := by
    intro j other none
    obtain rfl := other.unique first
    exact stored none
  untouched := untouched

end Outcomes

variable (o request) in
/-- Attempts under fresh names come to what the first of them decides that does not collide. -/
theorem run_submitFresh (w : World StampedStore ι) :
    ∃ attempts,
      o.Attempted request w attempts ((o.submitFresh request nameAttempts).run StampedStore.serve w).1
        ((o.submitFresh request nameAttempts).run StampedStore.serve w).2 ∧
      (o.submitFresh request nameAttempts).calls StampedStore.serve w =
        (List.range attempts).map fun k => .createNodeClaim (o.freshClaim request w.ids k) := by
  rcases request.collide_or_firstFree w with all | ⟨k, first⟩
  · have gaveUp := proceeds_collisions (o := o) 0 5 all
    have ran : (o.submitFresh request nameAttempts).run StampedStore.serve w =
        (.error (.nameCollision 5), collided^[5] w) := gaveUp.run
    refine ⟨5, ?_, gaveUp.calls.trans (List.append_nil _)⟩
    rw [ran]
    exact {
      most := Nat.le_refl 5
      ids := ids_iterate 5 w
      collided := fun _ => ⟨rfl, rfl⟩
      decided := fun k first => (first.2.1 (all k first.1)).elim
      refused := fun k _ first => (first.2.1 (all k first.1)).elim
      stored := fun k first => (first.2.1 (all k first.1)).elim
      untouched := fun _ _ => store_iterate 5 w }
  · have free : ¬request.Collides (collided^[k] w) 0 := by
      rw [collides_iterate, Nat.zero_add]
      exact first.2.1
    have waiting := waiting_iterate k w
    have ids : (IdSource.take (collided^[k] w).ids).2 = IdSource.skip w.ids (k + 1) := by
      rw [ids_iterate, IdSource.take_skip]
    have store : (collided^[k] w).store.asked 1 = w.store.asked (k + 1) := by
      rw [store_iterate, Store.asked_asked]
    cases waits : (w.store.failures .createNodeClaim)[k]? with
    | some code =>
        obtain ⟨ran, calls⟩ := run_of_firstFree first
          (proceeds_refused (4 - k) (waiting.trans waits) free)
        refine ⟨k + 1, ?_, calls⟩
        rw [ran]
        refine attempted_of_firstFree first ids ?_ ?_ fun _ _ => store
        · intro other same
          rw [Option.some.inj (waits.symm.trans same)]
        · intro none
          rw [waits] at none
          cases none
    | none =>
        obtain ⟨ran, calls⟩ := run_of_firstFree first
          (proceeds_stored (4 - k) (waiting.trans waits) free)
        refine ⟨k + 1, ?_, calls⟩
        rw [ran, freshClaim_iterate]
        refine attempted_of_firstFree first ids ?_ ?_ fun _ failed => nomatch failed
        · intro code some
          rw [waits] at some
          cases some
        · intro _
          have unbound := first.2.1
          rw [NodeRequest.Collides, waits] at unbound
          refine ⟨KeyMap.contains_eq_false_iff.mp (Bool.eq_false_iff.mpr unbound), _, rfl, ?_⟩
          simp only [attempted, store_iterate, ids_iterate, Store.asked_asked]
          rfl

/-! ### The preparation -/

/-- Whether a world has the identifiers, claims, scripts and waiting failures that attempts meet. -/
structure SameAttempts (w v : World StampedStore ι) : Prop where
  ids : v.ids = w.ids
  claims : v.store.claims = w.store.claims
  scripts : v.store.scripts = w.store.scripts
  waiting : v.store.failures .createNodeClaim = w.store.failures .createNodeClaim

omit [IdSource ι] in
theorem SameAttempts.call {w v : World StampedStore ι} (same : SameAttempts w v) {c : Call}
    (about : c.AboutNodeClass) :
    SameAttempts w { v with cluster := (StampedStore.serve c v.cluster).2 } where
  ids := same.ids
  claims := (Store.perform_of_leaves about.leaves).1.trans same.claims
  scripts := (Store.perform_of_leaves about.leaves).2.trans same.scripts
  waiting := by
    refine Eq.trans ?_ same.waiting
    change (v.store.perform v.cluster.stamp c).2.failures .createNodeClaim = _
    rw [Store.perform_failures, Store.update_of_ne about.not_creation.symm]

theorem run_prepare_sameAttempts (w : World StampedStore ι) :
    SameAttempts w (o.prepare.run StampedStore.serve w).2 := by
  have asked : ∀ (v : World StampedStore ι) (c : Call), c.AboutNodeClass → SameAttempts w v →
      (Program.call c).Upholds StampedStore.serve (fun _ _ => True)
        (fun _ u => SameAttempts w u) v :=
    fun _ _ about same => Program.upholds_call trivial (same.call about)
  have unchanged : SameAttempts w w := ⟨rfl, rfl, rfl, rfl⟩
  have ensured : o.ensureNodeClass.Upholds StampedStore.serve (fun _ _ => True)
      (fun _ v => SameAttempts w v) w := by
    unfold ensureNodeClass
    cases o.dialect.nodeClassKind? with
    | none => exact unchanged
    | some kind =>
        refine (asked w _ (.inl rfl) unchanged).bind ?_
        rintro (fault | _ | _) v same
        · exact same
        · dsimp only
          cases o.dialect.nodeClass o.config.nodeClassName with
          | error failure => exact same
          | ok manifest =>
              refine (asked v _ (.inr rfl) same).bind ?_
              rintro (fault | _) u same
              · dsimp only
                split <;> exact same
              · exact same
        · exact same
  unfold prepare
  split
  · exact ensured.ended
  · exact unchanged

variable (o request) in
/-- Creating a claim under fresh names, without node classes or after they were seen to. The attempts take
one identifier each and end with the first one that does not collide, or after five; what this attempt
comes to the creation comes to, and where it fails only failures and counts of calls have changed. -/
theorem createClaimFor_attempts (w : World StampedStore ι)
    (prepared : o.config.featureGates.ensureNodeClass = false ∨
      (o.ensureNodeClass.run StampedStore.serve w).1 = .ok ()) :
    let before := (o.prepare.run StampedStore.serve w).2
    SameAttempts w before ∧
    ∃ attempts,
      o.Attempted request before attempts ((o.createClaimFor request).run StampedStore.serve w).1
        ((o.createClaimFor request).run StampedStore.serve w).2 ∧
      (o.createClaimFor request).calls StampedStore.serve w =
        o.prepare.calls StampedStore.serve w ++
          (List.range attempts).map fun k => .createNodeClaim (o.freshClaim request w.ids k) := by
  intro before
  have same : SameAttempts w before := run_prepare_sameAttempts w
  have succeeded : (o.prepare.run StampedStore.serve w).1 = .ok () := by
    unfold prepare
    rcases prepared with off | ok
    · rw [off]
      rfl
    · split
      · exact ok
      · rfl
  obtain ⟨attempts, attempted, calls⟩ := o.run_submitFresh request before
  refine ⟨same, attempts, ?_, ?_⟩
  · rw [createClaimFor, Program.run_andThen, succeeded]
    exact attempted
  · rw [createClaimFor, Program.calls_andThen, succeeded, ← same.ids]
    exact congrArg _ calls

/-- The first name is refused by a failure that waits and the second is taken, so the third is the name
of the claim. -/
theorem createClaimFor_attempts_of_two_collisions :
    let o : Orchestrator := { dialect := .azure, config := { cloudProvider := .azure } }
    let request : NodeRequest := .new ⟨"phi", "ai"⟩ "Standard_NC24ads_A100_v4"
    let store := (({} : Store).insertNodeClaim (o.claimWithId request "1")).failNext
      .createNodeClaim 409
    let w : World StampedStore := { cluster := { store, nextStamp := ⟨0, 0⟩ }, ids := ⟨0⟩ }
    o.config.featureGates.ensureNodeClass = false ∧ request.FirstFree w 2 ∧
      ((o.createClaimFor request).run StampedStore.serve w).2.ids = ⟨3⟩ ∧
      ((o.createClaimFor request).calls StampedStore.serve w).length = 3 ∧
      ∃ stamp, ((o.createClaimFor request).run StampedStore.serve w).1 =
        .ok (Store.stamped (o.claimWithId request "2") stamp) := by
  intro o request store w
  have off : o.config.featureGates.ensureNodeClass = false := rfl
  have taken : w.store.claims.contains (request.freshName w.ids 1) = true := by decide +kernel
  have free : w.store.claims.contains (request.freshName w.ids 2) = false := by decide +kernel
  have first : request.FirstFree w 2 := by
    refine ⟨by decide, fun collides => Bool.eq_false_iff.mp free collides, fun k below => ?_⟩
    match k with
    | 0 => exact (rfl : (409 : UInt16) = 409)
    | 1 => exact taken
  obtain ⟨-, attempts, attempted, calls⟩ := o.createClaimFor_attempts request w (.inl off)
  have three : attempts = 3 := attempted.decided 2 first
  obtain ⟨-, stamp, stored, -⟩ := attempted.stored 2 first rfl
  have named : IdSource.nth w.ids 2 = "2" := by decide +kernel
  refine ⟨off, first, ?_, ?_, stamp, ?_⟩
  · rw [attempted.ids, three]
    rfl
  · rw [calls, three]
    rfl
  · rw [stored, ← named]
    rfl

end Orchestrator

end NodeSupply
