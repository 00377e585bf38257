import NodeSupply.Proofs.Cluster.Frame
import NodeSupply.Proofs.Orchestrator.Listing

/-! Operations one after the other. What each of them keeps, up to an exception or without one, the
whole sequence keeps, at every world that it passes through. -/

namespace NodeSupply

namespace Orchestrator

/-- What an orchestrator can be told to do. -/
inductive Action where
  | createClaim (claim : NodeClaim)
  | createClaimFor (request : NodeRequest)
  | waitForReady (name : String)
  | listClaims (owner : WorkloadRef)
  | existingClaims (request : NodeRequest)
  | waitForPending (request : NodeRequest)
  | deleteClaim (name : String)
  | syncClaims (request : NodeRequest) (required : UInt32)
  | claimsReady (request : NodeRequest) (required : UInt32)

/-- An action as a program that keeps of its result whether it failed. -/
def Action.program (o : Orchestrator) : Action → Program (Except Failure Unit)
  | .createClaim claim => (o.createClaim claim).mapOk fun _ => ()
  | .createClaimFor request => (o.createClaimFor request).mapOk fun _ => ()
  | .waitForReady name => (o.waitForReady name).mapOk fun _ => ()
  | .listClaims owner => (o.listClaims owner).mapOk fun _ => ()
  | .existingClaims request => (o.existingClaims request).mapOk fun _ => ()
  | .waitForPending request => o.waitForPending request
  | .deleteClaim name => Orchestrator.deleteClaim name
  | .syncClaims request required => (o.syncClaims request required).mapOk fun _ => ()
  | .claimsReady request required => (o.claimsReady request required).mapOk fun _ => ()

/-- An action that an orchestrator is told to take, with the world in which it begins. Each may have a
source of identifiers of its own kind. -/
structure Turn where
  {ids : Type}
  [source : IdSource ids]
  orchestrator : Orchestrator
  action : Action
  world : World StampedStore ids

attribute [instance] Turn.source

namespace Turn

variable (turn : Turn)

def program : Program (Except Failure Unit) := turn.action.program turn.orchestrator

/-- The effects that the turn asks for, each with the store at that step. -/
def steps : List (Store × Effect) :=
  (turn.program.steps StampedStore.serve turn.world).map fun step => (step.1.store, step.2)

def calls : List Call := turn.program.calls StampedStore.serve turn.world

/-- The stores that the turn passes through, the first and the last included. -/
def stores : List Store := (turn.program.worlds StampedStore.serve turn.world).map World.store

/-- The store that the turn leaves behind. -/
def after : Store := (turn.program.run StampedStore.serve turn.world).2.store

theorem stores_getLast : turn.stores[turn.steps.length]? = some turn.after := by
  rw [stores, steps, Program.worlds, List.length_map, List.getElem?_map,
    List.getElem?_append_right (by simp)]
  simp [after]

end Turn

/-- Turns that are taken one after the other, the first of them on a store. Between two of them
everything may change but the objects: the clock, the identifiers and stamps to come, cancellation and
the failures that wait. -/
inductive Session : Store → List Turn → Prop
  | nil (s : Store) : Session s []
  | cons {s : Store} {turn : Turn} {rest : List Turn} (waiting : Operation → List UInt16) :
      turn.world.store = { s with failures := waiting } → Session turn.after rest →
      Session s (turn :: rest)

/-- The store that turns leave behind. -/
def endStore (s : Store) (turns : List Turn) : Store := turns.foldl (fun _ turn => turn.after) s

namespace Session

variable {s : Store} {turns : List Turn} (holds : Store → Prop)

/-- A turn can begin in the very store that the one before left behind. -/
theorem next {turn : Turn} {rest : List Turn} (begins : turn.world.store = s)
    (continues : Session turn.after rest) : Session s (turn :: rest) :=
  .cons s.failures begins continues

/-- What every turn keeps up to a step that stops this is kept by a session up to the first such
step. -/
theorem upholds_until (stop : Store → Effect → Prop) (session : Session s turns)
    (start : holds s) (indifferent : ∀ t waiting, holds t → holds { t with failures := waiting })
    (kept : ∀ turn ∈ turns, holds turn.world.store →
      turn.program.UpholdsUntil StampedStore.serve (fun v e => stop v.store e)
        (fun v _ => holds v.store) (fun _ v => holds v.store) turn.world)
    {earlier later : List Turn} {turn : Turn} (split : turns = earlier ++ turn :: later)
    (k : Nat) {t : Store} (reached : turn.stores[k]? = some t) :
    holds t ∨ ∃ step ∈ earlier.flatMap Turn.steps ++ turn.steps.take k, stop step.1 step.2 := by
  induction session generalizing earlier with
  | nil s => cases earlier <;> cases split
  | @cons s first rest waiting begins continues ih =>
      have upheld := kept first List.mem_cons_self (begins ▸ indifferent s waiting start)
      have within : ∀ (k : Nat) {t : Store}, first.stores[k]? = some t →
          holds t ∨ ∃ step ∈ first.steps.take k, stop step.1 step.2 := by
        intro k t reached
        rw [Turn.stores, List.getElem?_map] at reached
        obtain ⟨v, passed, rfl⟩ := Option.map_eq_some_iff.mp reached
        refine (upheld.worlds k passed).imp id ?_
        rintro ⟨step, stepped, stops⟩
        refine ⟨(step.1.store, step.2), ?_, stops⟩
        rw [Turn.steps, ← List.map_take]
        exact List.mem_map.mpr ⟨step, stepped, rfl⟩
      cases earlier with
      | nil =>
          cases split
          exact within k reached
      | cons head earlier =>
          cases split
          rw [List.flatMap_cons, List.append_assoc]
          rcases within _ first.stores_getLast with safe | ⟨step, stepped, stops⟩
          · refine (ih safe (fun turn member => kept turn (List.mem_cons_of_mem _ member)) rfl).imp
              id ?_
            rintro ⟨step, stepped, stops⟩
            exact ⟨step, List.mem_append_right _ stepped, stops⟩
          · exact .inr ⟨step, List.mem_append_left _ (List.mem_of_mem_take stepped), stops⟩

/-- What every turn keeps, a session keeps. -/
theorem upholds (session : Session s turns) (start : holds s)
    (indifferent : ∀ t waiting, holds t → holds { t with failures := waiting })
    (kept : ∀ turn ∈ turns, holds turn.world.store →
      turn.program.Upholds StampedStore.serve (fun v _ => holds v.store)
        (fun _ v => holds v.store) turn.world) :
    ∀ turn ∈ turns, ∀ t ∈ turn.stores, holds t := by
  intro turn member t reached
  obtain ⟨earlier, later, split⟩ := List.append_of_mem member
  obtain ⟨k, at_k⟩ := List.getElem?_of_mem reached
  have unstopped : ∀ turn ∈ turns, holds turn.world.store →
      turn.program.UpholdsUntil StampedStore.serve (fun _ _ => False) (fun v _ => holds v.store)
        (fun _ v => holds v.store) turn.world :=
    fun turn member before => (kept turn member before).until
  have outcome := session.upholds_until holds (fun _ _ => False) start indifferent unstopped
    split k at_k
  rcases outcome with safe | ⟨_, -, never⟩
  · exact safe
  · exact never.elim

/-- Where no turn asks for a claim, no name gets bound. -/
theorem unbound_of_no_creation (session : Session s turns)
    (noCreation : ∀ turn ∈ turns, ∀ c ∈ turn.calls, c.operation ≠ .createNodeClaim) {name : String}
    (unbound : s.claims.get? name = none) :
    ∀ turn ∈ turns, ∀ t ∈ turn.stores, t.claims.get? name = none := by
  refine session.upholds (fun t => t.claims.get? name = none) unbound
    (fun _ _ before => before) ?_
  intro turn member before
  refine Program.upholds_of_calls (noCreation turn member) ?_ before
  intro v e other unbound
  exact World.perform_keeps (fun t => t.claims.get? name = none)
    (fun c asked stamp => Store.perform_keeps_unbound unbound (other c asked) stamp) unbound

end Session

end Orchestrator

end NodeSupply
