import NodeSupply.Proofs.KeyMap
import NodeSupply.Proofs.Program.Steps

/-! What one call does to a store in memory. A call that a queued failure stops leaves all objects as
they are; each of the others has one lemma that says what it can come back with and what it leaves
behind. A store that is only ever changed by its own operations keeps every claim under the name that
the claim itself carries. -/

namespace NodeSupply.Store

variable {s : Store} {stamp : Stamp} {c : Call}

/-- The store with one more call of an operation counted. -/
def counted (s : Store) (op : Operation) : Store :=
  { s with calls := update s.calls op (s.calls op + 1) }

/-- A call is either stopped by the first failure that is queued for it, or served. -/
theorem perform_cases (s : Store) (stamp : Stamp) (c : Call) :
    (∃ code later, s.failures c.operation = code :: later ∧
      s.perform stamp c = (.error (injected c.operation code),
        { s.counted c.operation with failures := update s.failures c.operation later })) ∨
    (s.failures c.operation = [] ∧
      s.perform stamp c = (s.counted c.operation).serve stamp c) := by
  cases queue : s.failures c.operation with
  | nil =>
      refine .inr ⟨rfl, ?_⟩
      simp only [perform, enter, queue, counted]
  | cons code later =>
      refine .inl ⟨code, later, rfl, ?_⟩
      simp only [perform, enter, queue, counted]

theorem perform_served (unstopped : s.failures c.operation = []) :
    s.perform stamp c = (s.counted c.operation).serve stamp c := by
  rcases perform_cases s stamp c with ⟨code, later, queue, -⟩ | ⟨-, served⟩
  · rw [unstopped] at queue
    cases queue
  · exact served

/-- A served call changes claims and scripts at most, or adds a node class. -/
theorem serve_cases (s : Store) (stamp : Stamp) (c : Call) :
    (∃ claims scripts, (s.serve stamp c).2 = { s with claims, scripts }) ∨
      ∃ kind name, (s.serve stamp c).2 = s.insertNodeClass kind name := by
  cases c with
  | getNodeClaim name =>
      simp only [serve, getNodeClaim]
      split <;> split <;> exact .inl ⟨_, _, rfl⟩
  | createNodeClaim claim =>
      simp only [serve, createNodeClaim]
      split <;> exact .inl ⟨_, _, rfl⟩
  | deleteNodeClaim name =>
      simp only [serve, deleteNodeClaim]
      split <;> exact .inl ⟨_, _, rfl⟩
  | createNodeClass manifest =>
      simp only [serve, createNodeClass]
      split
      · exact .inl ⟨_, _, rfl⟩
      · exact .inr ⟨_, _, rfl⟩
  | listNodeClaims selector => exact .inl ⟨_, _, rfl⟩
  | nodeClassExists kind name => exact .inl ⟨_, _, rfl⟩
  | listNodes selector => exact .inl ⟨_, _, rfl⟩

theorem serve_failures (s : Store) (stamp : Stamp) (c : Call) :
    (s.serve stamp c).2.failures = s.failures := by
  rcases serve_cases s stamp c with ⟨_, _, changed⟩ | ⟨kind, name, added⟩
  · rw [changed]
  · rw [added, insertNodeClass]
    split <;> rfl

/-- A call takes one failure from the queue of its operation, if there is one, and no other. -/
theorem perform_failures (s : Store) (stamp : Stamp) (c : Call) :
    (s.perform stamp c).2.failures = update s.failures c.operation (s.failures c.operation).tail := by
  rcases perform_cases s stamp c with ⟨code, later, queue, stopped⟩ | ⟨queue, served⟩
  · rw [stopped, queue]
    rfl
  · rw [served, serve_failures, queue]
    funext op
    simp only [update, counted, List.tail_nil]
    split
    · next same => rw [same, queue]
    · rfl

theorem update_of_ne {α : Type} {table : Operation → α} {op other : Operation} {value : α}
    (differ : other ≠ op) : update table op value other = table other := if_neg differ

@[simp] theorem update_at {α : Type} (table : Operation → α) (op : Operation) (value : α) :
    update table op value op = value := if_pos rfl

theorem update_eq_self {α : Type} {table : Operation → α} {op : Operation} {value : α}
    (same : table op = value) : update table op value = table := by
  funext other
  by_cases here : other = op
  · rw [here, update_at, same]
  · exact update_of_ne here

@[simp] theorem update_update {α : Type} (table : Operation → α) (op : Operation) (first second : α) :
    update (update table op first) op second = update table op second := by
  funext other
  simp only [update]
  split <;> rfl

/-! ### Claims -/

/-- The calls that leave the claims as they are. -/
def LeavesClaims : Call → Prop
  | .getNodeClaim _ | .createNodeClaim _ | .deleteNodeClaim _ => False
  | .listNodeClaims _ | .nodeClassExists _ _ | .createNodeClass _ | .listNodes _ => True

/-- Such a call leaves alone the scripts of the claims as well. -/
theorem perform_of_leaves (leaves : LeavesClaims c) :
    (s.perform stamp c).2.claims = s.claims ∧ (s.perform stamp c).2.scripts = s.scripts := by
  rcases perform_cases s stamp c with ⟨_, _, -, stopped⟩ | ⟨-, served⟩
  · rw [stopped]
    exact ⟨rfl, rfl⟩
  · rw [served]
    cases c with
    | getNodeClaim name => exact leaves.elim
    | createNodeClaim claim => exact leaves.elim
    | deleteNodeClaim name => exact leaves.elim
    | createNodeClass manifest =>
        simp only [serve, createNodeClass, insertNodeClass]
        split <;> exact ⟨rfl, rfl⟩
    | listNodeClaims selector => exact ⟨rfl, rfl⟩
    | nodeClassExists kind name => exact ⟨rfl, rfl⟩
    | listNodes selector => exact ⟨rfl, rfl⟩

theorem perform_claims_of_leaves (leaves : LeavesClaims c) :
    (s.perform stamp c).2.claims = s.claims := (perform_of_leaves leaves).1

theorem perform_list (s : Store) (stamp : Stamp) (selector : LabelSet) :
    (∃ fault, (s.perform stamp (.listNodeClaims selector)).1 = .error fault) ∨
      (s.perform stamp (.listNodeClaims selector)).1 = .ok (s.matchingClaims selector) := by
  rcases perform_cases s stamp (.listNodeClaims selector) with ⟨_, _, -, stopped⟩ | ⟨-, served⟩
  · exact .inl ⟨_, congrArg Prod.fst stopped⟩
  · exact .inr (congrArg Prod.fst served)

/-- A creation fails and leaves the claims as they are, or stores a claim under a new name. -/
theorem perform_create (s : Store) (stamp : Stamp) (claim : NodeClaim) :
    (∃ fault, (s.perform stamp (.createNodeClaim claim)).1 = .error fault ∧
      (s.perform stamp (.createNodeClaim claim)).2.claims = s.claims) ∨
    (s.claims.get? claim.name = none ∧
      (s.perform stamp (.createNodeClaim claim)).1 = .ok (stamped claim stamp) ∧
      (s.perform stamp (.createNodeClaim claim)).2.claims =
        s.claims.insert claim.name (stamped claim stamp)) := by
  rcases perform_cases s stamp (.createNodeClaim claim) with ⟨_, _, -, stopped⟩ | ⟨-, served⟩
  · rw [stopped]
    exact .inl ⟨_, rfl, rfl⟩
  · rw [served]
    cases taken : s.claims.contains claim.name with
    | true =>
        have stored : (s.counted .createNodeClaim).claims.contains claim.name = true := taken
        simp only [serve, createNodeClaim, Call.operation, stored, if_true]
        exact .inl ⟨_, rfl, rfl⟩
    | false =>
        have free : (s.counted .createNodeClaim).claims.contains claim.name = false := taken
        simp only [serve, createNodeClaim, Call.operation, free]
        exact .inr ⟨KeyMap.contains_eq_false_iff.mp taken, rfl, rfl⟩

/-- After a deletion that no failure stops there is no claim of that name, and if the deletion fails
there was none before. -/
theorem perform_delete_unstopped (unstopped : s.failures .deleteNodeClaim = []) (stamp : Stamp)
    (name : String) :
    (s.perform stamp (.deleteNodeClaim name)).2.claims = s.claims.erase name ∧
      ∀ fault, (s.perform stamp (.deleteNodeClaim name)).1 = .error fault →
        fault.isMissing = true := by
  rw [perform_served unstopped]
  cases bound : s.claims.contains name with
  | true =>
      have stored : (s.counted .deleteNodeClaim).claims.contains name = true := bound
      simp only [serve, deleteNodeClaim, Call.operation, stored, if_true]
      refine ⟨rfl, ?_⟩
      intro _ failed
      cases failed
  | false =>
      have missing : (s.counted .deleteNodeClaim).claims.contains name = false := bound
      simp only [serve, deleteNodeClaim, Call.operation, missing]
      refine ⟨(KeyMap.erase_of_unbound (KeyMap.contains_eq_false_iff.mp bound)).symm, ?_⟩
      intro fault failed
      rw [← Except.error.inj failed]
      rfl

/-- A deletion fails and leaves the claims as they are, or removes the claim of that name. -/
theorem perform_delete (s : Store) (stamp : Stamp) (name : String) :
    (∃ fault, (s.perform stamp (.deleteNodeClaim name)).1 = .error fault ∧
      (s.perform stamp (.deleteNodeClaim name)).2.claims = s.claims) ∨
    ((s.perform stamp (.deleteNodeClaim name)).1 = .ok () ∧
      (s.perform stamp (.deleteNodeClaim name)).2.claims = s.claims.erase name) := by
  rcases perform_cases s stamp (.deleteNodeClaim name) with ⟨_, _, -, stopped⟩ | ⟨-, served⟩
  · rw [stopped]
    exact .inl ⟨_, rfl, rfl⟩
  · rw [served]
    cases bound : s.claims.contains name with
    | true =>
        have stored : (s.counted .deleteNodeClaim).claims.contains name = true := bound
        simp only [serve, deleteNodeClaim, Call.operation, stored, if_true]
        exact .inr ⟨rfl, rfl⟩
    | false =>
        have missing : (s.counted .deleteNodeClaim).claims.contains name = false := bound
        simp only [serve, deleteNodeClaim, Call.operation, missing]
        exact .inl ⟨_, rfl, rfl⟩

/-- A look fails and leaves the claims as they are, or stores the claim of that name again, changed in
its conditions at most. -/
theorem perform_get (s : Store) (stamp : Stamp) (name : String) :
    (∃ fault, (s.perform stamp (.getNodeClaim name)).1 = .error fault ∧
      (s.perform stamp (.getNodeClaim name)).2.claims = s.claims) ∨
    (∃ claim, s.claims.get? name = some claim ∧
      (s.perform stamp (.getNodeClaim name)).1 = .ok claim ∧
      (s.perform stamp (.getNodeClaim name)).2.claims = s.claims) ∨
    (∃ claim conditions, s.claims.get? name = some claim ∧
      (s.perform stamp (.getNodeClaim name)).1 = .ok (claim.withConditions conditions) ∧
      (s.perform stamp (.getNodeClaim name)).2.claims =
        s.claims.insert name (claim.withConditions conditions)) := by
  rcases perform_cases s stamp (.getNodeClaim name) with ⟨_, _, -, stopped⟩ | ⟨-, served⟩
  · rw [stopped]
    exact .inl ⟨_, rfl, rfl⟩
  · rw [served]
    simp only [serve, getNodeClaim, Call.operation]
    cases bound : s.claims.get? name with
    | none =>
        have missing : (s.counted .getNodeClaim).claims.get? name = none := bound
        split <;> simp only [missing]
        · exact .inl ⟨_, rfl, rfl⟩
        · exact .inl ⟨_, rfl, rfl⟩
    | some claim =>
        have stored : (s.counted .getNodeClaim).claims.get? name = some claim := bound
        split
        · simp only [stored]
          exact .inr (.inl ⟨claim, rfl, rfl, rfl⟩)
        · next conditions later script =>
          simp only [stored]
          exact .inr (.inr ⟨claim, conditions, rfl, rfl, rfl⟩)

/-! ### Names -/

/-- Whether every claim is stored under its own name. -/
def Keyed (s : Store) : Prop := ∀ key claim, s.claims.get? key = some claim → claim.name = key

theorem stamped_name (claim : NodeClaim) (stamp : Stamp) :
    (stamped claim stamp).name = claim.name := rfl

theorem withConditions_name (claim : NodeClaim) (conditions : List Condition) :
    (claim.withConditions conditions).name = claim.name := rfl

theorem keyed_of_claims {s t : Store} (keyed : s.Keyed) (same : t.claims = s.claims) : t.Keyed := by
  intro key claim bound
  exact keyed key claim (same ▸ bound)

theorem keyed_of_insert {s t : Store} (keyed : s.Keyed) {key : String} {claim : NodeClaim}
    (named : claim.name = key) (inserted : t.claims = s.claims.insert key claim) : t.Keyed := by
  intro other found bound
  rw [inserted, KeyMap.get?_insert] at bound
  split at bound
  · next same =>
    rw [same, ← Option.some.inj bound]
    exact named
  · exact keyed other found bound

theorem keyed_of_erase {s t : Store} (keyed : s.Keyed) {key : String}
    (erased : t.claims = s.claims.erase key) : t.Keyed := by
  intro other found bound
  rw [erased, KeyMap.get?_erase] at bound
  split at bound
  · cases bound
  · exact keyed other found bound

/-- Every call keeps every claim under its own name. -/
theorem Keyed.perform (keyed : s.Keyed) (stamp : Stamp) (c : Call) :
    (s.perform stamp c).2.Keyed := by
  cases c with
  | getNodeClaim name =>
      rcases perform_get s stamp name with ⟨_, -, same⟩ | ⟨_, -, -, same⟩ |
        ⟨claim, conditions, bound, -, inserted⟩
      · exact keyed_of_claims keyed same
      · exact keyed_of_claims keyed same
      · exact keyed_of_insert keyed
          ((withConditions_name claim conditions).trans (keyed name claim bound)) inserted
  | createNodeClaim claim =>
      rcases perform_create s stamp claim with ⟨_, -, same⟩ | ⟨-, -, inserted⟩
      · exact keyed_of_claims keyed same
      · exact keyed_of_insert keyed (stamped_name claim stamp) inserted
  | deleteNodeClaim name =>
      rcases perform_delete s stamp name with ⟨_, -, same⟩ | ⟨-, erased⟩
      · exact keyed_of_claims keyed same
      · exact keyed_of_erase keyed erased
  | listNodeClaims selector => exact keyed_of_claims keyed (perform_claims_of_leaves trivial)
  | nodeClassExists kind name => exact keyed_of_claims keyed (perform_claims_of_leaves trivial)
  | createNodeClass manifest => exact keyed_of_claims keyed (perform_claims_of_leaves trivial)
  | listNodes selector => exact keyed_of_claims keyed (perform_claims_of_leaves trivial)

/-- The stores that are built up from an empty one by calls and by what is done between calls. -/
inductive Built : Store → Prop
  | empty : Built {}
  | setLaunchScript {s : Store} (script : Script) : Built s → Built (s.setLaunchScript script)
  | scriptConditions {s : Store} (name : String) (script : Script) :
      Built s → Built (s.scriptConditions name script)
  | setConditions {s : Store} (name : String) (conditions : List Condition) :
      Built s → Built (s.setConditions name conditions)
  | failNext {s : Store} (op : Operation) (code : UInt16) : Built s → Built (s.failNext op code)
  | insertNodeClaim {s : Store} (claim : NodeClaim) : Built s → Built (s.insertNodeClaim claim)
  | insertNodeClass {s : Store} (kind : NodeClassKind) (name : String) :
      Built s → Built (s.insertNodeClass kind name)
  | insertNode {s : Store} (node : Node) : Built s → Built (s.insertNode node)
  | perform {s : Store} (stamp : Stamp) (c : Call) : Built s → Built (s.perform stamp c).2

/-- In every store that its own operations can lead to, claims stand under their own names. -/
theorem Built.keyed (built : s.Built) : s.Keyed := by
  induction built with
  | empty =>
      intro key claim bound
      cases bound
  | setLaunchScript script _ ih => exact keyed_of_claims ih rfl
  | scriptConditions name script _ ih => exact keyed_of_claims ih rfl
  | setConditions name conditions _ ih =>
      rw [Store.setConditions]
      split
      · exact ih
      · next claim bound =>
        exact keyed_of_insert ih
          ((withConditions_name claim conditions).trans (ih name claim bound)) rfl
  | failNext op code _ ih => exact keyed_of_claims ih rfl
  | insertNodeClaim claim _ ih => exact keyed_of_insert ih rfl rfl
  | insertNodeClass kind name _ ih =>
      rw [Store.insertNodeClass]
      split
      · exact ih
      · exact keyed_of_claims ih rfl
  | insertNode node _ ih => exact keyed_of_claims ih rfl
  | perform stamp c _ ih => exact ih.perform stamp c

end NodeSupply.Store
