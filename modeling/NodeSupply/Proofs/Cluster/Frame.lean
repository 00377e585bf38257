import NodeSupply.Proofs.Cluster.Store

/-! What a call leaves alone. A call is about one name at most, and what is kept under other names stays
as it is; a creation under a name that is taken changes nothing either. Nodes are never changed, and
node classes only added. -/

namespace NodeSupply.Store

variable {s : Store} {stamp : Stamp} {c : Call}

/-! ### Claims and their scripts -/

/-- The name of the claim that a call is about. -/
def subject? : Call → Option String
  | .getNodeClaim name | .deleteNodeClaim name => some name
  | .createNodeClaim claim => some claim.name
  | .listNodeClaims _ | .nodeClassExists _ _ | .createNodeClass _ | .listNodes _ => none

/-- What two stores keep under a name: the claim, and the conditions that are still to come. -/
def AgreeAt (s t : Store) (name : String) : Prop :=
  t.claims.get? name = s.claims.get? name ∧ t.scripts.get? name = s.scripts.get? name

theorem serve_elsewhere {name : String} (elsewhere : subject? c ≠ some name) :
    s.AgreeAt (s.serve stamp c).2 name := by
  cases c with
  | getNodeClaim other =>
      have differ : name ≠ other := fun same => elsewhere (congrArg some same.symm)
      simp only [serve, getNodeClaim]
      split <;> split
      · exact ⟨rfl, rfl⟩
      · exact ⟨rfl, rfl⟩
      · exact ⟨rfl, KeyMap.get?_insert_of_ne _ _ differ⟩
      · exact ⟨KeyMap.get?_insert_of_ne _ _ differ, KeyMap.get?_insert_of_ne _ _ differ⟩
  | createNodeClaim claim =>
      have differ : name ≠ claim.name := fun same => elsewhere (congrArg some same.symm)
      simp only [serve, createNodeClaim]
      split
      · exact ⟨rfl, rfl⟩
      · refine ⟨KeyMap.get?_insert_of_ne _ _ differ, ?_⟩
        simp only [launchScripts]
        split
        · exact KeyMap.get?_insert_of_ne _ _ differ
        · rfl
  | deleteNodeClaim other =>
      have differ : name ≠ other := fun same => elsewhere (congrArg some same.symm)
      simp only [serve, deleteNodeClaim]
      split
      · exact ⟨KeyMap.get?_erase_of_ne _ differ, KeyMap.get?_erase_of_ne _ differ⟩
      · exact ⟨rfl, KeyMap.get?_erase_of_ne _ differ⟩
  | createNodeClass manifest =>
      simp only [serve, createNodeClass, insertNodeClass]
      split <;> exact ⟨rfl, rfl⟩
  | listNodeClaims selector => exact ⟨rfl, rfl⟩
  | nodeClassExists kind name => exact ⟨rfl, rfl⟩
  | listNodes selector => exact ⟨rfl, rfl⟩

/-- A call leaves alone what is kept under any name but the one it is about. -/
theorem perform_elsewhere {name : String} (elsewhere : subject? c ≠ some name) :
    s.AgreeAt (s.perform stamp c).2 name := by
  rcases perform_cases s stamp c with ⟨_, _, -, stopped⟩ | ⟨-, served⟩
  · rw [stopped]
    exact ⟨rfl, rfl⟩
  · rw [served]
    exact serve_elsewhere (s := s.counted c.operation) elsewhere

/-- A creation under a name that is taken changes nothing. -/
theorem perform_create_taken {claim other : NodeClaim}
    (taken : s.claims.get? claim.name = some other) (name : String) :
    s.AgreeAt (s.perform stamp (.createNodeClaim claim)).2 name := by
  rcases perform_cases s stamp (.createNodeClaim claim) with ⟨_, _, -, stopped⟩ | ⟨-, served⟩
  · rw [stopped]
    exact ⟨rfl, rfl⟩
  · have bound : (s.counted .createNodeClaim).claims.contains claim.name = true :=
      congrArg Option.isSome taken
    rw [served]
    simp only [serve, createNodeClaim, Call.operation, bound, if_true]
    exact ⟨rfl, rfl⟩

/-- Without a creation no name gets bound. -/
theorem perform_keeps_unbound {name : String} (unbound : s.claims.get? name = none)
    (noCreation : c.operation ≠ .createNodeClaim) (stamp : Stamp) :
    (s.perform stamp c).2.claims.get? name = none := by
  have kept : ∀ {t : Store}, t.claims = s.claims → t.claims.get? name = none :=
    fun same => same ▸ unbound
  cases c with
  | createNodeClaim claim => exact (noCreation rfl).elim
  | getNodeClaim other =>
      rcases perform_get s stamp other with ⟨_, -, same⟩ | ⟨_, -, -, same⟩ |
        ⟨claim, conditions, bound, -, inserted⟩
      · exact kept same
      · exact kept same
      · rw [inserted, KeyMap.get?_insert_of_ne, unbound]
        rintro rfl
        rw [unbound] at bound
        cases bound
  | deleteNodeClaim other =>
      rcases perform_delete s stamp other with ⟨_, -, same⟩ | ⟨-, erased⟩
      · exact kept same
      · rw [erased, KeyMap.get?_erase, unbound, ite_self]
  | listNodeClaims selector => exact kept (perform_claims_of_leaves trivial)
  | nodeClassExists kind other => exact kept (perform_claims_of_leaves trivial)
  | createNodeClass manifest => exact kept (perform_claims_of_leaves trivial)
  | listNodes selector => exact kept (perform_claims_of_leaves trivial)

/-! ### Nodes and node classes -/

theorem perform_nodes (s : Store) (stamp : Stamp) (c : Call) :
    (s.perform stamp c).2.nodes = s.nodes := by
  rcases perform_cases s stamp c with ⟨_, _, -, stopped⟩ | ⟨-, served⟩
  · rw [stopped]
    rfl
  · rw [served]
    rcases serve_cases (s.counted c.operation) stamp c with ⟨_, _, changed⟩ | ⟨kind, name, added⟩
    · rw [changed]
      rfl
    · rw [added, insertNodeClass]
      split <;> rfl

theorem hasNodeClass_insertNodeClass (s : Store) (kind : NodeClassKind) (name : String) :
    (s.insertNodeClass kind name).hasNodeClass kind name = true := by
  unfold insertNodeClass
  split
  · next present => exact present
  · simp only [hasNodeClass, List.contains_cons, beq_self_eq_true, Bool.true_or]

theorem insertNodeClass_keeps {kind other : NodeClassKind} {name label : String}
    (present : s.hasNodeClass other label = true) :
    (s.insertNodeClass kind name).hasNodeClass other label = true := by
  unfold insertNodeClass
  split
  · exact present
  · rw [hasNodeClass] at present ⊢
    rw [List.contains_cons, present, Bool.or_true]

/-- A node class that is there stays there. -/
theorem perform_keeps_nodeClass {kind : NodeClassKind} {name : String}
    (present : s.hasNodeClass kind name = true) (stamp : Stamp) (c : Call) :
    (s.perform stamp c).2.hasNodeClass kind name = true := by
  rcases perform_cases s stamp c with ⟨_, _, -, stopped⟩ | ⟨-, served⟩
  · rw [stopped]
    exact present
  · rw [served]
    rcases serve_cases (s.counted c.operation) stamp c with ⟨_, _, changed⟩ | ⟨_, _, added⟩
    · rw [changed]
      exact present
    · rw [added]
      exact insertNodeClass_keeps present

end NodeSupply.Store
