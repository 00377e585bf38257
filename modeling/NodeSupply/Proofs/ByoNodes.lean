import NodeSupply.ByoNodes
import NodeSupply.Proofs.Orchestrator.Listing

/-! How many nodes of its own a workload can count on. The nodes are looked up by preferred name, or
taken as they are listed; either way their number is that of the listed nodes that meet one condition,
so neither the order of the nodes nor that of the names matters. -/

namespace NodeSupply

variable {ι : Type} [IdSource ι]

namespace ByoNodes

/-! ### Preferred nodes -/

theorem mem_distinct_iff {seen names : List String} {name : String} :
    name ∈ distinct seen names ↔ name ∈ names ∧ name ∉ seen := by
  induction names generalizing seen with
  | nil => exact ⟨nofun, fun ⟨member, _⟩ => nomatch member⟩
  | cons first rest ih =>
      rw [distinct]
      split
      · next known =>
        rw [ih, List.mem_cons]
        refine and_congr_left fun new => ?_
        have differ : name ≠ first := fun same => new (same ▸ List.contains_iff_mem.mp known)
        exact (or_iff_right differ).symm
      · next unknown =>
        rw [List.mem_cons, ih, List.mem_cons, List.mem_cons]
        have new : first ∉ seen := fun member => unknown (List.contains_iff_mem.mpr member)
        by_cases same : name = first
        · simp only [same, true_or, new, not_false_eq_true, and_self]
        · simp only [same, false_or]

theorem nodup_distinct (seen names : List String) : (distinct seen names).Nodup := by
  induction names generalizing seen with
  | nil => exact List.nodup_nil
  | cons first rest ih =>
      rw [distinct]
      split
      · exact ih seen
      · refine List.nodup_cons.mpr ⟨?_, ih _⟩
        intro again
        exact (mem_distinct_iff.mp again).2 List.mem_cons_self

/-- Looking nodes up by name makes no node appear twice. -/
theorem filterMap_find?_names {nodes : List Node} {names : List String} :
    ((names.filterMap fun name => nodes.find? fun node => node.name = name).map
      Node.name).Sublist names := by
  induction names with
  | nil => exact .slnil
  | cons first rest ih =>
      rw [List.filterMap_cons]
      cases found : nodes.find? fun node => node.name = first with
      | none => exact ih.cons first
      | some node =>
          rw [List.map_cons, key_of_find? found]
          exact ih.cons_cons first

/-- The preferred nodes are, up to their order, the nodes with a preferred name. -/
theorem preferred_perm {nodes : List Node} (apart : (nodes.map Node.name).Nodup)
    (names : List String) :
    (preferred names nodes).Perm (nodes.filter fun node => names.contains node.name) := by
  have once : (preferred names nodes).Nodup :=
    .of_map _ ((nodup_distinct [] names).sublist filterMap_find?_names)
  have listed : (nodes.filter fun node => names.contains node.name).Nodup :=
    (apart.of_map).filter _
  -- Neither side repeats a node, so that only membership is left to compare.
  refine (List.perm_ext_iff_of_nodup once listed).mpr fun node => ?_
  simp only [preferred, List.mem_filterMap, mem_distinct_iff, find?_key_iff apart,
    List.mem_filter, List.contains_iff_mem, List.not_mem_nil, not_false_eq_true, and_true]
  constructor
  · rintro ⟨name, wanted, member, rfl⟩
    exact ⟨member, wanted⟩
  · rintro ⟨member, wanted⟩
    exact ⟨node.name, wanted, member, rfl⟩

/-! ### Counting -/

/-- Whether a node carries a request's labels, is ready and stays. -/
def isUsable (request : NodeRequest) (node : Node) : Bool :=
  LabelSet.matched node.labels request.labelSelector && node.isAvailable

/-- Whether a node is preferred, as every node is where none is named. -/
def isPreferred (request : NodeRequest) (node : Node) : Bool :=
  request.preferredNodeNames.isEmpty || request.preferredNodeNames.contains node.name

/-- The nodes of a store that a request can use, preferred or not. -/
def usableIn (s : Store) (request : NodeRequest) : Nat := s.nodes.countP (isUsable request)

/-- The nodes of a store that save a request a node of its own. -/
def reusable (s : Store) (request : NodeRequest) : Nat :=
  s.nodes.countP fun node => isUsable request node && isPreferred request node

theorem usable_length_of_disabled {gates : FeatureGates} (request : NodeRequest) (s : Store)
    (disabled : gates.disableNodeAutoProvisioning = true) :
    (usable gates request (s.matchingNodes request.labelSelector)).length = usableIn s request := by
  have any : usesPreferred gates request = false := by
    rw [usesPreferred, disabled]
    rfl
  simp only [usable, any, Bool.false_eq_true, if_false]
  rw [← List.countP_eq_length_filter, Store.matchingNodes, List.countP_filter, usableIn]
  refine List.countP_congr fun node _ => ?_
  rw [isUsable, Bool.and_comm]

theorem usable_length_of_enabled {gates : FeatureGates} (request : NodeRequest) {s : Store}
    (apart : (s.nodes.map Node.name).Nodup) (enabled : gates.disableNodeAutoProvisioning = false) :
    (usable gates request (s.matchingNodes request.labelSelector)).length = reusable s request := by
  have matching : ((s.matchingNodes request.labelSelector).map Node.name).Nodup :=
    apart.sublist (List.filter_sublist.map _)
  rw [usable, ← List.countP_eq_length_filter, reusable, usesPreferred, enabled, Bool.not_false,
    Bool.true_and]
  -- Where no name is given the matching nodes are taken as listed, else they are looked up by name.
  cases named : request.preferredNodeNames.isEmpty with
  | true =>
      rw [Bool.not_true, if_neg Bool.false_ne_true, Store.matchingNodes,
        List.countP_filter]
      refine List.countP_congr fun node _ => ?_
      rw [isUsable, isPreferred, named, Bool.true_or, Bool.and_true, Bool.and_comm]
  | false =>
      rw [Bool.not_false, if_pos rfl, (preferred_perm matching _).countP_eq, Store.matchingNodes,
        List.filter_filter, List.countP_filter]
      refine List.countP_congr fun node _ => ?_
      simp only [isUsable, isPreferred, named, Bool.false_or, Bool.and_assoc, Bool.and_comm]

theorem reusable_of_perm {s t : Store} (same : t.nodes.Perm s.nodes) (request : NodeRequest) :
    reusable t request = reusable s request := same.countP_eq _

/-- Only which names are preferred counts, not how often or in which order they are named. -/
theorem reusable_of_names (s : Store) (request : NodeRequest) {names : List String}
    (same : ∀ name, name ∈ names ↔ name ∈ request.preferredNodeNames) :
    reusable s (request.withPreferredNodes names) = reusable s request := by
  have contains : ∀ name, names.contains name = request.preferredNodeNames.contains name := by
    intro name
    rw [Bool.eq_iff_iff, List.contains_iff_mem, List.contains_iff_mem, same]
  have isEmpty : names.isEmpty = request.preferredNodeNames.isEmpty := by
    rw [Bool.eq_iff_iff, List.isEmpty_iff, List.isEmpty_iff, List.eq_nil_iff_forall_not_mem,
      List.eq_nil_iff_forall_not_mem]
    exact forall_congr' fun name => not_congr (same name)
  refine List.countP_congr fun node _ => ?_
  rw [isUsable, isUsable, isPreferred, isPreferred, NodeRequest.withPreferredNodes]
  dsimp only
  rw [contains, isEmpty]

/-- A node more is one reusable node more at most. -/
theorem reusable_of_added {s t : Store} {node : Node} (added : t.nodes.Perm (node :: s.nodes))
    (request : NodeRequest) :
    reusable s request ≤ reusable t request ∧ reusable t request ≤ reusable s request + 1 := by
  have count : reusable t request = reusable s request +
      if isUsable request node && isPreferred request node then 1 else 0 := by
    rw [reusable, added.countP_eq, List.countP_cons, reusable]
  split at count <;> omega

/-! ### Asking the cluster -/

/-- What a request still needs, as the cluster of a world has it. -/
def requirement (gates : FeatureGates) (request : NodeRequest) (w : World StampedStore ι) :
    Except Failure Nat :=
  ((requiredAdditional gates request).run StampedStore.serve w).1

/-- What a check of the capacity comes to on the cluster of a world. -/
def capacity (gates : FeatureGates) (request : NodeRequest) (w : World StampedStore ι) :
    Except Failure Nat :=
  ((verifyCapacity gates request).run StampedStore.serve w).1

section Unstopped

variable (gates : FeatureGates) (request : NodeRequest) {w : World StampedStore ι}
  (unstopped : w.store.failures .listNodes = [])

include unstopped

theorem run_available_of_unstopped :
    ((available gates request).run StampedStore.serve w).1 =
      .ok (usable gates request (w.store.matchingNodes request.labelSelector)) := by
  have served : w.store.perform w.cluster.stamp (.listNodes request.labelSelector) = _ :=
    Store.perform_served unstopped
  have listed : (StampedStore.serve (.listNodes request.labelSelector) w.cluster).1 =
      .ok (w.store.matchingNodes request.labelSelector) := congrArg Prod.fst served
  rw [available, Program.run_bind, Program.run_call, listed]
  rfl

theorem capacity_of_disabled (disabled : gates.disableNodeAutoProvisioning = true) :
    capacity gates request w =
      if usableIn w.store request < request.targetNodes.toNat then
        .error (.insufficientByoNodes request.targetNodes.toNat (usableIn w.store request))
      else .ok (usableIn w.store request) := by
  rw [capacity, verifyCapacity, Program.run_andThen, run_available_of_unstopped gates request unstopped]
  simp only [usable_length_of_disabled request w.store disabled, disabled, Bool.true_and,
    decide_eq_true_eq]
  split <;> rfl

variable (apart : (w.store.nodes.map Node.name).Nodup)

include apart

theorem capacity_of_enabled (enabled : gates.disableNodeAutoProvisioning = false) :
    capacity gates request w = .ok (reusable w.store request) := by
  rw [capacity, verifyCapacity, Program.run_andThen, run_available_of_unstopped gates request unstopped]
  simp only [usable_length_of_enabled request apart enabled, enabled, Bool.false_and,
    Bool.false_eq_true, if_false]
  rfl

theorem requirement_eq :
    requirement gates request w =
      .ok (if gates.disableNodeAutoProvisioning then 0
        else request.targetNodes.toNat - reusable w.store request) := by
  rw [requirement, requiredAdditional]
  split
  · rfl
  · next enabled =>
    rw [Program.run_mapOk, run_available_of_unstopped gates request unstopped]
    exact congrArg (fun count => Except.ok (request.targetNodes.toNat - count))
      (usable_length_of_enabled request apart (Bool.eq_false_iff.mpr enabled))

end Unstopped

/-- The accounting of nodes that are there already. Without provisioning nothing is required, and the
usable nodes must do; with it, the requirement is the target less the nodes that can be reused. So
the requirement depends neither on the order of the nodes nor on how the preferred names are listed,
and one more node lowers it by one at most. -/
theorem requirement_and_capacity (gates : FeatureGates) (request : NodeRequest)
    {w : World StampedStore ι} (apart : (w.store.nodes.map Node.name).Nodup)
    (unstopped : w.store.failures .listNodes = []) :
    (gates.disableNodeAutoProvisioning = true →
      requirement gates request w = .ok 0 ∧
      (requiredAdditional gates request).calls StampedStore.serve w = [] ∧
      (capacity gates request w = .error (.insufficientByoNodes request.targetNodes.toNat
        (usableIn w.store request)) ↔ usableIn w.store request < request.targetNodes.toNat) ∧
      (request.targetNodes.toNat ≤ usableIn w.store request →
        capacity gates request w = .ok (usableIn w.store request))) ∧
    (gates.disableNodeAutoProvisioning = false →
      capacity gates request w = .ok (reusable w.store request) ∧
      requirement gates request w =
        .ok (request.targetNodes.toNat - reusable w.store request)) ∧
    (∀ v : World StampedStore ι, v.store.failures .listNodes = [] →
      v.store.nodes.Perm w.store.nodes → requirement gates request v = requirement gates request w) ∧
    (∀ names, (∀ name, name ∈ names ↔ name ∈ request.preferredNodeNames) →
      requirement gates (request.withPreferredNodes names) w =
        requirement gates request w) ∧
    ∀ (v : World StampedStore ι) (node : Node), v.store.failures .listNodes = [] →
      node.name ∉ w.store.nodes.map Node.name → v.store.nodes.Perm (node :: w.store.nodes) →
      ∃ before after, requirement gates request w = .ok before ∧
        requirement gates request v = .ok after ∧ after ≤ before ∧ before ≤ after + 1 := by
  have required := requirement_eq gates request unstopped apart
  refine ⟨?_, ?_, ?_, ?_, ?_⟩
  · intro disabled
    have verdict := capacity_of_disabled gates request unstopped disabled
    refine ⟨?_, ?_, ?_, ?_⟩
    · rw [required, if_pos disabled]
    · rw [requiredAdditional, if_pos disabled]
      rfl
    · rw [verdict]
      split
      · next few => exact iff_of_true rfl few
      · next enough => exact iff_of_false nofun enough
    · intro enough
      rw [verdict, if_neg (Nat.not_lt.mpr enough)]
  · intro enabled
    refine ⟨capacity_of_enabled gates request unstopped apart enabled, ?_⟩
    rw [required, if_neg (Bool.eq_false_iff.mp enabled)]
  · intro v unstoppedThere same
    have apartThere := (same.map Node.name).nodup_iff.mpr apart
    rw [required, requirement_eq gates request unstoppedThere apartThere, reusable_of_perm same]
  · intro names same
    rw [required, requirement_eq gates _ unstopped apart, reusable_of_names w.store request same]
    rfl
  · intro v node unstoppedThere new added
    have apartThere : (v.store.nodes.map Node.name).Nodup := by
      rw [(added.map Node.name).nodup_iff, List.map_cons]
      exact List.nodup_cons.mpr ⟨new, apart⟩
    obtain ⟨least, most⟩ := reusable_of_added added request
    refine ⟨_, _, required, requirement_eq gates request unstoppedThere apartThere, ?_⟩
    split <;> omega

/-- Of three nodes, two of them ready, a request for three prefers one that is ready, twice, one that is
not, and one that does not exist. -/
theorem requirement_and_capacity_of_three :
    let request : NodeRequest :=
      { owner := ⟨"phi", "ai"⟩, instanceType := "Standard_NC12s_v3", hasProfile := true
        targetNodeCount := some 3, preferredNodeNames := ["b", "a", "a", "z"] }
    let store : Store :=
      { nodes := [.simple "a" .empty true, .simple "b" .empty false, .simple "c" .empty true] }
    let more : Store := store.insertNode (.simple "z" .empty true)
    let world (store : Store) : World StampedStore :=
      { cluster := { store, nextStamp := ⟨0, 0⟩ }, ids := ⟨0⟩ }
    requirement {} request (world store) = .ok 2 ∧
      requirement {} (request.withPreferredNodes ["z", "a", "b"]) (world store) = .ok 2 ∧
      (∃ after, requirement {} request (world more) = .ok after ∧ after ≤ 2 ∧ 2 ≤ after + 1) ∧
      capacity {} request (world store) = .ok 1 ∧
      capacity { disableNodeAutoProvisioning := true } request (world store) =
        .error (.insufficientByoNodes 3 2) := by
  intro request store more world
  have apart : ((world store).store.nodes.map Node.name).Nodup := by decide +kernel
  have enabled := requirement_and_capacity {} request apart rfl
  have disabled :=
    requirement_and_capacity { disableNodeAutoProvisioning := true } request apart rfl
  have counted : reusable (world store).store request = 1 := by decide +kernel
  have usable : usableIn (world store).store request = 2 := by decide +kernel
  obtain ⟨checked, needed⟩ := enabled.2.1 rfl
  obtain ⟨before, after, first, second, bounds⟩ :=
    enabled.2.2.2.2 (world more) (.simple "z" .empty true) rfl (by decide +kernel)
      (List.perm_append_singleton _ _)
  rw [counted] at checked needed
  obtain rfl : before = 2 := Except.ok.inj (first.symm.trans needed)
  have sameNames : ∀ name, name ∈ ["z", "a", "b"] ↔ name ∈ request.preferredNodeNames := by
    intro name
    constructor
    · simp only [List.mem_cons, List.not_mem_nil, or_false]
      rintro (rfl | rfl | rfl) <;> decide
    · simp only [request, List.mem_cons, List.not_mem_nil, or_false]
      rintro (rfl | rfl | rfl | rfl) <;> decide
  have short := (disabled.1 rfl).2.2.1
  rw [usable] at short
  exact ⟨needed, (enabled.2.2.2.1 _ sameNames).trans needed, ⟨after, second, bounds⟩, checked,
    short.mpr (by decide)⟩

end ByoNodes

end NodeSupply
