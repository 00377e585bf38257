import NodeSupply.Proofs.ByoNodes

/-! Which nodes of its own a workload can use, and in which order. Preferred nodes come as their names
stand first among the preferred ones, and of several nodes with one name only the first is looked at,
whether it can be used or not. -/

namespace NodeSupply

variable {ι : Type} [IdSource ι]

namespace Node

/-- A node can be used if no one deletes it and it reports that it is ready. -/
theorem isAvailable_iff {node : Node} :
    node.isAvailable = true ↔
      node.metadata.deletionTimestamp = none ∧ ⟨"Ready", "True"⟩ ∈ node.conditions := by
  rw [isAvailable, Bool.and_eq_true, Option.isNone_iff_eq_none, List.any_eq_true]
  refine and_congr_right fun _ => ?_
  constructor
  · rintro ⟨⟨type, status⟩, member, holds⟩
    rw [Bool.and_eq_true, decide_eq_true_eq, decide_eq_true_eq] at holds
    obtain ⟨rfl, rfl⟩ := holds
    exact member
  · intro member
    exact ⟨_, member, rfl⟩

end Node

namespace ByoNodes

/-! ### Names in the order of their first occurrence -/

theorem distinct_eq (seen names : List String) :
    distinct seen names = (names.filter fun name => !seen.contains name).eraseDups := by
  induction names generalizing seen with
  | nil => rfl
  | cons first rest ih =>
      rw [distinct]
      cases known : seen.contains first with
      | true =>
          rw [if_pos rfl, ih, List.filter_cons_of_neg]
          rw [known]
          exact Bool.false_ne_true
      | false =>
          rw [if_neg Bool.false_ne_true, ih, List.filter_cons_of_pos, List.eraseDups_cons,
            List.filter_filter]
          · congr 3
            funext name
            rw [List.contains_cons, Bool.not_or]
          · rw [known]
            rfl

theorem distinct_nil_eq (names : List String) : distinct [] names = names.eraseDups := by
  rw [distinct_eq]
  exact congrArg List.eraseDups (List.filter_eq_self.mpr fun _ _ => rfl)

theorem distinct_ordered (seen names : List String) :
    (distinct seen names).Pairwise fun a b => names.idxOf a < names.idxOf b := by
  induction names generalizing seen with
  | nil => exact .nil
  | cons first rest ih =>
      -- Behind the first name all names are one place later than they are in the rest.
      have later : ∀ seen, first ∈ seen →
          (distinct seen rest).Pairwise fun a b =>
            (first :: rest).idxOf a < (first :: rest).idxOf b := by
        intro seen known
        have differ : ∀ name ∈ distinct seen rest, first ≠ name := by
          rintro name member rfl
          exact (mem_distinct_iff.mp member).2 known
        refine (ih seen).imp_of_mem ?_
        intro a b first second before
        rw [List.idxOf_cons_ne _ (differ a first), List.idxOf_cons_ne _ (differ b second)]
        exact Nat.succ_lt_succ before
      rw [distinct]
      split
      · next known => exact later seen (List.contains_iff_mem.mp known)
      · refine List.pairwise_cons.mpr ⟨?_, later _ List.mem_cons_self⟩
        intro name member
        have differ : first ≠ name := by
          rintro rfl
          exact (mem_distinct_iff.mp member).2 List.mem_cons_self
        rw [List.idxOf_cons_self, List.idxOf_cons_ne _ differ]
        exact Nat.succ_pos _

/-! ### The nodes that are used -/

variable {gates : FeatureGates} {request : NodeRequest}

theorem usesPreferred_iff :
    usesPreferred gates request = true ↔
      gates.disableNodeAutoProvisioning = false ∧ request.preferredNodeNames ≠ [] := by
  simp [usesPreferred]

theorem usable_of_preferred (uses : usesPreferred gates request = true) (nodes : List Node) :
    usable gates request nodes =
      request.preferredNodeNames.eraseDups.filterMap fun name =>
        (nodes.find? fun node => node.name = name).filter Node.isAvailable := by
  rw [usable, if_pos uses, preferred, distinct_nil_eq, List.filter_filterMap]

theorem usable_of_listed (uses : ¬ usesPreferred gates request = true) (nodes : List Node) :
    usable gates request nodes = nodes.filter Node.isAvailable := by
  rw [usable, if_neg uses]

/-- The names of used preferred nodes are among the distinct preferred names, in their order. -/
theorem names_sublist_of_preferred (uses : usesPreferred gates request = true)
    (nodes : List Node) :
    ((usable gates request nodes).map Node.name).Sublist
      (distinct [] request.preferredNodeNames) := by
  rw [usable, if_pos uses]
  exact (List.filter_sublist.map _).trans filterMap_find?_names

theorem mem_of_mem_usable {nodes : List Node} {node : Node}
    (used : node ∈ usable gates request nodes) : node ∈ nodes ∧ node.isAvailable = true := by
  rw [usable] at used
  obtain ⟨candidate, available⟩ := List.mem_filter.mp used
  refine ⟨?_, available⟩
  split at candidate
  · obtain ⟨name, -, found⟩ := List.mem_filterMap.mp candidate
    exact List.mem_of_find?_eq_some found
  · exact candidate

/-- The nodes that a request can use, exactly. Where claims are created and names are preferred, each
distinct name in the order of first occurrence stands for the first matching node that has it, if that
node is available; else all available matching nodes are used as they are listed. -/
theorem available_eq (gates : FeatureGates) (request : NodeRequest) {w : World StampedStore ι}
    (unstopped : w.store.failures .listNodes = []) :
    let names := request.preferredNodeNames
    let listed := w.store.nodes.filter fun node =>
      LabelSet.matched node.labels request.labelSelector
    ∃ found, ((available gates request).run StampedStore.serve w).1 = .ok found ∧
      (gates.disableNodeAutoProvisioning = false → names ≠ [] →
        found = (names.eraseDups.filterMap fun name =>
          (listed.find? fun node => node.name = name).filter Node.isAvailable) ∧
        (found.map Node.name).Nodup ∧
        (found.map Node.name).Pairwise fun a b => names.idxOf a < names.idxOf b) ∧
      (gates.disableNodeAutoProvisioning = true ∨ names = [] →
        found = listed.filter Node.isAvailable) ∧
      ∀ node ∈ found,
        node ∈ w.store.nodes ∧
        (node.metadata.deletionTimestamp = none ∧ ⟨"Ready", "True"⟩ ∈ node.conditions) ∧
        ∀ key value, request.labelSelector.get? key = some value →
          (node.labels.bind fun l => l.get? key) = some value := by
  intro names listed
  refine ⟨usable gates request listed, run_available_of_unstopped gates request unstopped,
    ?_, ?_, ?_⟩
  · intro enabled named
    have uses := usesPreferred_iff.mpr ⟨enabled, named⟩
    have ordered := names_sublist_of_preferred uses listed
    exact ⟨usable_of_preferred uses listed, (nodup_distinct [] names).sublist ordered,
      (distinct_ordered [] names).sublist ordered⟩
  · intro unnamed
    refine usable_of_listed ?_ listed
    rw [usesPreferred_iff]
    rintro ⟨enabled, named⟩
    rcases unnamed with disabled | none
    · rw [enabled] at disabled
      cases disabled
    · exact named none
  · intro node used
    obtain ⟨member, available⟩ := mem_of_mem_usable used
    obtain ⟨stored, matched⟩ := List.mem_filter.mp member
    exact ⟨stored, Node.isAvailable_iff.mp available, LabelSet.matched_iff.mp matched⟩

/-- Two nodes are called `b`, of which the first is not ready, one has no name, and one lacks the label.
The names are preferred twice, in vain or not at all. -/
theorem available_eq_of_namesakes :
    let pool : LabelSet := .ofList [("pool", "gpu")]
    let nameless : Node := { Node.simple "" pool true with metadata := { labels := some pool } }
    let request : NodeRequest :=
      { owner := ⟨"phi", "ai"⟩, instanceType := "Standard_NC12s_v3", labelSelector := pool
        preferredNodeNames := ["c", "b", "", "c", "z", "d", "a"] }
    let store : Store :=
      { nodes := [.simple "a" pool true, .simple "b" pool false, .simple "b" pool true, nameless,
          .simple "c" pool true, .simple "d" .empty true] }
    let w : World StampedStore := { cluster := { store, nextStamp := ⟨0, 0⟩ }, ids := ⟨0⟩ }
    w.store.failures .listNodes = [] ∧
      ((available {} request).run StampedStore.serve w).1 =
        .ok [.simple "c" pool true, nameless, .simple "a" pool true] ∧
      ((available { disableNodeAutoProvisioning := true } request).run StampedStore.serve w).1 =
        .ok [.simple "a" pool true, .simple "b" pool true, nameless, .simple "c" pool true] := by
  intro pool nameless request store w
  have unstopped : w.store.failures .listNodes = [] := rfl
  obtain ⟨found, ran, preferred, -⟩ := available_eq {} request unstopped
  obtain ⟨all, ranDisabled, -, listed, -⟩ :=
    available_eq { disableNodeAutoProvisioning := true } request unstopped
  refine ⟨unstopped, ?_, ?_⟩
  · rw [ran, (preferred rfl (by decide)).1]
    decide +kernel
  · rw [ranDisabled, listed (.inl rfl)]
    decide +kernel

end ByoNodes

end NodeSupply
