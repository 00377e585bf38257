import NodeSupply.Proofs.Cluster.Store

/-! What a call that fails leaves behind. Claims, nodes and node classes stay as they are, and so do the
scripts of all claims that are there. A look and a deletion take from the script of their name before
they see whether there is a claim of that name, so a script that waits for its claim can lose
conditions, or be lost. -/

namespace NodeSupply.Store

variable {s : Store} {stamp : Stamp} {c : Call} {fault : ClusterFault}

/-- The fault with which a call is refused that no queued failure stops, if it is. -/
def refusal? (s : Store) : Call → Option ClusterFault
  | .getNodeClaim name | .deleteNodeClaim name =>
    if s.claims.contains name then none else some (notFound "NodeClaim" name)
  | .createNodeClaim claim =>
    if s.claims.contains claim.name then some (alreadyExists "NodeClaim" claim.name) else none
  | .createNodeClass manifest =>
    if s.hasNodeClass manifest.kind manifest.name then
      some (alreadyExists manifest.kind.kind manifest.name)
    else none
  | .listNodeClaims _ | .nodeClassExists _ _ | .listNodes _ => none

/-- The scripts that a refused call leaves behind. -/
def spentScripts (s : Store) : Call → KeyMap Script
  | .getNodeClaim name =>
    match s.nextConditions name with
    | none => s.scripts
    | some (_, later) => s.scripts.insert name later
  | .deleteNodeClaim name => s.scripts.erase name
  | .createNodeClaim _ | .listNodeClaims _ | .nodeClassExists _ _ | .createNodeClass _
  | .listNodes _ => s.scripts

/-- Whether a call takes something from the script of its name. -/
def spendsScript (s : Store) : Call → Bool
  | .getNodeClaim name => (s.nextConditions name).isSome
  | .deleteNodeClaim name => s.scripts.contains name
  | .createNodeClaim _ | .listNodeClaims _ | .nodeClassExists _ _ | .createNodeClass _
  | .listNodes _ => false

/-- A refused call fails, and changes scripts at most. -/
theorem serve_refused (refused : s.refusal? c = some fault) :
    s.serve stamp c = (.error fault, { s with scripts := s.spentScripts c }) := by
  cases c with
  | getNodeClaim name =>
      simp only [refusal?] at refused
      split at refused
      · cases refused
      · next missing =>
        have unbound := KeyMap.contains_eq_false_iff.mp (eq_false_of_ne_true missing)
        cases refused
        simp only [serve, getNodeClaim, spentScripts]
        cases s.nextConditions name with
        | none =>
            simp only [unbound]
            rfl
        | some next =>
            simp only [unbound]
            rfl
  | createNodeClaim claim =>
      simp only [refusal?] at refused
      split at refused
      · next taken =>
        cases refused
        simp only [serve, createNodeClaim, taken, if_true]
        rfl
      · cases refused
  | deleteNodeClaim name =>
      simp only [refusal?] at refused
      split at refused
      · cases refused
      · next missing =>
        cases refused
        simp only [serve, deleteNodeClaim, missing, Bool.false_eq_true, if_false]
        rfl
  | createNodeClass manifest =>
      simp only [refusal?] at refused
      split at refused
      · next present =>
        cases refused
        simp only [serve, createNodeClass, present, if_true]
        rfl
      · cases refused
  | listNodeClaims selector => cases refused
  | nodeClassExists kind name => cases refused
  | listNodes selector => cases refused

theorem serve_unrefused (stamp : Stamp) (fine : s.refusal? c = none) :
    ∃ answer, (s.serve stamp c).1 = .ok answer := by
  cases c with
  | getNodeClaim name =>
      simp only [refusal?] at fine
      split at fine
      · next stored =>
        obtain ⟨claim, bound⟩ := Option.isSome_iff_exists.mp stored
        simp only [serve, getNodeClaim]
        split <;> simp only [bound] <;> exact ⟨_, rfl⟩
      · cases fine
  | createNodeClaim claim =>
      simp only [refusal?] at fine
      split at fine
      · cases fine
      · next free =>
        simp only [serve, createNodeClaim, free]
        exact ⟨_, rfl⟩
  | deleteNodeClaim name =>
      simp only [refusal?] at fine
      split at fine
      · next stored =>
        simp only [serve, deleteNodeClaim, stored, if_true]
        exact ⟨_, rfl⟩
      · cases fine
  | createNodeClass manifest =>
      simp only [refusal?] at fine
      split at fine
      · cases fine
      · next missing =>
        simp only [serve, createNodeClass, missing]
        exact ⟨_, rfl⟩
  | listNodeClaims selector => exact ⟨_, rfl⟩
  | nodeClassExists kind name => exact ⟨_, rfl⟩
  | listNodes selector => exact ⟨_, rfl⟩

theorem serve_error_iff (stamp : Stamp) :
    (s.serve stamp c).1 = .error fault ↔ s.refusal? c = some fault := by
  refine ⟨fun failed => ?_, fun refused => congrArg Prod.fst (serve_refused refused)⟩
  cases refusal : s.refusal? c with
  | none =>
      obtain ⟨answer, fine⟩ := serve_unrefused stamp refusal
      rw [fine] at failed
      cases failed
  | some other =>
      rw [serve_refused refusal] at failed
      exact congrArg some (Except.error.inj failed)

/-- A refused call leaves alone the scripts of the claims that are there. -/
theorem get?_spentScripts (refused : s.refusal? c = some fault) {name : String}
    (bound : s.claims.contains name = true) :
    (s.spentScripts c).get? name = s.scripts.get? name := by
  -- Only calls that are refused because their name is unbound touch a script, and `name` is bound.
  have other : ∀ {missing : String}, s.refusal? (.getNodeClaim missing) = some fault →
      name ≠ missing := by
    rintro missing refused rfl
    simp only [refusal?, bound, if_true, reduceCtorEq] at refused
  cases c with
  | getNodeClaim missing =>
      simp only [spentScripts]
      split
      · rfl
      · exact KeyMap.get?_insert_of_ne _ _ (other refused)
  | deleteNodeClaim missing => exact KeyMap.get?_erase_of_ne _ (other refused)
  | createNodeClaim claim => rfl
  | createNodeClass manifest => rfl
  | listNodeClaims selector => rfl
  | nodeClassExists kind name => rfl
  | listNodes selector => rfl

theorem spentScripts_eq_iff : s.spentScripts c = s.scripts ↔ s.spendsScript c = false := by
  cases c with
  | getNodeClaim name =>
      simp only [spentScripts, spendsScript]
      cases next : s.nextConditions name with
      | none => exact ⟨fun _ => rfl, fun _ => rfl⟩
      | some taken =>
          obtain ⟨conditions, later⟩ := taken
          have script : s.scripts.get? name = some (conditions :: later) := by
            rw [nextConditions] at next
            split at next
            · next script =>
              cases next
              exact script
            · cases next
          refine ⟨fun same => ?_, fun none => nomatch none⟩
          have kept := congrArg (fun scripts => KeyMap.get? scripts name) same
          simp only [KeyMap.get?_insert_self, script, Option.some.injEq] at kept
          exact (List.cons_ne_self conditions later kept.symm).elim
  | deleteNodeClaim name =>
      simp only [spentScripts, spendsScript, KeyMap.contains_eq_false_iff]
      refine ⟨fun same => ?_, KeyMap.erase_of_unbound⟩
      rw [← same]
      exact s.scripts.get?_erase_self name
  | createNodeClaim claim => exact ⟨fun _ => rfl, fun _ => rfl⟩
  | createNodeClass manifest => exact ⟨fun _ => rfl, fun _ => rfl⟩
  | listNodeClaims selector => exact ⟨fun _ => rfl, fun _ => rfl⟩
  | nodeClassExists kind name => exact ⟨fun _ => rfl, fun _ => rfl⟩
  | listNodes selector => exact ⟨fun _ => rfl, fun _ => rfl⟩

/-- A failed call was either stopped by the first failure queued for its operation, which is gone then,
or refused. Besides the count of its operation it changes at most the script of its name, never that
of a claim that is there, and no script exactly if it was stopped or there was nothing to take. -/
theorem failed_call_exact (failed : (s.perform stamp c).1 = .error fault) :
    let after := (s.perform stamp c).2
    ((∃ code later, s.failures c.operation = code :: later ∧
        fault = injected c.operation code ∧
        after = { s.counted c.operation with
          failures := update s.failures c.operation later }) ∨
      (s.failures c.operation = [] ∧ s.refusal? c = some fault ∧
        after = { s.counted c.operation with scripts := s.spentScripts c })) ∧
    (∀ name, s.claims.contains name = true →
      after.scripts.get? name = s.scripts.get? name) ∧
    (after.scripts = s.scripts ↔ s.failures c.operation ≠ [] ∨ s.spendsScript c = false) := by
  intro after
  rcases perform_cases s stamp c with ⟨code, later, queue, stopped⟩ | ⟨queue, served⟩
  · have left : after = { s.counted c.operation with
        failures := update s.failures c.operation later } := congrArg Prod.snd stopped
    rw [stopped] at failed
    cases failed
    refine ⟨.inl ⟨code, later, queue, rfl, left⟩, ?_, ?_⟩
    · intro name _
      rw [left]
      rfl
    · rw [left]
      refine ⟨fun _ => .inl ?_, fun _ => rfl⟩
      rw [queue]
      exact List.cons_ne_nil code later
  · rw [served] at failed
    have refused := (serve_error_iff stamp).mp failed
    -- Counting a call changes neither claims nor scripts, so what is refused and spent stays the same.
    have same : s.refusal? c = some fault := by
      cases c <;> exact refused
    have left : after = { s.counted c.operation with scripts := s.spentScripts c } := by
      refine (congrArg Prod.snd (served.trans (serve_refused refused))).trans ?_
      cases c <;> rfl
    refine ⟨.inr ⟨queue, same, left⟩, ?_, ?_⟩
    · intro name bound
      rw [left]
      exact get?_spentScripts same bound
    · rw [left, queue]
      simp only [ne_eq, not_true_eq_false, false_or]
      exact spentScripts_eq_iff

/-- A look at a name whose script waits for a claim. -/
theorem failed_call_exact_of_waiting_script :
    let s := ({} : Store).scriptConditions "phi" [[], []]
    let stamp : Stamp := ⟨⟨0, 0⟩, "claim-0"⟩
    let looked := s.perform stamp (.getNodeClaim "phi")
    looked.1 = .error (notFound "NodeClaim" "phi") ∧
      looked.2 = { s.counted .getNodeClaim with
        scripts := s.spentScripts (.getNodeClaim "phi") } ∧
      looked.2.scripts.get? "phi" = some [[]] ∧ looked.2.scripts ≠ s.scripts := by
  intro s stamp looked
  have failed : looked.1 = .error (notFound "NodeClaim" "phi") := by rfl
  obtain ⟨left, -, kept⟩ := failed_call_exact failed
  rcases left with ⟨_, _, queue, -⟩ | ⟨-, -, left⟩
  · cases queue
  · refine ⟨failed, left, by rfl, fun same => ?_⟩
    rcases kept.mp same with stopped | nothing
    · exact stopped rfl
    · exact Bool.noConfusion nothing

/-- A look that is refused, and a deletion, take from the script that waits for a claim, which is then
found as it was to be found one look later, or never changes. -/
theorem refused_call_spends_script :
    let launched : List Condition := [{ type := "Launched", status := "True" }]
    let ready : List Condition := [{ type := "Ready", status := "True" }]
    let claim : NodeClaim := { metadata := { name := some "phi" }, spec := {} }
    let s := ({} : Store).scriptConditions "phi" [launched, ready]
    let stamp : Stamp := ⟨⟨0, 0⟩, "claim-0"⟩
    let looked := s.perform stamp (.getNodeClaim "phi")
    let deleted := s.perform stamp (.deleteNodeClaim "phi")
    let found : Store → Except ClusterFault NodeClaim :=
      fun t => ((t.insertNodeClaim claim).perform stamp (.getNodeClaim "phi")).1
    looked.1 = .error (notFound "NodeClaim" "phi") ∧
      deleted.1 = .error (notFound "NodeClaim" "phi") ∧
      s.scripts.get? "phi" = some [launched, ready] ∧
      looked.2.scripts.get? "phi" = some [ready] ∧ deleted.2.scripts.get? "phi" = none ∧
      found s = .ok (claim.withConditions launched) ∧
      found looked.2 = .ok (claim.withConditions ready) ∧ found deleted.2 = .ok claim := by
  exact ⟨by rfl, by rfl, by rfl, by rfl, by rfl, by rfl, by rfl, by rfl⟩

end NodeSupply.Store
