import Mathlib.Data.Finset.Basic
import NodeSupply.Proofs.Cluster.Store

/-! A store over a whole run. What is kept can be told from the calls that were made and what they came to:
the names from the creations and deletions that succeeded, a claim from the looks at it, the counters from
the number of calls, and the failures that were waiting at the start from the first calls of their
operation. -/

namespace NodeSupply.Store

/-- What can happen in a run: a call, with the stamp that a creation takes, or one more failure that waits
for a call. -/
inductive Happening where
  | call (c : Call) (stamp : Stamp)
  | failNext (op : Operation) (code : UInt16)

/-- A call that was made on a store. -/
structure MadeCall where
  before : Store
  call : Call
  stamp : Stamp

namespace MadeCall

def operation (m : MadeCall) : Operation := m.call.operation

def outcome (m : MadeCall) : m.call.Outcome := (m.before.perform m.stamp m.call).1

def after (m : MadeCall) : Store := (m.before.perform m.stamp m.call).2

def succeeds (m : MadeCall) : Bool := m.outcome.isOk

/-- Whether a call removed the claim of a name. -/
def Deletes (m : MadeCall) (name : String) : Prop :=
  m.call = .deleteNodeClaim name ∧ m.succeeds = true

/-- Whether a call looked at a name and found its claim. -/
def Finds (m : MadeCall) (name : String) : Prop :=
  m.call = .getNodeClaim name ∧ m.succeeds = true

/-- The stored names after a call, from those before it and whether the call succeeded. -/
def namesAfter (names : Finset String) (m : MadeCall) : Finset String :=
  match m.call with
  | .createNodeClaim claim => if m.succeeds then insert claim.name names else names
  | .deleteNodeClaim name => if m.succeeds then names.erase name else names
  | _ => names

/-- The code of the failure that waits for a call, if there is one. -/
def waiting? (m : MadeCall) : Option UInt16 := (m.before.failures m.operation).head?

/-- Whether a call was answered with a failure of some code, and reached nothing but the counters and the
waiting failures. -/
def StoppedBy (m : MadeCall) (code : UInt16) : Prop :=
  m.outcome = .error (injected m.operation code) ∧
    ∃ failures, m.after = { m.before.counted m.operation with failures }

end MadeCall

/-- The store behind what happened to it. -/
def behind (s : Store) : List Happening → Store
  | [] => s
  | .call c stamp :: rest => (s.perform stamp c).2.behind rest
  | .failNext op code :: rest => (s.failNext op code).behind rest

/-- The calls among what happened, each with the store on which it was made. -/
def madeCalls (s : Store) : List Happening → List MadeCall
  | [] => []
  | .call c stamp :: rest => ⟨s, c, stamp⟩ :: (s.perform stamp c).2.madeCalls rest
  | .failNext op code :: rest => (s.failNext op code).madeCalls rest

/-- The calls of one operation. -/
def callsOf (s : Store) (happenings : List Happening) (op : Operation) : List MadeCall :=
  (s.madeCalls happenings).filter fun m => m.operation = op

/-- The codes of the failures that were added for an operation. -/
def addedFor (op : Operation) : List Happening → List UInt16
  | [] => []
  | .call _ _ :: rest => addedFor op rest
  | .failNext other code :: rest => if other = op then code :: addedFor op rest else addedFor op rest

def names (s : Store) : Finset String := s.claims.keys.toFinset

/-- What a claim has become: its conditions are other ones at most, and only if there were looks at it. -/
structure Became (claim later : NodeClaim) (looks : Prop) : Prop where
  metadata : later.metadata = claim.metadata
  spec : later.spec = claim.spec
  status : later.status = claim.status ∨
    looks ∧ ∃ conditions, later.status = some { claim.status.getD {} with conditions }

/-- What a run leaves in a store, told from its calls. -/
structure BooksKept (s : Store) (happenings : List Happening) : Prop where
  keyed : (s.behind happenings).Keyed
  /-- Creations and deletions that succeed add and remove their names, in turn. -/
  names : (s.behind happenings).names =
    (s.madeCalls happenings).foldl MadeCall.namesAfter s.names
  claims : ∀ name claim, s.claims.get? name = some claim →
    (∀ m ∈ s.madeCalls happenings, ¬ m.Deletes name) →
      ∃ later, (s.behind happenings).claims.get? name = some later ∧
        Became claim later (∃ m ∈ s.madeCalls happenings, m.Finds name)
  counts : ∀ op,
    (s.behind happenings).calls op = s.calls op + (s.callsOf happenings op).length
  /-- The failures that wait at the start stop the first calls of their operation, in order. -/
  failures : ∀ (op : Operation) (i : Nat) (code : UInt16), (s.failures op)[i]? = some code →
    ∀ m, (s.callsOf happenings op)[i]? = some m → m.StoppedBy code
  /-- No failure is lost or met twice. -/
  waiting : ∀ op, s.failures op ++ addedFor op happenings =
    (s.callsOf happenings op).filterMap MadeCall.waiting? ++ (s.behind happenings).failures op

variable {s t : Store} {m : MadeCall} {name : String} {claim later : NodeClaim} {looks : Prop}

/-! ### Names -/

theorem mem_names_iff : name ∈ s.names ↔ ∃ claim, s.claims.get? name = some claim := by
  rw [names, List.mem_toFinset, KeyMap.mem_keys_iff]

theorem names_congr (same : t.claims = s.claims) : t.names = s.names := by
  rw [names, same, names]

theorem names_of_insert (inserted : t.claims = s.claims.insert name claim) :
    t.names = insert name s.names := by
  ext other
  rw [Finset.mem_insert, mem_names_iff, mem_names_iff, inserted]
  by_cases same : other = name
  · simp [same]
  · simp [KeyMap.get?_insert, same]

theorem names_of_erase (erased : t.claims = s.claims.erase name) :
    t.names = s.names.erase name := by
  ext other
  rw [Finset.mem_erase, mem_names_iff, mem_names_iff, erased]
  by_cases same : other = name
  · simp [same]
  · simp [KeyMap.get?_erase, same]

theorem MadeCall.succeeds_of_ok {answer : m.call.Answer} (ok : m.outcome = .ok answer) :
    m.succeeds = true := by
  rw [succeeds, ok]
  rfl

theorem MadeCall.fails_of_error {fault : ClusterFault} (error : m.outcome = .error fault) :
    m.succeeds = false := by
  rw [succeeds, error]
  rfl

theorem names_after (m : MadeCall) : m.after.names = m.namesAfter m.before.names := by
  obtain ⟨s, c, stamp⟩ := m
  cases c with
  | getNodeClaim name =>
      rcases perform_get s stamp name with ⟨_, -, same⟩ | ⟨_, -, -, same⟩ |
        ⟨claim, conditions, bound, -, inserted⟩
      · exact names_congr same
      · exact names_congr same
      · refine (names_of_insert inserted).trans (Finset.insert_eq_of_mem ?_)
        exact mem_names_iff.mpr ⟨claim, bound⟩
  | createNodeClaim claim =>
      rcases perform_create s stamp claim with ⟨_, failed, same⟩ | ⟨-, stored, inserted⟩
      · have fails := MadeCall.fails_of_error (m := ⟨s, .createNodeClaim claim, stamp⟩) failed
        simp only [MadeCall.namesAfter, fails, Bool.false_eq_true, if_false]
        exact names_congr same
      · have succeeds := MadeCall.succeeds_of_ok (m := ⟨s, .createNodeClaim claim, stamp⟩) stored
        simp only [MadeCall.namesAfter, succeeds, if_true]
        exact names_of_insert inserted
  | deleteNodeClaim name =>
      rcases perform_delete s stamp name with ⟨_, failed, same⟩ | ⟨removed, erased⟩
      · have fails := MadeCall.fails_of_error (m := ⟨s, .deleteNodeClaim name, stamp⟩) failed
        simp only [MadeCall.namesAfter, fails, Bool.false_eq_true, if_false]
        exact names_congr same
      · have succeeds := MadeCall.succeeds_of_ok (m := ⟨s, .deleteNodeClaim name, stamp⟩) removed
        simp only [MadeCall.namesAfter, succeeds, if_true]
        exact names_of_erase erased
  | listNodeClaims selector => exact names_congr (perform_claims_of_leaves trivial)
  | nodeClassExists kind name => exact names_congr (perform_claims_of_leaves trivial)
  | createNodeClass manifest => exact names_congr (perform_claims_of_leaves trivial)
  | listNodes selector => exact names_congr (perform_claims_of_leaves trivial)

/-! ### A claim -/

theorem Became.refl (claim : NodeClaim) (looks : Prop) : Became claim claim looks :=
  ⟨rfl, rfl, .inl rfl⟩

theorem became_withConditions (claim : NodeClaim) (conditions : List Condition) (looked : looks) :
    Became claim (claim.withConditions conditions) looks :=
  ⟨rfl, rfl, .inr ⟨looked, conditions, rfl⟩⟩

theorem Became.mono {more : Prop} (became : Became claim later looks) (weaker : looks → more) :
    Became claim later more :=
  ⟨became.metadata, became.spec, became.status.imp_right (And.imp_left weaker)⟩

theorem Became.trans {latest : NodeClaim} (first : Became claim later looks)
    (second : Became later latest looks) : Became claim latest looks := by
  refine ⟨second.metadata.trans first.metadata, second.spec.trans first.spec, ?_⟩
  rcases second.status with same | ⟨looked, conditions, changed⟩
  · rw [same]
    exact first.status
  · refine .inr ⟨looked, conditions, ?_⟩
    -- Of two looks the later one decides, whichever conditions the first one found.
    rcases first.status with same | ⟨-, _, before⟩
    · rw [changed, same]
    · rw [changed, before]
      rfl

/-- A call that does not remove a claim leaves it as it is, but for its conditions if it is looked at. -/
theorem became_after (bound : m.before.claims.get? name = some claim)
    (kept : ¬ m.Deletes name) :
    ∃ later, m.after.claims.get? name = some later ∧ Became claim later (m.Finds name) := by
  obtain ⟨s, c, stamp⟩ := m
  have left {t : Store} (same : t.claims = s.claims) :
      ∃ later, t.claims.get? name = some later ∧
        Became claim later (MadeCall.Finds ⟨s, c, stamp⟩ name) := by
    rw [same]
    exact ⟨claim, bound, .refl claim _⟩
  cases c with
  | getNodeClaim other =>
      rcases perform_get s stamp other with ⟨_, -, same⟩ | ⟨_, -, -, same⟩ |
        ⟨found, conditions, looked, answer, inserted⟩
      · exact left same
      · exact left same
      · by_cases own : name = other
        · subst own
          have same : found = claim := Option.some.inj (looked.symm.trans bound)
          subst same
          refine ⟨found.withConditions conditions, ?_, became_withConditions _ _ ⟨rfl, ?_⟩⟩
          · exact (congrArg (·.get? name) inserted).trans (KeyMap.get?_insert_self _ _ _)
          · exact MadeCall.succeeds_of_ok answer
        · refine ⟨claim, ?_, .refl claim _⟩
          exact (congrArg (·.get? name) inserted).trans
            ((KeyMap.get?_insert_of_ne _ _ own).trans bound)
  | createNodeClaim created =>
      rcases perform_create s stamp created with ⟨_, -, same⟩ | ⟨free, -, inserted⟩
      · exact left same
      · have own : name ≠ created.name := by
          rintro rfl
          exact Option.some_ne_none claim (bound.symm.trans free)
        refine ⟨claim, ?_, .refl claim _⟩
        exact (congrArg (·.get? name) inserted).trans
          ((KeyMap.get?_insert_of_ne _ _ own).trans bound)
  | deleteNodeClaim other =>
      rcases perform_delete s stamp other with ⟨_, -, same⟩ | ⟨removed, erased⟩
      · exact left same
      · have own : name ≠ other := by
          rintro rfl
          exact kept ⟨rfl, MadeCall.succeeds_of_ok removed⟩
        refine ⟨claim, ?_, .refl claim _⟩
        exact (congrArg (·.get? name) erased).trans
          ((KeyMap.get?_erase_of_ne _ own).trans bound)
  | listNodeClaims selector => exact left (perform_claims_of_leaves trivial)
  | nodeClassExists kind name => exact left (perform_claims_of_leaves trivial)
  | createNodeClass manifest => exact left (perform_claims_of_leaves trivial)
  | listNodes selector => exact left (perform_claims_of_leaves trivial)

/-! ### Counters and waiting failures -/

theorem serve_calls (s : Store) (stamp : Stamp) (c : Call) :
    (s.serve stamp c).2.calls = s.calls := by
  rcases serve_cases s stamp c with ⟨_, _, changed⟩ | ⟨kind, name, added⟩
  · rw [changed]
  · rw [added, insertNodeClass]
    split <;> rfl

theorem after_calls (m : MadeCall) (op : Operation) :
    m.after.calls op = m.before.calls op + if m.operation = op then 1 else 0 := by
  have counted : m.after.calls = (m.before.counted m.operation).calls := by
    rcases perform_cases m.before m.stamp m.call with ⟨_, _, -, stopped⟩ | ⟨-, served⟩
    · rw [MadeCall.after, stopped]
      rfl
    · rw [MadeCall.after, served, serve_calls]
      rfl
  rw [counted]
  by_cases same : m.operation = op
  · simp [Store.counted, same]
  · simp [Store.counted, same, update_of_ne (Ne.symm same)]

/-- The failure that waits for a call stops it. -/
theorem stoppedBy_waiting {code : UInt16} (waits : m.waiting? = some code) : m.StoppedBy code := by
  rw [MadeCall.waiting?, MadeCall.operation] at waits
  rcases perform_cases m.before m.stamp m.call with ⟨other, rest, queue, stopped⟩ | ⟨none, -⟩
  · rw [queue] at waits
    cases waits
    exact ⟨congrArg Prod.fst stopped, _, congrArg Prod.snd stopped⟩
  · rw [none] at waits
    cases waits

theorem after_failures (m : MadeCall) :
    m.after.failures = update m.before.failures m.operation (m.before.failures m.operation).tail :=
  perform_failures m.before m.stamp m.call

/-- A call takes the failure that it meets from the front of its operation's queue. -/
theorem failures_before (m : MadeCall) (op : Operation) :
    m.before.failures op =
      (if m.operation = op then m.waiting?.toList else []) ++ m.after.failures op := by
  rw [after_failures]
  split
  · next same =>
    subst same
    rw [update_at, MadeCall.waiting?]
    cases m.before.failures m.operation <;> rfl
  · next differ => rw [update_of_ne (Ne.symm differ), List.nil_append]

/-! ### Runs -/

theorem callsOf_call (m : MadeCall) (rest : List Happening) (op : Operation) :
    m.before.callsOf (.call m.call m.stamp :: rest) op =
      if m.operation = op then m :: m.after.callsOf rest op else m.after.callsOf rest op := by
  simp only [callsOf, madeCalls, List.filter_cons, decide_eq_true_eq]
  rfl

theorem waiting_callsOf_call (m : MadeCall) (rest : List Happening) (op : Operation) :
    (m.before.callsOf (.call m.call m.stamp :: rest) op).filterMap MadeCall.waiting? =
      (if m.operation = op then m.waiting?.toList else []) ++
        (m.after.callsOf rest op).filterMap MadeCall.waiting? := by
  rw [callsOf_call]
  split
  · rw [List.filterMap_cons]
    cases m.waiting? <;> rfl
  · rfl

theorem booksKept_nil (keyed : s.Keyed) : s.BooksKept [] := by
  refine ⟨keyed, rfl, ?_, fun _ => rfl, ?_, ?_⟩
  · intro name claim bound _
    exact ⟨claim, bound, .refl claim _⟩
  · intro op i code _ m made
    cases made
  · intro op
    exact List.append_nil _

/-- A failure that is added waits behind those that wait already. -/
theorem failNext_failures (s : Store) (op other : Operation) (code : UInt16) :
    (s.failNext op code).failures other =
      s.failures other ++ if op = other then [code] else [] := by
  change update s.failures op (s.failures op ++ [code]) other = _
  by_cases same : op = other
  · rw [if_pos same, ← same, update_at]
  · rw [if_neg same, update_of_ne (Ne.symm same), List.append_nil]

theorem BooksKept.failNext {op : Operation} {code : UInt16} {rest : List Happening}
    (kept : (s.failNext op code).BooksKept rest) : s.BooksKept (.failNext op code :: rest) := by
  refine ⟨kept.keyed, kept.names, kept.claims, kept.counts, ?_, ?_⟩
  · intro other i first waits m made
    refine kept.failures other i first ?_ m made
    obtain ⟨inside, -⟩ := List.getElem?_eq_some_iff.mp waits
    rw [failNext_failures, List.getElem?_append_left inside]
    exact waits
  · intro other
    refine Eq.trans ?_ (kept.waiting other)
    rw [failNext_failures, List.append_assoc, addedFor]
    by_cases same : op = other
    · simp [same]
    · simp [same]

theorem BooksKept.call {rest : List Happening} (kept : m.after.BooksKept rest) :
    m.before.BooksKept (.call m.call m.stamp :: rest) := by
  refine ⟨kept.keyed, ?_, ?_, ?_, ?_, ?_⟩
  · refine kept.names.trans ?_
    rw [names_after]
    rfl
  · intro name claim bound stays
    obtain ⟨next, bound', first⟩ := became_after bound (stays m List.mem_cons_self)
    obtain ⟨later, bound'', second⟩ :=
      kept.claims name next bound' fun other inside => stays other (List.mem_cons_of_mem _ inside)
    refine ⟨later, bound'', (first.mono ?_).trans (second.mono ?_)⟩
    · intro found
      exact ⟨m, List.mem_cons_self, found⟩
    · rintro ⟨other, inside, found⟩
      exact ⟨other, List.mem_cons_of_mem _ inside, found⟩
  · intro op
    refine (kept.counts op).trans ?_
    rw [after_calls, callsOf_call]
    split
    · rw [List.length_cons]
      omega
    · rfl
  · intro op i code waits other made
    rw [callsOf_call] at made
    split at made
    · next same =>
      subst same
      cases i with
      | zero =>
          cases made
          exact stoppedBy_waiting (List.head?_eq_getElem?.trans waits)
      | succ i =>
          refine kept.failures m.operation i code ?_ other made
          rw [after_failures, update_at, List.getElem?_tail]
          exact waits
    · next differ =>
      refine kept.failures op i code ?_ other made
      rw [after_failures, update_of_ne (Ne.symm differ)]
      exact waits
  · intro op
    rw [failures_before, waiting_callsOf_call, List.append_assoc, List.append_assoc]
    exact congrArg (_ ++ ·) (kept.waiting op)

/-- Whatever calls are made on a store, and whatever failures are added meanwhile, its books are kept. -/
theorem booksKept (keyed : s.Keyed) (happenings : List Happening) : s.BooksKept happenings := by
  induction happenings generalizing s with
  | nil => exact booksKept_nil keyed
  | cons first rest ih =>
      cases first with
      | call c stamp => exact BooksKept.call (m := ⟨s, c, stamp⟩) (ih (keyed.perform stamp c))
      | failNext op code => exact (ih (s := s.failNext op code) (keyed_of_claims keyed rfl)).failNext

/-- A claim that is created, looked at, deleted and created again under its name, where the first creation
meets a failure that waits for it. -/
theorem booksKept_of_recreation :
    let launched : List Condition := [{ type := "Launched", status := "True" }]
    let claim : NodeClaim := { metadata := { name := some "phi" }, spec := {} }
    let stamp : Stamp := ⟨⟨0, 0⟩, "claim-0"⟩
    let s := (({} : Store).setLaunchScript [launched]).failNext .createNodeClaim 500
    let happenings : List Happening :=
      [.call (.createNodeClaim claim) stamp, .call (.createNodeClaim claim) stamp,
        .call (.getNodeClaim "phi") stamp, .call (.deleteNodeClaim "phi") stamp,
        .failNext .getNodeClaim 503, .call (.createNodeClaim claim) stamp]
    s.Keyed ∧ s.BooksKept happenings ∧ (s.behind happenings).names = {"phi"} ∧
      (s.behind happenings).calls .createNodeClaim = 3 ∧
      (s.behind happenings).failures .getNodeClaim = [503] ∧
      ∀ m, (s.callsOf happenings .createNodeClaim)[0]? = some m → m.StoppedBy 500 := by
  intro launched claim stamp s happenings
  have keyed : s.Keyed := ((Built.empty.setLaunchScript [launched]).failNext .createNodeClaim 500).keyed
  have kept : s.BooksKept happenings := booksKept keyed happenings
  refine ⟨keyed, kept, kept.names.trans (by decide), kept.counts .createNodeClaim, ?_, ?_⟩
  · exact (kept.waiting .getNodeClaim).symm
  · exact kept.failures .createNodeClaim 0 500 rfl

end NodeSupply.Store
