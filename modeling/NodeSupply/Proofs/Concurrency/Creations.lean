import Mathlib.Data.Fintype.Card
import NodeSupply.Proofs.Concurrency.Interleaving
import NodeSupply.Proofs.Orchestrator.Creation

/-! Creations that race on one cluster. Whoever submits a claim under a name that is taken is refused
and draws another identifier, so no claim is overwritten and no two creations come to one claim, even
if they draw the same identifiers. -/

namespace NodeSupply

variable {ι : Type}

namespace Orchestrator

/-- What is left of a creation that has not stored a claim, and has drawn these identifiers. -/
inductive Creating (o : Orchestrator) (request : NodeRequest) :
    (drawn : List String) → Program (Except Failure NodeClaim) → Prop
  | failed {drawn : List String} (failure : Failure) :
      Creating o request drawn (.done (.error failure))
  | draws {drawn : List String} {next : String → Program (Except Failure NodeClaim)} :
      (∀ id, Creating o request (id :: drawn) (next id)) →
      Creating o request drawn (.ask .freshId next)
  /-- It is over when the claim is stored, and goes on when it is refused. -/
  | submits {drawn : List String} {id : String}
      {next : Except ClusterFault NodeClaim → Program (Except Failure NodeClaim)} :
      id ∈ drawn → (∀ stored, next (.ok stored) = .done (.ok stored)) →
      (∀ fault, Creating o request drawn (next (.error fault))) →
      Creating o request drawn (.ask (.call (.createNodeClaim (o.claimWithId request id))) next)
  | passes {drawn : List String} {e : Effect}
      {next : e.Answer → Program (Except Failure NodeClaim)} :
      (∀ c, e.call? = some c → Store.LeavesClaims c) →
      (∀ answer, Creating o request drawn (next answer)) → Creating o request drawn (.ask e next)

variable {o : Orchestrator} {request : NodeRequest} {drawn : List String}

theorem Creating.success? {p : Program (Except Failure NodeClaim)}
    (creating : o.Creating request drawn p) : p.success? = none := by
  cases creating <;> rfl

theorem creating_submitFresh (attempts : Nat) (drawn : List String) :
    o.Creating request drawn (o.submitFresh request attempts) := by
  induction attempts generalizing drawn with
  | zero => exact .failed _
  | succ attempts ih =>
      refine .draws fun id => .submits List.mem_cons_self (fun _ => rfl) ?_
      intro fault
      show o.Creating request (id :: drawn) (if isNameTaken (.cluster fault) then _ else _)
      split
      · exact .passes (fun _ asked => nomatch asked) fun _ => ih _
      · exact .failed _

theorem creating_andThen {p : Program (Except Failure Unit)} (makes : p.Makes Call.AboutNodeClass)
    {f : Unit → Program (Except Failure NodeClaim)}
    (rest : ∀ a, o.Creating request drawn (f a)) : o.Creating request drawn (p.andThen f) := by
  induction p with
  | done result =>
      cases result with
      | error failure => exact .failed failure
      | ok a => exact rest a
  | ask e next ih =>
      refine .passes (fun c asked => (makes.1 c asked).leaves) ?_
      intro answer
      exact ih answer (makes.2 answer)

theorem creating_createClaimFor (o : Orchestrator) (request : NodeRequest) :
    o.Creating request [] (o.createClaimFor request) :=
  creating_andThen o.makes_prepare fun _ => creating_submitFresh nameAttempts []

end Orchestrator

/-! ### What was stored -/

section Settled

variable [Fintype ι] {claims later : KeyMap NodeClaim} {results : ι → Option NodeClaim} {who : ι}
  {claim : NodeClaim}

/-- Claims to which each of some creations that succeeded has added its own, under a name that was not
taken. -/
structure Settled (claims : KeyMap NodeClaim) (results : ι → Option NodeClaim)
    (later : KeyMap NodeClaim) : Prop where
  unbound : ∀ who claim, results who = some claim → claims.get? claim.name = none
  bound : ∀ who claim, results who = some claim → later.get? claim.name = some claim
  distinct : ∀ who other claim rival, results who = some claim → results other = some rival →
    claim.name = rival.name → who = other
  kept : ∀ name claim, claims.get? name = some claim → later.get? name = some claim
  size : later.size = claims.size + (Finset.univ.filter fun who => (results who).isSome).card

theorem settled_none (claims : KeyMap NodeClaim) :
    Settled claims (fun _ : ι => none) claims where
  unbound := fun _ _ success => nomatch success
  bound := fun _ _ success => nomatch success
  distinct := fun _ _ _ _ success => nomatch success
  kept := fun _ _ bound => bound
  size := by simp only [Option.isSome_none, Bool.false_eq_true, Finset.filter_false,
    Finset.card_empty, Nat.add_zero]

variable [DecidableEq ι]

theorem Settled.add (settled : Settled claims results later) (unsettled : results who = none)
    (free : later.get? claim.name = none) :
    Settled claims (Function.update results who (some claim))
      (later.insert claim.name claim) := by
  have apart : ∀ {name found}, later.get? name = some found → name ≠ claim.name := by
    rintro name found bound rfl
    rw [free] at bound
    cases bound
  have success : ∀ {other found}, Function.update results who (some claim) other = some found →
      other = who ∧ found = claim ∨ results other = some found := by
    intro other found success
    rw [Function.update_apply] at success
    split at success
    · next own => exact .inl ⟨own, (Option.some.inj success).symm⟩
    · exact .inr success
  constructor
  · intro other found ended
    rcases success ended with ⟨-, rfl⟩ | before
    -- A claim that had the name at the start would still have it.
    · refine Option.eq_none_iff_forall_ne_some.mpr fun earlier bound => ?_
      exact apart (settled.kept _ earlier bound) rfl
    · exact settled.unbound other found before
  · intro other found ended
    rcases success ended with ⟨-, rfl⟩ | before
    · exact KeyMap.get?_insert_self _ _ _
    · have bound := settled.bound other found before
      rw [KeyMap.get?_insert_of_ne _ _ (apart bound), bound]
  · intro other another found rival ended endedToo named
    rcases success ended with ⟨rfl, rfl⟩ | before <;>
      rcases success endedToo with ⟨rfl, rfl⟩ | beforeToo
    · rfl
    · exact (apart (settled.bound another rival beforeToo) named.symm).elim
    · exact (apart (settled.bound other found before) named).elim
    · exact settled.distinct other another found rival before beforeToo named
  · intro name found bound
    have before := settled.kept name found bound
    rw [KeyMap.get?_insert_of_ne _ _ (apart before), before]
  · have more : (Finset.univ.filter fun other =>
        (Function.update results who (some claim) other).isSome) =
          insert who (Finset.univ.filter fun other => (results other).isSome) := by
      ext other
      by_cases own : other = who <;> simp [own]
    have absent : who ∉ Finset.univ.filter fun other => (results other).isSome := by
      simp [unsettled]
    rw [KeyMap.size_insert free, settled.size, more, Finset.card_insert_of_notMem absent,
      Nat.add_assoc]

end Settled

/-! ### Every moment of a race -/

section Racing

variable {o : ι → Orchestrator} {request : ι → NodeRequest} {s t : Store}
  {r : Race ι (Except Failure NodeClaim)} {who : ι} {history later : List (Event ι)}
  {p : Program (Except Failure NodeClaim)}

/-- Whether a program drew an identifier. -/
def Drew (history : List (Event ι)) (who : ι) (id : String) : Prop :=
  (⟨who, .freshId, id⟩ : Event ι) ∈ history

/-- Whether what is left of a creation still has to store a claim, or is the claim that was made with
an identifier that it drew. -/
def Underway (o : Orchestrator) (request : NodeRequest) (history : List (Event ι)) (who : ι)
    (p : Program (Except Failure NodeClaim)) : Prop :=
  (∃ drawn, (∀ id ∈ drawn, Drew history who id) ∧ o.Creating request drawn p) ∨
    ∃ id stamp, Drew history who id ∧ p = .done (.ok (Store.stamped (o.claimWithId request id) stamp))

theorem Underway.mono {o : Orchestrator} {request : NodeRequest}
    (underway : Underway o request history who p) (longer : history ⊆ later) :
    Underway o request later who p := by
  rcases underway with ⟨drawn, drew, creating⟩ | ⟨id, stamp, drew, made⟩
  · exact .inl ⟨drawn, fun id member => longer (drew id member), creating⟩
  · exact .inr ⟨id, stamp, longer drew, made⟩

theorem Surroundings.answer_claims (around : Surroundings) (s : Store) {e : Effect}
    (leaves : ∀ c, e.call? = some c → Store.LeavesClaims c) :
    (around.answer s e).2.claims = s.claims := by
  cases asked : e.call? with
  | none => rw [around.answer_of_quiet s asked]
  | some c =>
      cases e with
      | call c => exact Store.perform_claims_of_leaves (leaves c rfl)
      | _ => cases asked

variable [Fintype ι]

variable (o request s) in
/-- What holds at every moment of a race of creations that began with a store. -/
structure Racing (r : Race ι (Except Failure NodeClaim)) : Prop where
  programs : ∀ who, Underway (o who) (request who) r.history who (r.programs who)
  settled : Settled s.claims r.results r.store.claims

theorem racing_start (s : Store) :
    Racing o request s ⟨s, fun who => (o who).createClaimFor (request who), []⟩ := by
  have creating := fun who => (o who).creating_createClaimFor (request who)
  refine ⟨fun who => .inl ⟨[], fun _ member => (nomatch member), creating who⟩, ?_⟩
  have none : Race.results ⟨s, fun who => (o who).createClaimFor (request who), []⟩ =
      fun _ : ι => none := funext fun who => (creating who).success?
  rw [none]
  exact settled_none s.claims

variable [DecidableEq ι]

theorem Racing.take (racing : Racing o request s r) (longer : r.history ⊆ later)
    (underway : Underway (o who) (request who) later who p)
    (settled : Settled s.claims (Function.update r.results who p.success?) t.claims) :
    Racing o request s ⟨t, Function.update r.programs who p, later⟩ := by
  constructor
  · refine (Function.forall_update_iff _ fun other left =>
      Underway (o other) (request other) later other left).mpr ⟨underway, fun other _ => ?_⟩
    exact (racing.programs other).mono longer
  · have results : Race.results ⟨t, Function.update r.programs who p, later⟩ =
        Function.update r.results who p.success? :=
      funext fun other => Function.apply_update (fun _ => Program.success?) r.programs who p other
    rw [results]
    exact settled

theorem Racing.go_on (racing : Racing o request s r) (unsettled : r.results who = none)
    (claims : t.claims = r.store.claims) (longer : r.history ⊆ later) {drawn : List String}
    (drew : ∀ id ∈ drawn, Drew later who id)
    (creating : (o who).Creating (request who) drawn p) :
    Racing o request s ⟨t, Function.update r.programs who p, later⟩ := by
  refine racing.take longer (.inl ⟨drawn, drew, creating⟩) ?_
  rw [creating.success?, ← unsettled, Function.update_eq_self, claims]
  exact racing.settled

theorem Racing.advance (racing : Racing o request s r) (move : Move ι) :
    Racing o request s (r.advance move) := by
  cases move with
  | inject op code => exact ⟨racing.programs, racing.settled⟩
  | step who around =>
      cases left : r.programs who with
      | done result =>
          rw [Race.advance_of_done left]
          exact racing
      | ask e next =>
          have unsettled : r.results who = none := by
            rw [Race.results, left]
            rfl
          have underway := racing.programs who
          have longer : r.history ⊆ r.history ++ [⟨who, e, (around.answer r.store e).1⟩] :=
            List.subset_append_left _ _
          rw [Race.advance_of_ask left]
          rw [left] at underway
          rcases underway with ⟨drawn, drew, creating⟩ | ⟨_, _, -, ended⟩
          · have drewToo := fun id member => longer (drew id member)
            cases creating with
            | draws each =>
                refine racing.go_on unsettled rfl longer ?_ (each around.id)
                refine List.forall_mem_cons.mpr ⟨?_, drewToo⟩
                exact List.mem_append_right _ (List.mem_singleton_self _)
            | @submits _ id next member stops goesOn =>
                rcases r.store.perform_create around.stamp ((o who).claimWithId (request who) id)
                  with ⟨fault, failed, same⟩ | ⟨free, stored, inserted⟩
                · have refused := congrArg next failed
                  refine racing.go_on unsettled same longer drewToo ?_
                  exact refused ▸ goesOn fault
                · have ended := (congrArg next stored).trans (stops _)
                  refine racing.take longer (.inr ⟨id, around.stamp, drewToo id member, ended⟩) ?_
                  have success := congrArg Program.success? ended
                  simp only [Surroundings.answer, success, inserted]
                  exact racing.settled.add unsettled free
            -- Any other call leaves the claims alone, and what is no call leaves the store alone.
            | passes leaves each =>
                exact racing.go_on unsettled (around.answer_claims _ leaves) longer drewToo
                  (each _)
          · cases ended

/-- However creations on one cluster are interleaved, whatever identifiers they draw and whichever calls
fail: each that succeeds comes to the claim that it made with an identifier of its own, stamped and
stored under a name that was free at the start and that no other of them came to; all claims of the
start are as they were, and there are as many more as creations that succeeded. -/
theorem racing_creations_exact (o : ι → Orchestrator) (request : ι → NodeRequest) (s : Store)
    (moves : List (Move ι)) :
    let race : Race ι (Except Failure NodeClaim) :=
      { store := s, programs := fun who => (o who).createClaimFor (request who) }
    let after := race.run moves
    (∀ who claim, after.programs who = .done (.ok claim) →
      s.claims.get? claim.name = none ∧ after.store.claims.get? claim.name = some claim ∧
        ∃ id stamp, Drew after.history who id ∧
          claim = Store.stamped ((o who).claimWithId (request who) id) stamp) ∧
    (∀ who other claim rival, after.programs who = .done (.ok claim) →
      after.programs other = .done (.ok rival) → claim.name = rival.name → who = other) ∧
    (∀ name claim, s.claims.get? name = some claim →
      after.store.claims.get? name = some claim) ∧
    after.store.claims.size =
      s.claims.size + (Finset.univ.filter fun who => (after.results who).isSome).card := by
  intro race after
  have racing : Racing o request s after :=
    Race.run_keeps (fun move _ _ racing => racing.advance move) (racing_start s)
  have settled := racing.settled
  simp only [← Race.results_eq_some_iff]
  refine ⟨fun who claim success => ?_, settled.distinct, settled.kept, settled.size⟩
  refine ⟨settled.unbound who claim success, settled.bound who claim success, ?_⟩
  rcases racing.programs who with ⟨drawn, -, creating⟩ | ⟨id, stamp, drew, ended⟩
  · rw [Race.results, creating.success?] at success
    cases success
  · have same := (Race.results_eq_some_iff.mpr ended).symm.trans success
    exact ⟨id, stamp, drew, (Option.some.inj same).symm⟩

/-- Two creations of one request that draw the same identifier: the second one has to draw another. -/
example :
    let o : Orchestrator := { dialect := .azure, config := { cloudProvider := .azure } }
    let request : NodeRequest := .new ⟨"phi", "ai"⟩ "Standard_NC24ads_A100_v4"
    let race : Race Bool (Except Failure NodeClaim) :=
      { store := {}, programs := fun _ => o.createClaimFor request }
    let around : String → Surroundings := fun id => ⟨id, 0, none, ⟨⟨0, 0⟩, id⟩⟩
    let after := race.run <| [(true, "0"), (false, "0"), (true, "0"), (false, "0"), (false, "0"),
      (false, "1"), (false, "1")].map fun turn => .step turn.1 (around turn.2)
    (after.results true).isSome ∧ (after.results false).isSome ∧ after.store.claims.size = 2 := by
  decide +kernel

end Racing

end NodeSupply
