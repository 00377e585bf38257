import NodeSupply.Proofs.Concurrency.Interleaving
import NodeSupply.Proofs.Orchestrator.NodeClasses

/-! Runs that see to node classes and race on one cluster. Each looks first and creates the class if it
was missing, so any number of them can find it missing; the first creation then succeeds, and those
after it are told that the class is there, which is as good. -/

namespace NodeSupply

variable {ι : Type}

/-- The node class that a step asks to be created, by kind and name. -/
def Event.classAsked? (event : Event ι) : Option (NodeClassKind × String) :=
  match event.effect with
  | .call (.createNodeClass manifest) => some (manifest.kind, manifest.name)
  | _ => none

/-- The node class that a step created, by kind and name. -/
def Event.classCreated? : Event ι → Option (NodeClassKind × String)
  | ⟨_, .call (.createNodeClass manifest), .ok _⟩ => some (manifest.kind, manifest.name)
  | _ => none

theorem Event.classCreated?_of_ok (who : ι) (manifest : NodeClass)
    {answer : Except ClusterFault Unit} (created : answer = .ok ()) :
    (⟨who, .call (.createNodeClass manifest), answer⟩ : Event ι).classCreated? =
      some (manifest.kind, manifest.name) := by
  subst created
  rfl

theorem Event.classCreated?_of_error (who : ι) (manifest : NodeClass)
    {answer : Except ClusterFault Unit} {fault : ClusterFault} (refused : answer = .error fault) :
    (⟨who, .call (.createNodeClass manifest), answer⟩ : Event ι).classCreated? = none := by
  subst refused
  rfl

theorem Event.classAsked?_of_created (event : Event ι) {key : NodeClassKind × String}
    (created : event.classCreated? = some key) : event.classAsked? = some key := by
  unfold classCreated? at created
  split at created
  · exact created
  · cases created

namespace Race

variable {α : Type}

/-- The node classes that were asked to be created, in order. -/
def classesAsked (r : Race ι α) : List (NodeClassKind × String) :=
  r.history.filterMap Event.classAsked?

/-- The node classes that were created, in order. -/
def classesCreated (r : Race ι α) : List (NodeClassKind × String) :=
  r.history.filterMap Event.classCreated?

theorem classesCreated_subset (r : Race ι α) : r.classesCreated ⊆ r.classesAsked := by
  intro key created
  obtain ⟨event, happened, made⟩ := List.mem_filterMap.mp created
  exact List.mem_filterMap.mpr ⟨event, happened, event.classAsked?_of_created made⟩

end Race

/-! ### What is left of a run -/

namespace Orchestrator

variable {o : Orchestrator} {key : NodeClassKind × String}
  {before now later : List (NodeClassKind × String)} {p : Program (Except Failure Unit)}

/-- The node class that an orchestrator's claims point at, by kind and name. -/
def nodeClassKey? (o : Orchestrator) : Option (NodeClassKind × String) :=
  o.dialect.nodeClassKind?.map fun kind => (kind, o.config.nodeClassName)

theorem exists_nodeClassKey (kinded : o.dialect ≠ .arc) : ∃ key, o.nodeClassKey? = some key := by
  unfold nodeClassKey?
  cases dialect : o.dialect with
  | azure => exact ⟨_, rfl⟩
  | aws clusterName => exact ⟨_, rfl⟩
  | arc => exact (kinded dialect).elim

/-- Whether a program creates a node class and succeeds if the class is there in the end. -/
def Creates (key : NodeClassKind × String) (p : Program (Except Failure Unit)) : Prop :=
  ∃ (manifest : NodeClass) (next : Except ClusterFault Unit → Program (Except Failure Unit)),
    p = .ask (.call (.createNodeClass manifest)) next ∧ (manifest.kind, manifest.name) = key ∧
      next (.ok ()) = .done (.ok ()) ∧
      ∀ fault, fault.isConflict = true → next (.error fault) = .done (.ok ())

/-- What is left of a run that sees to a node class: it creates the class only if this was missing at the
start, and is over only if the class is there now. -/
inductive Ensuring (key : NodeClassKind × String) (before now : List (NodeClassKind × String)) :
    Program (Except Failure Unit) → Prop
  | looks {next : Except ClusterFault Bool → Program (Except Failure Unit)} :
      next (.ok true) = .done (.ok ()) → Creates key (next (.ok false)) →
      Ensuring key before now (.ask (.call (.nodeClassExists key.1 key.2)) next)
  | creates {p : Program (Except Failure Unit)} :
      key ∉ before → Creates key p → Ensuring key before now p
  | finished : key ∈ now → Ensuring key before now (.done (.ok ()))

theorem Ensuring.mono (ensuring : Ensuring key before now p) (kept : now ⊆ later) :
    Ensuring key before later p := by
  cases ensuring with
  | looks found missing => exact .looks found missing
  | creates absent creates => exact .creates absent creates
  | finished present => exact .finished (kept present)

theorem Ensuring.ended {result : Except Failure Unit}
    (ensuring : Ensuring key before now (.done result)) : result = .ok () ∧ key ∈ now := by
  cases ensuring with
  | creates absent creates =>
      obtain ⟨_, _, same, -⟩ := creates
      cases same
  | finished present => exact ⟨rfl, present⟩

theorem ensuring_ensureNodeClass (own : o.nodeClassKey? = some key) :
    Ensuring key before now o.ensureNodeClass := by
  obtain ⟨kind, kinded, rfl⟩ := Option.map_eq_some_iff.mp own
  obtain ⟨manifest, made⟩ := exists_nodeClass kinded o.config.nodeClassName
  obtain ⟨sameKind, sameName⟩ := nodeClass_own kinded made
  unfold ensureNodeClass
  rw [kinded, made]
  refine .looks rfl ⟨manifest, _, rfl, ?_, rfl, ?_⟩
  · rw [sameKind, sameName]
  · intro fault conflict
    show (if fault.isConflict then _ else _) = _
    rw [if_pos conflict]

theorem endsWithin_ensureNodeClass (o : Orchestrator) : o.ensureNodeClass.EndsWithin 2 := by
  unfold ensureNodeClass
  cases o.dialect.nodeClassKind? with
  | none => trivial
  | some kind =>
      cases o.dialect.nodeClass o.config.nodeClassName with
      | error failure => rintro (fault | _ | _) <;> trivial
      | ok manifest =>
          rintro (fault | _ | _)
          · trivial
          · rintro (fault | _)
            · show Program.EndsWithin (if fault.isConflict then _ else _) 0
              split <;> trivial
            · trivial
          · trivial

end Orchestrator

/-! ### Every moment of a race -/

section Converging

open Orchestrator

variable {o : ι → Orchestrator} {s t : Store} {r : Race ι (Except Failure Unit)} {who : ι}
  {key : NodeClassKind × String}

variable (o s) in
/-- What holds at every moment of a race of runs that see to node classes, if nothing fails. -/
structure Converging (r : Race ι (Except Failure Unit)) : Prop where
  calm : ∀ op, r.store.failures op = []
  programs : ∀ who key, (o who).nodeClassKey? = some key →
    Ensuring key s.nodeClasses r.store.nodeClasses (r.programs who)
  classes : r.store.nodeClasses = r.classesCreated.reverse ++ s.nodeClasses
  distinct : r.classesCreated.Nodup
  asked : ∀ key ∈ r.classesAsked,
    key ∉ s.nodeClasses ∧ ∃ who, (o who).nodeClassKey? = some key

theorem converging_start (calm : ∀ op, s.failures op = []) :
    Converging o s ⟨s, fun who => (o who).ensureNodeClass, []⟩ where
  calm := calm
  programs := fun _ _ own => ensuring_ensureNodeClass own
  classes := rfl
  distinct := List.nodup_nil
  asked := fun _ member => nomatch member

theorem Converging.of_start (converging : Converging o s r) :
    s.nodeClasses ⊆ r.store.nodeClasses := by
  rw [converging.classes]
  exact List.subset_append_right _ _

theorem Converging.mem_of_created (converging : Converging o s r)
    (created : key ∈ r.classesCreated) : key ∈ r.store.nodeClasses := by
  rw [converging.classes]
  exact List.mem_append_left _ (List.mem_reverse.mpr created)

variable [DecidableEq ι]

theorem Converging.take (converging : Converging o s r) (own : (o who).nodeClassKey? = some key)
    {p : Program (Except Failure Unit)} {event : Event ι}
    {made : Option (NodeClassKind × String)} (calm : ∀ op, t.failures op = [])
    (ensuring : Ensuring key s.nodeClasses t.nodeClasses p)
    (creates : event.classCreated? = made)
    (changed : t.nodeClasses = made.toList ++ r.store.nodeClasses)
    (fresh : ∀ added ∈ made, added ∉ r.store.nodeClasses)
    (asked : ∀ asked, event.classAsked? = some asked → asked = key ∧ key ∉ s.nodeClasses) :
    Converging o s ⟨t, Function.update r.programs who p, r.history ++ [event]⟩ := by
  have created :
      Race.classesCreated ⟨t, Function.update r.programs who p, r.history ++ [event]⟩ =
        r.classesCreated ++ made.toList := by
    simp only [Race.classesCreated, List.filterMap_append, List.filterMap_cons,
      List.filterMap_nil, creates]
    cases made <;> rfl
  constructor
  · exact calm
  · intro other another asks
    by_cases same : other = who
    · subst same
      obtain rfl : key = another := Option.some.inj (own.symm.trans asks)
      simpa only [Function.update_self] using ensuring
    · simp only [Function.update_of_ne same]
      refine (converging.programs other another asks).mono ?_
      rw [changed]
      exact List.subset_append_right _ _
  · rw [created, changed, converging.classes]
    cases made with
    | none => simp only [Option.toList_none, List.nil_append, List.append_nil]
    | some added => simp only [Option.toList_some, List.reverse_append, List.reverse_singleton,
        List.append_assoc]
  · rw [created]
    refine List.nodup_append.mpr ⟨converging.distinct, Option.toList_nodup _, ?_⟩
    rintro added before _ now rfl
    exact fresh added (Option.mem_toList.mp now) (converging.mem_of_created before)
  · intro wanted member
    rcases List.mem_filterMap.mp member with ⟨earlier, happened, asks⟩
    rcases List.mem_append.mp happened with before | now
    · exact converging.asked wanted (List.mem_filterMap.mpr ⟨earlier, before, asks⟩)
    · rw [List.mem_singleton.mp now] at asks
      obtain ⟨rfl, absent⟩ := asked wanted asks
      exact ⟨absent, who, own⟩

theorem Converging.advance (converging : Converging o s r)
    (keyed : ∀ who, ∃ key, (o who).nodeClassKey? = some key) (who : ι) (around : Surroundings) :
    Converging o s (r.advance (.step who around)) := by
  obtain ⟨key, own⟩ := keyed who
  have ensuring := converging.programs who key own
  generalize left : r.programs who = p at ensuring
  cases ensuring with
  | @looks next found missing =>
      obtain ⟨looked, same⟩ :=
        Store.perform_nodeClassExists converging.calm around.stamp key.1 key.2
      rw [Race.advance_of_ask left]
      refine converging.take own (Store.perform_calm converging.calm _ _) ?_ rfl same
        (fun _ none => nomatch none) (fun _ none => nomatch none)
      cases present : r.store.hasNodeClass key.1 key.2 with
      | true =>
          rw [present] at looked
          have goesOn := (congrArg next looked).trans found
          have there := Store.hasNodeClass_iff.mp present
          exact goesOn ▸ .finished (same ▸ there)
      | false =>
          rw [present] at looked
          have goesOn := congrArg next looked
          -- Classes only get more, so what is missing now was missing at the start.
          refine goesOn ▸ .creates (fun before => ?_) missing
          rw [Store.hasNodeClass_iff.mpr (converging.of_start before)] at present
          cases present
  | creates absent creates =>
      obtain ⟨manifest, next, rfl, same, fine, taken⟩ := creates
      rw [Race.advance_of_ask left]
      have asked : ∀ made, some (manifest.kind, manifest.name) = some made →
          made = key ∧ key ∉ s.nodeClasses := by
        rintro _ ⟨⟩
        exact ⟨same, absent⟩
      rcases Store.perform_createNodeClass converging.calm around.stamp manifest with
        ⟨present, ⟨fault, conflict, failed⟩, kept⟩ | ⟨missing, created, added⟩
      · have goesOn := (congrArg next failed).trans (taken fault conflict)
        refine converging.take own (Store.perform_calm converging.calm _ _) ?_
          (Event.classCreated?_of_error who manifest failed) kept (fun _ none => nomatch none) asked
        exact goesOn ▸ .finished (kept ▸ same ▸ present)
      · have goesOn := (congrArg next created).trans fine
        refine converging.take own (Store.perform_calm converging.calm _ _) ?_
          (Event.classCreated?_of_ok who manifest created) added ?_ asked
        · exact goesOn ▸ .finished (added ▸ same ▸ List.mem_cons_self)
        · rintro _ ⟨⟩
          exact missing
  | finished present =>
      rw [Race.advance_of_done left]
      exact converging

/-- However runs that see to node classes are interleaved on one cluster where nothing fails, each of
them succeeds, and is over after two steps. Once all are, the node classes are those of the start and
those that the runs asked for; of the latter, each that was missing at the start was created once, and
for those that were there no creation was tried. -/
theorem racing_bootstraps_converge (o : ι → Orchestrator) (s : Store) (moves : List (Move ι))
    (kinds : ∀ who, (o who).dialect ≠ .arc) (calm : ∀ op, s.failures op = [])
    (uninjected : ∀ op code, Move.inject op code ∉ moves) :
    let race : Race ι (Except Failure Unit) :=
      { store := s, programs := fun who => (o who).ensureNodeClass }
    let after := race.run moves
    (∀ who, 2 ≤ moves.countP (Move.isOf who) → ∃ result, after.programs who = .done result) ∧
    (∀ who result, after.programs who = .done result → result = .ok ()) ∧
    ((∀ who, ∃ result, after.programs who = .done result) →
      (∀ key, key ∈ after.store.nodeClasses ↔
        key ∈ s.nodeClasses ∨ ∃ who, (o who).nodeClassKey? = some key) ∧
      ∀ who key, (o who).nodeClassKey? = some key →
        (key ∉ s.nodeClasses → after.classesCreated.count key = 1) ∧
        (key ∈ s.nodeClasses → key ∉ after.classesAsked)) := by
  intro race after
  have keyed := fun who => exists_nodeClassKey (kinds who)
  have converging : Converging o s after := by
    refine Race.run_keeps ?_ (converging_start calm)
    rintro (⟨who, around⟩ | ⟨op, code⟩) member _ before
    · exact before.advance keyed who around
    · exact (uninjected op code member).elim
  have ended : ∀ who key result, (o who).nodeClassKey? = some key →
      after.programs who = .done result → result = .ok () ∧ key ∈ after.store.nodeClasses := by
    intro who key result own finished
    have ensuring := converging.programs who key own
    rw [finished] at ensuring
    exact ensuring.ended
  refine ⟨?_, ?_, fun finished => ⟨fun key => ⟨fun present => ?_, ?_⟩, fun who key own => ⟨?_, ?_⟩⟩⟩
  · intro who enough
    exact Race.done_of_endsWithin ((o who).endsWithin_ensureNodeClass.mono enough)
  · intro who result finished
    obtain ⟨key, own⟩ := keyed who
    exact (ended who key result own finished).1
  · rw [converging.classes] at present
    rcases List.mem_append.mp present with created | before
    · have asked := after.classesCreated_subset (List.mem_reverse.mp created)
      exact .inr (converging.asked key asked).2
    · exact .inl before
  · rintro (before | ⟨who, own⟩)
    · exact converging.of_start before
    · obtain ⟨result, finished⟩ := finished who
      exact (ended who key result own finished).2
  · intro missing
    obtain ⟨result, finished⟩ := finished who
    have present := (ended who key result own finished).2
    rw [converging.classes] at present
    rcases List.mem_append.mp present with created | before
    · exact List.count_eq_one_of_mem converging.distinct (List.mem_reverse.mp created)
    · exact (missing before).elim
  · intro before asked
    exact (converging.asked key asked).1 before

/-- Two runs that both find their class missing, beside one that finds its own there. -/
theorem racing_bootstraps_converge_of_three :
    let azure : Orchestrator := { dialect := .azure, config := { cloudProvider := .azure } }
    let aws : Orchestrator := { dialect := .aws "prod", config := { cloudProvider := .aws } }
    let o : Fin 3 → Orchestrator := fun who => if who = 2 then aws else azure
    let s := ({} : Store).insertNodeClass .ec2 "default"
    let around : Surroundings := ⟨"0", 0, none, ⟨⟨0, 0⟩, "claim-0"⟩⟩
    let moves : List (Move (Fin 3)) := [0, 1, 2, 1, 0, 2].map fun who => .step who around
    let race : Race (Fin 3) (Except Failure Unit) :=
      { store := s, programs := fun who => (o who).ensureNodeClass }
    let after := race.run moves
    ((∀ who, (o who).dialect ≠ .arc) ∧ (∀ op, s.failures op = []) ∧
      ∀ op code, Move.inject op code ∉ moves) ∧
    (∀ who, after.programs who = .done (.ok ())) ∧
    (∀ key, key ∈ after.store.nodeClasses ↔
      key ∈ s.nodeClasses ∨ ∃ who, (o who).nodeClassKey? = some key) ∧
    after.classesCreated.count (.aks, "default") = 1 ∧
    (.ec2, "default") ∉ after.classesAsked := by
  intro azure aws o s around moves
  have kinds : ∀ who, (o who).dialect ≠ .arc := by decide
  have calm : ∀ op, s.failures op = [] := fun _ => rfl
  have uninjected : ∀ op code, Move.inject op code ∉ moves := by
    intro op code member
    obtain ⟨_, -, step⟩ := List.mem_map.mp member
    cases step
  have twice : ∀ who, 2 ≤ moves.countP (Move.isOf who) := by decide
  have converges := racing_bootstraps_converge o s moves kinds calm uninjected
  -- What the race comes to follows from the theorem, so it is not computed here.
  dsimp only at converges ⊢
  generalize Race.run ⟨s, fun who => (o who).ensureNodeClass, []⟩ moves = after at converges ⊢
  obtain ⟨finished, fine, ended⟩ := converges
  have all : ∀ who, ∃ result, after.programs who = .done result :=
    fun who => finished who (twice who)
  obtain ⟨classes, once⟩ := ended all
  refine ⟨⟨kinds, calm, uninjected⟩, ?_, classes, ?_, ?_⟩
  · intro who
    obtain ⟨result, done⟩ := all who
    exact fine who result done ▸ done
  · exact (once 0 (.aks, "default") rfl).1 (by decide)
  · exact (once 2 (.ec2, "default") rfl).2 (by decide)

end Converging

end NodeSupply
