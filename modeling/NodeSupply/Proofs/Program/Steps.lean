import Mathlib.Data.List.Basic
import NodeSupply.World

/-! The steps of a run: which effects a program asks for, in which worlds. What holds at every step
and at the end is computed along the program (`Upholds`), so that it can be proved piece by piece;
what a program can ask for at all is read off its text (`Makes`). -/

namespace NodeSupply

/-- The call that an effect makes, if it makes one. -/
def Effect.call? : Effect → Option Call
  | .call c => some c
  | _ => none

theorem World.cluster_of_clock {σ ι : Type} (w : World σ ι) (moment : Nat) :
    ({ w with clock := moment } : World σ ι).cluster = w.cluster := rfl

/-- Only calls change the cluster. -/
theorem World.perform_cluster_of_quiet {σ ι : Type} [IdSource ι] (serve : Server σ) (w : World σ ι)
    {e : Effect} (quiet : e.call? = none) : (w.perform serve e).2.cluster = w.cluster := by
  cases e with
  | call c => cases quiet
  | freshId => rfl
  -- The moments stay unnamed here: checking by computation would count their nanoseconds.
  | pause d => exact w.cluster_of_clock _
  | now => rfl
  | interruption deadline => rfl
  | rest d deadline => exact w.cluster_of_clock _

theorem World.cancelAt_of_clock {σ ι : Type} (w : World σ ι) (moment : Nat) :
    ({ w with clock := moment } : World σ ι).cancelAt = w.cancelAt := rfl

theorem World.perform_cancelAt {σ ι : Type} [IdSource ι] (serve : Server σ) (w : World σ ι)
    (e : Effect) : (w.perform serve e).2.cancelAt = w.cancelAt := by
  cases e with
  | call c => rfl
  | freshId => rfl
  | pause d => exact w.cancelAt_of_clock _
  | now => rfl
  | interruption deadline => rfl
  | rest d deadline => exact w.cancelAt_of_clock _

namespace Program

variable {σ ι α β ε : Type} [IdSource ι]

/-- The effects of a run in order, each with the world in which it is asked for. -/
def steps (serve : Server σ) : Program α → World σ ι → List (World σ ι × Effect)
  | .done _, _ => []
  | .ask e next, w => (w, e) :: (next (w.perform serve e).1).steps serve (w.perform serve e).2

/-- The calls of a run, in order. -/
def calls (serve : Server σ) (p : Program α) (w : World σ ι) : List Call :=
  (p.steps serve w).filterMap fun step => step.2.call?

/-- The worlds that a run passes through, the first and the last included. -/
def worlds (serve : Server σ) (p : Program α) (w : World σ ι) : List (World σ ι) :=
  (p.steps serve w).map (·.1) ++ [(p.run serve w).2]

/-- Programs run one after the other, whatever each of them comes to. -/
def inTurn : List (Program α) → Program (List α)
  | [] => .done []
  | p :: rest => p.bind fun result => (inTurn rest).bind fun results => .done (result :: results)

variable (serve : Server σ)

theorem run_mem_worlds (p : Program α) (w : World σ ι) :
    (p.run serve w).2 ∈ p.worlds serve w := List.mem_append_right _ List.mem_cons_self

@[simp] theorem run_done (result : α) (w : World σ ι) :
    (Program.done result).run serve w = (result, w) := rfl

theorem run_ask (e : Effect) (next : e.Answer → Program α) (w : World σ ι) :
    (Program.ask e next).run serve w =
      (next (w.perform serve e).1).run serve (w.perform serve e).2 := rfl

@[simp] theorem run_call (c : Call) (w : World σ ι) :
    (call c).run serve w =
      ((serve c w.cluster).1, { w with cluster := (serve c w.cluster).2 }) := rfl

theorem run_andThen (p : Program (Except ε α)) (f : α → Program (Except ε β)) (w : World σ ι) :
    (p.andThen f).run serve w =
      match (p.run serve w).1 with
      | .error failure => (.error failure, (p.run serve w).2)
      | .ok a => (f a).run serve (p.run serve w).2 := by
  rw [andThen, run_bind]
  cases (p.run serve w).1 <;> rfl

theorem run_mapOk (p : Program (Except ε α)) (f : α → β) (w : World σ ι) :
    (p.mapOk f).run serve w = ((p.run serve w).1.map f, (p.run serve w).2) := by
  rw [mapOk, run_bind]
  rfl

variable {serve} in
theorem ok_of_mapOk {p : Program (Except ε α)} {f : α → β} {w : World σ ι} {b : β}
    (success : ((p.mapOk f).run serve w).1 = .ok b) :
    ∃ a, (p.run serve w).1 = .ok a ∧ f a = b := by
  rw [run_mapOk] at success
  cases result : (p.run serve w).1 with
  | error failure =>
      rw [result] at success
      cases success
  | ok a =>
      rw [result] at success
      exact ⟨a, rfl, Except.ok.inj success⟩

theorem steps_bind (p : Program α) (f : α → Program β) (w : World σ ι) :
    (p.bind f).steps serve w =
      p.steps serve w ++ (f (p.run serve w).1).steps serve (p.run serve w).2 := by
  induction p generalizing w with
  | done result => rfl
  | ask e next ih => simp only [bind_ask, steps, run_ask, ih, List.cons_append]

theorem calls_bind (p : Program α) (f : α → Program β) (w : World σ ι) :
    (p.bind f).calls serve w =
      p.calls serve w ++ (f (p.run serve w).1).calls serve (p.run serve w).2 := by
  simp only [calls, steps_bind, List.filterMap_append]

@[simp] theorem calls_done (result : α) (w : World σ ι) :
    (Program.done result).calls serve w = [] := rfl

@[simp] theorem calls_call (c : Call) (w : World σ ι) : (call c).calls serve w = [c] := rfl

theorem calls_ask (e : Effect) (next : e.Answer → Program α) (w : World σ ι) :
    (ask e next).calls serve w =
      e.call?.toList ++ (next (w.perform serve e).1).calls serve (w.perform serve e).2 := by
  rw [calls, steps, List.filterMap_cons]
  cases e.call? <;> rfl

theorem calls_andThen (p : Program (Except ε α)) (f : α → Program (Except ε β)) (w : World σ ι) :
    (p.andThen f).calls serve w =
      p.calls serve w ++
        match (p.run serve w).1 with
        | .error _ => []
        | .ok a => (f a).calls serve (p.run serve w).2 := by
  rw [andThen, calls_bind]
  cases (p.run serve w).1 <;> rfl

theorem calls_mapOk (p : Program (Except ε α)) (f : α → β) (w : World σ ι) :
    (p.mapOk f).calls serve w = p.calls serve w := by
  rw [mapOk, calls_bind, calls_done, List.append_nil]

theorem mem_worlds_self (p : Program α) (w : World σ ι) : w ∈ p.worlds serve w := by
  cases p with
  | done result => exact List.mem_singleton_self w
  | ask e next => exact List.mem_cons_self

theorem worlds_bind (p : Program α) (f : α → Program β) (w : World σ ι) :
    (p.bind f).worlds serve w =
      (p.steps serve w).map (·.1) ++ (f (p.run serve w).1).worlds serve (p.run serve w).2 := by
  rw [worlds, worlds, steps_bind, run_bind, List.map_append, List.append_assoc]

theorem mem_worlds_bind {p : Program α} (f : α → Program β) {w v : World σ ι}
    (passed : v ∈ p.worlds serve w) : v ∈ (p.bind f).worlds serve w := by
  rw [worlds_bind]
  rcases List.mem_append.mp passed with inner | last
  · exact List.mem_append_left _ inner
  · rw [List.mem_singleton.mp last]
    exact List.mem_append_right _ (mem_worlds_self serve _ _)

theorem mem_worlds_andThen {p : Program (Except ε α)} {f : α → Program (Except ε β)}
    {w v : World σ ι} {a : α} (success : (p.run serve w).1 = .ok a)
    (passed : v ∈ (f a).worlds serve (p.run serve w).2) : v ∈ (p.andThen f).worlds serve w := by
  rw [andThen, worlds_bind, success]
  exact List.mem_append_right _ passed

/-- What a run does to the cluster is what its calls do to it. -/
theorem run_cluster (p : Program α) (w : World σ ι) :
    (p.run serve w).2.cluster =
      (p.calls serve w).foldl (fun cluster c => (serve c cluster).2) w.cluster := by
  induction p generalizing w with
  | done result => rfl
  | ask e next ih =>
      rw [run_ask, ih, calls_ask, List.foldl_append]
      congr 1
      cases called : e.call? with
      | none => exact w.perform_cluster_of_quiet serve called
      | some c =>
          cases e <;> cases called
          rfl

/-- A run does not move the moment at which waits are cancelled. -/
theorem run_cancelAt (p : Program α) (w : World σ ι) :
    (p.run serve w).2.cancelAt = w.cancelAt := by
  induction p generalizing w with
  | done result => rfl
  | ask e next ih => rw [run_ask, ih, World.perform_cancelAt]

/-- A run with its result, the moment of its end and its calls. -/
structure Ends (serve : Server σ) (p : Program α) (w : World σ ι) (result : α) (moment : Nat)
    (calls : List Call) : Prop where
  result : (p.run serve w).1 = result
  moment : (p.run serve w).2.clock = moment
  calls : p.calls serve w = calls

variable {serve} in
theorem Ends.bind {p : Program α} {f : α → Program β} {w v : World σ ι} {a : α} {result : β}
    {moment : Nat} {later : List Call} (first : p.run serve w = (a, v))
    (rest : (f a).Ends serve v result moment later) :
    (p.bind f).Ends serve w result moment (p.calls serve w ++ later) where
  result := by
    rw [run_bind, first]
    exact rest.result
  moment := by
    rw [run_bind, first]
    exact rest.moment
  calls := by
    rw [calls_bind, first]
    exact congrArg _ rest.calls

/-! ### What holds along a run -/

/-- Whether every step of a run meets one condition, and its result and last world another. -/
def Upholds (each : World σ ι → Effect → Prop) (last : α → World σ ι → Prop) :
    Program α → World σ ι → Prop
  | .done result, w => last result w
  | .ask e next, w =>
    each w e ∧ Upholds each last (next (w.perform serve e).1) (w.perform serve e).2

variable {serve} {each : World σ ι → Effect → Prop}

theorem upholds_iff {last : α → World σ ι → Prop} (p : Program α) (w : World σ ι) :
    p.Upholds serve each last w ↔
      (∀ step ∈ p.steps serve w, each step.1 step.2) ∧
        last (p.run serve w).1 (p.run serve w).2 := by
  induction p generalizing w with
  | done result => simp only [Upholds, steps, List.not_mem_nil, false_implies, implies_true,
      true_and, run_done]
  | ask e next ih => simp only [Upholds, steps, run_ask, ih, List.forall_mem_cons, and_assoc]

theorem upholds_bind {last : β → World σ ι → Prop} (p : Program α) (f : α → Program β)
    (w : World σ ι) :
    (p.bind f).Upholds serve each last w ↔
      p.Upholds serve each (fun a v => (f a).Upholds serve each last v) w := by
  induction p generalizing w with
  | done result => rfl
  | ask e next ih => simp only [bind_ask, Upholds, ih]

theorem Upholds.bind {middle : α → World σ ι → Prop} {last : β → World σ ι → Prop}
    {p : Program α} {f : α → Program β} {w : World σ ι} (first : p.Upholds serve each middle w)
    (second : ∀ a v, middle a v → (f a).Upholds serve each last v) :
    (p.bind f).Upholds serve each last w := by
  rw [upholds_bind, upholds_iff]
  rw [upholds_iff] at first
  exact ⟨first.1, second _ _ first.2⟩

theorem Upholds.mono {looser : World σ ι → Effect → Prop} {last weaker : α → World σ ι → Prop}
    {p : Program α} {w : World σ ι} (upheld : p.Upholds serve each last w)
    (loosen : ∀ v e, each v e → looser v e) (weaken : ∀ a v, last a v → weaker a v) :
    p.Upholds serve looser weaker w := by
  rw [upholds_iff] at upheld ⊢
  exact ⟨fun step member => loosen _ _ (upheld.1 step member), weaken _ _ upheld.2⟩

theorem Upholds.and {other : World σ ι → Effect → Prop} {last final : α → World σ ι → Prop}
    {p : Program α} {w : World σ ι} (first : p.Upholds serve each last w)
    (second : p.Upholds serve other final w) :
    p.Upholds serve each (fun a v => last a v ∧ final a v) w := by
  rw [upholds_iff] at *
  exact ⟨first.1, first.2, second.2⟩

theorem Upholds.ended {last : α → World σ ι → Prop} {p : Program α} {w : World σ ι}
    (upheld : p.Upholds serve each last w) : last (p.run serve w).1 (p.run serve w).2 :=
  ((upholds_iff p w).mp upheld).2

theorem upholds_call {c : Call} {last : c.Outcome → World σ ι → Prop} {w : World σ ι}
    (asked : each w (.call c))
    (answered : last (serve c w.cluster).1 { w with cluster := (serve c w.cluster).2 }) :
    (call c).Upholds serve each last w := ⟨asked, answered⟩

theorem Upholds.andThen {middle : Except ε α → World σ ι → Prop}
    {last : Except ε β → World σ ι → Prop} {p : Program (Except ε α)}
    {f : α → Program (Except ε β)} {w : World σ ι} (first : p.Upholds serve each middle w)
    (failed : ∀ failure v, middle (.error failure) v → last (.error failure) v)
    (second : ∀ a v, middle (.ok a) v → (f a).Upholds serve each last v) :
    (p.andThen f).Upholds serve each last w := by
  refine first.bind ?_
  intro result v holds
  cases result with
  | error failure => exact failed failure v holds
  | ok a => exact second a v holds

theorem Upholds.mapOk {last : Except ε β → World σ ι → Prop} {p : Program (Except ε α)}
    {f : α → β} {w : World σ ι}
    (upheld : p.Upholds serve each (fun result v => last (result.map f) v) w) :
    (p.mapOk f).Upholds serve each last w :=
  upheld.bind fun _ _ holds => holds

/-- A condition on worlds that every step and the end of a run meets is met by all its worlds. -/
theorem Upholds.worlds {holds : World σ ι → Prop} {p : Program α} {w : World σ ι}
    (upheld : p.Upholds serve (fun v _ => holds v) (fun _ v => holds v) w) :
    ∀ v ∈ p.worlds serve w, holds v := by
  rw [upholds_iff] at upheld
  intro v member
  rcases List.mem_append.mp member with inner | final
  · obtain ⟨step, stepped, rfl⟩ := List.mem_map.mp inner
    exact upheld.1 step stepped
  · rw [List.mem_singleton.mp final]
    exact upheld.2

theorem upholds_inTurn {holds : World σ ι → Prop} (ps : List (Program α))
    (kept : ∀ p ∈ ps, ∀ v, holds v → p.Upholds serve (fun v _ => holds v) (fun _ v => holds v) v)
    (w : World σ ι) (start : holds w) :
    (inTurn ps).Upholds serve (fun v _ => holds v) (fun _ v => holds v) w := by
  induction ps generalizing w with
  | nil => exact start
  | cons p rest ih =>
      refine (kept p List.mem_cons_self w start).bind ?_
      intro _ v middle
      refine (ih (fun q member => kept q (List.mem_cons_of_mem _ member)) v middle).bind ?_
      intro _ _ final
      exact final

/-! ### What a program can ask for -/

/-- Whether every call that a program can make is allowed, whatever its effects are answered with. -/
def Makes (allowed : Call → Prop) : Program α → Prop
  | .done _ => True
  | .ask e next => (∀ c, e.call? = some c → allowed c) ∧ ∀ answer, Makes allowed (next answer)

variable {allowed : Call → Prop}

theorem makes_call {c : Call} (fine : allowed c) : (call c).Makes allowed := by
  refine ⟨?_, fun _ => trivial⟩
  intro other same
  cases same
  exact fine

theorem makes_perform {e : Effect} (quiet : e.call? = none) : (perform e).Makes allowed := by
  refine ⟨?_, fun _ => trivial⟩
  intro c same
  rw [quiet] at same
  cases same

theorem Makes.mono {wider : Call → Prop} {p : Program α} (makes : p.Makes allowed)
    (widen : ∀ c, allowed c → wider c) : p.Makes wider := by
  induction p with
  | done result => trivial
  | ask e next ih =>
      refine ⟨fun c asked => widen c (makes.1 c asked), ?_⟩
      intro answer
      exact ih answer (makes.2 answer)

theorem Makes.bind {p : Program α} {f : α → Program β} (first : p.Makes allowed)
    (second : ∀ a, (f a).Makes allowed) : (p.bind f).Makes allowed := by
  induction p with
  | done result => exact second result
  | ask e next ih => exact ⟨first.1, fun answer => ih answer (first.2 answer)⟩

theorem Makes.andThen {p : Program (Except ε α)} {f : α → Program (Except ε β)}
    (first : p.Makes allowed) (second : ∀ a, (f a).Makes allowed) :
    (p.andThen f).Makes allowed := by
  refine first.bind ?_
  rintro (_ | a)
  · trivial
  · exact second a

theorem Makes.mapOk {p : Program (Except ε α)} {f : α → β} (makes : p.Makes allowed) :
    (p.mapOk f).Makes allowed := makes.bind fun _ => trivial

theorem Makes.calls {p : Program α} (makes : p.Makes allowed) (w : World σ ι) :
    ∀ c ∈ p.calls serve w, allowed c := by
  induction p generalizing w with
  | done result => simp only [Program.calls, steps, List.filterMap_nil, List.not_mem_nil,
      false_implies, implies_true]
  | ask e next ih =>
      intro c member
      obtain ⟨step, stepped, asked⟩ := List.mem_filterMap.mp member
      rcases List.mem_cons.mp stepped with rfl | later
      · exact makes.1 c asked
      · exact ih _ (makes.2 _) _ c (List.mem_filterMap.mpr ⟨step, later, asked⟩)

/-- What none of the calls of a run destroys, and no other effect either, holds all along the run. -/
theorem upholds_of_calls {holds : World σ ι → Prop} {p : Program α} {w : World σ ι}
    (calls : ∀ c ∈ p.calls serve w, allowed c)
    (kept : ∀ v e, (∀ c, e.call? = some c → allowed c) → holds v → holds (v.perform serve e).2)
    (start : holds w) : p.Upholds serve (fun v _ => holds v) (fun _ v => holds v) w := by
  induction p generalizing w with
  | done result => exact start
  | ask e next ih =>
      have asked : ∀ c, e.call? = some c → allowed c := by
        intro c same
        exact calls c (List.mem_filterMap.mpr ⟨(w, e), List.mem_cons_self, same⟩)
      refine ⟨start, ih _ ?_ (kept w e asked start)⟩
      intro c later
      obtain ⟨step, stepped, same⟩ := List.mem_filterMap.mp later
      exact calls c (List.mem_filterMap.mpr ⟨step, List.mem_cons_of_mem _ stepped, same⟩)

/-- What no effect destroys holds along every run. -/
theorem upholds_of_kept {holds : World σ ι → Prop} {p : Program α} {w : World σ ι}
    (kept : ∀ v e, holds v → holds (v.perform serve e).2) (start : holds w) :
    p.Upholds serve (fun v _ => holds v) (fun _ v => holds v) w := by
  have anything : ∀ c ∈ p.calls serve w, True := fun _ _ => trivial
  exact upholds_of_calls anything (fun v e _ => kept v e) start

/-- What no allowed call and no other effect destroys holds along every run. -/
theorem Makes.upholds {holds : World σ ι → Prop} {p : Program α} (makes : p.Makes allowed)
    (kept : ∀ v e, (∀ c, e.call? = some c → allowed c) → holds v → holds (v.perform serve e).2)
    {w : World σ ι} (start : holds w) :
    p.Upholds serve (fun v _ => holds v) (fun _ v => holds v) w :=
  upholds_of_calls (makes.calls w) kept start

/-! ### What holds along a run up to an exception -/

/-- Whether every step of a run meets one condition up to the first that stops it, and, if none does,
its result and last world another. -/
def UpholdsUntil (serve : Server σ) (stop each : World σ ι → Effect → Prop)
    (last : α → World σ ι → Prop) : Program α → World σ ι → Prop
  | .done result, w => last result w
  | .ask e next, w =>
    each w e ∧ (stop w e ∨
      UpholdsUntil serve stop each last (next (w.perform serve e).1) (w.perform serve e).2)

variable {stop : World σ ι → Effect → Prop}

theorem Upholds.until {last : α → World σ ι → Prop} {p : Program α} {w : World σ ι}
    (upheld : p.Upholds serve each last w) : p.UpholdsUntil serve stop each last w := by
  induction p generalizing w with
  | done result => exact upheld
  | ask e next ih => exact ⟨upheld.1, .inr (ih _ upheld.2)⟩

theorem until_call {c : Call} {last : c.Outcome → World σ ι → Prop} {w : World σ ι}
    (asked : each w (.call c))
    (answered : stop w (.call c) ∨
      last (serve c w.cluster).1 { w with cluster := (serve c w.cluster).2 }) :
    (call c).UpholdsUntil serve stop each last w := ⟨asked, answered⟩

theorem UpholdsUntil.bind {middle : α → World σ ι → Prop} {last : β → World σ ι → Prop}
    {p : Program α} {f : α → Program β} {w : World σ ι}
    (first : p.UpholdsUntil serve stop each middle w)
    (second : ∀ a v, middle a v → (f a).UpholdsUntil serve stop each last v) :
    (p.bind f).UpholdsUntil serve stop each last w := by
  induction p generalizing w with
  | done result => exact second result w first
  | ask e next ih => exact ⟨first.1, first.2.imp id fun rest => ih _ rest⟩

theorem UpholdsUntil.andThen {middle : Except ε α → World σ ι → Prop}
    {last : Except ε β → World σ ι → Prop} {p : Program (Except ε α)}
    {f : α → Program (Except ε β)} {w : World σ ι}
    (first : p.UpholdsUntil serve stop each middle w)
    (failed : ∀ failure v, middle (.error failure) v → last (.error failure) v)
    (second : ∀ a v, middle (.ok a) v → (f a).UpholdsUntil serve stop each last v) :
    (p.andThen f).UpholdsUntil serve stop each last w := by
  refine first.bind ?_
  intro result v holds
  cases result with
  | error failure => exact failed failure v holds
  | ok a => exact second a v holds

theorem UpholdsUntil.mapOk {last : Except ε β → World σ ι → Prop} {p : Program (Except ε α)}
    {f : α → β} {w : World σ ι}
    (upheld : p.UpholdsUntil serve stop each (fun result v => last (result.map f) v) w) :
    (p.mapOk f).UpholdsUntil serve stop each last w :=
  upheld.bind fun _ _ holds => holds

/-- Every world of a run meets what its steps and its end do, unless a step before it stops this. -/
theorem UpholdsUntil.worlds {holds : World σ ι → Prop} {p : Program α} {w : World σ ι}
    (upheld : p.UpholdsUntil serve stop (fun v _ => holds v) (fun _ v => holds v) w) (k : Nat)
    {v : World σ ι} (reached : (p.worlds serve w)[k]? = some v) :
    holds v ∨ ∃ step ∈ (p.steps serve w).take k, stop step.1 step.2 := by
  induction p generalizing w k with
  | done result =>
      obtain rfl : w = v := by
        rw [Program.worlds, steps, List.map_nil, List.nil_append, run_done] at reached
        exact List.mem_singleton.mp (List.mem_of_getElem? reached) |>.symm
      exact .inl upheld
  | ask e next ih =>
      cases k with
      | zero =>
          obtain rfl : w = v := Option.some.inj reached
          exact .inl upheld.1
      | succ k =>
          rw [steps, List.take_succ_cons]
          rcases upheld.2 with stopped | rest
          · exact .inr ⟨(w, e), List.mem_cons_self, stopped⟩
          · refine (ih _ rest k reached).imp id ?_
            rintro ⟨step, earlier, stops⟩
            exact ⟨step, List.mem_cons_of_mem _ earlier, stops⟩

end Program

end NodeSupply
