import NodeSupply.Proofs.Program.Steps

/-! Which refusal a run ends with. A call that succeeds takes the refusals before it away, so what is left at
the end is the last call, if it was refused. What holds of it and of the result is computed along the
program, for every answer that an effect can have, so it holds on every cluster. -/

namespace NodeSupply

/-- A call with the fault with which it was refused. -/
structure Refusal where
  call : Call
  fault : ClusterFault

/-- Whether the refusal that is left is the one that the outcome of a call reports. -/
inductive Call.Reports (c : Call) : c.Outcome → Option Refusal → Prop
  | refused (fault : ClusterFault) : c.Reports (.error fault) (some ⟨c, fault⟩)
  | answered (a : c.Answer) : c.Reports (.ok a) none

/-- The refusal that is left after an effect. -/
def Effect.refusalAfter : (e : Effect) → e.Answer → Option Refusal → Option Refusal
  | .call c, .error fault, _ => some ⟨c, fault⟩
  | .call _, .ok _, _ => none
  | .freshId, _, last => last
  | .pause _, _, last => last
  | .now, _, last => last
  | .interruption _, _, last => last
  | .rest _ _, _, last => last

namespace Program

variable {σ ι α β ε : Type} [IdSource ι]

/-- The refusal that is left after a run, where one may be left from before. -/
def refusalAfter (serve : Server σ) : Program α → World σ ι → Option Refusal → Option Refusal
  | .done _, _, last => last
  | .ask e next, w, last =>
    (next (w.perform serve e).1).refusalAfter serve (w.perform serve e).2
      (e.refusalAfter (w.perform serve e).1 last)

/-- The last call of a run with the fault that it was refused with, if it was refused. -/
def refusal? (serve : Server σ) (p : Program α) (w : World σ ι) : Option Refusal :=
  p.refusalAfter serve w none

/-- Whether a condition on the result and the refusal that is left holds whatever the effects of a
program are answered with. -/
def Leaves (post : α → Option Refusal → Prop) : Program α → Option Refusal → Prop
  | .done a, last => post a last
  | .ask e next, last => ∀ answer, Leaves post (next answer) (e.refusalAfter answer last)

variable {post : α → Option Refusal → Prop} {p : Program α} {last : Option Refusal}

theorem Leaves.run (leaves : p.Leaves post last) (serve : Server σ) (w : World σ ι) :
    post (p.run serve w).1 (p.refusalAfter serve w last) := by
  induction p generalizing w last with
  | done a => exact leaves
  | ask e next ih => exact ih _ (leaves _) _

theorem Leaves.bind {middle : β → Option Refusal → Prop} {q : Program β} {f : β → Program α}
    (first : q.Leaves middle last) (second : ∀ b later, middle b later → (f b).Leaves post later) :
    (q.bind f).Leaves post last := by
  induction q generalizing last with
  | done b => exact second b last first
  | ask e next ih => exact fun answer => ih answer (first answer)

theorem leaves_reports (c : Call) : (call c).Leaves c.Reports last := by
  rintro (fault | a)
  · exact .refused fault
  · exact .answered a

theorem leaves_call {c : Call} {f : c.Outcome → Program α}
    (refused : ∀ fault, (f (.error fault)).Leaves post (some ⟨c, fault⟩))
    (answered : ∀ a, (f (.ok a)).Leaves post none) : ((call c).bind f).Leaves post last := by
  refine (leaves_reports c).bind ?_
  rintro _ _ (fault | a)
  · exact refused fault
  · exact answered a

theorem Leaves.mono {weaker : α → Option Refusal → Prop} (leaves : p.Leaves post last)
    (weaken : ∀ a later, post a later → weaker a later) : p.Leaves weaker last := by
  induction p generalizing last with
  | done a => exact weaken a last leaves
  | ask e next ih => exact fun answer => ih answer (leaves answer)

theorem Leaves.andThen {middle : Except ε β → Option Refusal → Prop}
    {post : Except ε α → Option Refusal → Prop} {q : Program (Except ε β)}
    {f : β → Program (Except ε α)} (first : q.Leaves middle last)
    (failed : ∀ failure later, middle (.error failure) later → post (.error failure) later)
    (second : ∀ b later, middle (.ok b) later → (f b).Leaves post later) :
    (q.andThen f).Leaves post last := by
  refine first.bind ?_
  intro result later holds
  cases result with
  | error failure => exact failed failure later holds
  | ok b => exact second b later holds

/-- The refusal that a run leaves is that of its last call. -/
theorem getLast?_calls (serve : Server σ) (p : Program α) (w : World σ ι) {r : Refusal}
    (left : p.refusal? serve w = some r) : (p.calls serve w).getLast? = some r.call := by
  have either : ∀ last, p.refusalAfter serve w last = some r →
      (p.calls serve w).getLast? = some r.call ∨ p.calls serve w = [] ∧ last = some r := by
    clear left
    induction p generalizing w with
    | done a => exact fun _ left => .inr ⟨rfl, left⟩
    | ask e next ih =>
        intro last left
        rw [calls_ask, List.getLast?_append]
        rcases ih _ _ _ left with called | ⟨none, after⟩
        · rw [called]
          exact .inl rfl
        · rw [none]
          cases e with
          | call c =>
              change Effect.refusalAfter (.call c) (serve c w.cluster).1 last = some r at after
              cases answer : (serve c w.cluster).1 with
              | ok _ =>
                  rw [answer] at after
                  cases after
              | error fault =>
                  rw [answer] at after
                  cases after
                  exact .inl rfl
          | _ => exact .inr ⟨rfl, after⟩
  rcases either none left with called | ⟨-, nothing⟩
  · exact called
  · cases nothing

end Program

end NodeSupply
