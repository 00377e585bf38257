import Mathlib.Logic.Function.Basic
import NodeSupply.Proofs.Cluster.Store

/-! Programs that race on one cluster. They take their steps one at a time and in any order, and between
two steps failures can be queued. Calls are answered by the shared store; everything else is answered
as the surroundings of that step have it, so identifiers can come from one source or from many, and
can repeat. What every move keeps, a race keeps; a program that nobody disturbs goes its usual way. -/

namespace NodeSupply

variable {ι α ε : Type}

/-- What the surroundings of a program have ready for its next step. -/
structure Surroundings where
  id : String
  moment : Nat
  interruption : Option Interruption
  /-- What a claim is stamped with that is created now. -/
  stamp : Stamp

/-- The answer to an effect, and the store after it. -/
def Surroundings.answer (around : Surroundings) (s : Store) : (e : Effect) → e.Answer × Store
  | .call c => s.perform around.stamp c
  | .freshId => (around.id, s)
  | .pause _ => ((), s)
  | .now => (around.moment, s)
  | .interruption _ => (around.interruption, s)
  | .rest _ _ => (around.interruption, s)

theorem Surroundings.answer_of_quiet (around : Surroundings) (s : Store) {e : Effect}
    (quiet : e.call? = none) : (around.answer s e).2 = s := by
  cases e with
  | call c => cases quiet
  | freshId => rfl
  | pause d => rfl
  | now => rfl
  | interruption deadline => rfl
  | rest d deadline => rfl

/-- A step that was taken: whose it was, its effect, and how this was answered. -/
structure Event (ι : Type) where
  who : ι
  effect : Effect
  answer : effect.Answer

/-- What happens next in a race. -/
inductive Move (ι : Type) where
  /-- A program takes its next step, if it has one. -/
  | step (who : ι) (around : Surroundings)
  /-- A failure is queued. -/
  | inject (op : Operation) (code : UInt16)

/-- Programs that share a store: what is left of each, and the steps taken so far. -/
structure Race (ι α : Type) where
  store : Store
  programs : ι → Program α
  history : List (Event ι) := []

/-- What a program came to, if it is at its end and succeeded. -/
def Program.success? : Program (Except ε α) → Option α
  | .done (.ok result) => some result
  | _ => none

namespace Race

/-- What the programs came to that are at their end and succeeded. -/
def results (r : Race ι (Except ε α)) (who : ι) : Option α := (r.programs who).success?

theorem results_eq_some_iff {r : Race ι (Except ε α)} {who : ι} {result : α} :
    r.results who = some result ↔ r.programs who = .done (.ok result) := by
  unfold results
  rcases r.programs who with (_ | _) | _ <;> simp [Program.success?]

variable [DecidableEq ι]

def advance (r : Race ι α) : Move ι → Race ι α
  | .inject op code => { r with store := r.store.failNext op code }
  | .step who around =>
    match r.programs who with
    | .done _ => r
    | .ask e next =>
      let (answer, store) := around.answer r.store e
      { store
        programs := Function.update r.programs who (next answer)
        history := r.history ++ [⟨who, e, answer⟩] }

def run (r : Race ι α) (moves : List (Move ι)) : Race ι α := moves.foldl advance r

variable {r : Race ι α} {who : ι} {around : Surroundings}

theorem advance_of_done {result : α} (ended : r.programs who = .done result) :
    r.advance (.step who around) = r := by
  simp only [advance, ended]

theorem advance_of_ask {e : Effect} {next : e.Answer → Program α}
    (asks : r.programs who = .ask e next) :
    r.advance (.step who around) =
      { store := (around.answer r.store e).2
        programs := Function.update r.programs who (next (around.answer r.store e).1)
        history := r.history ++ [⟨who, e, (around.answer r.store e).1⟩] } := by
  simp only [advance, asks]

theorem run_cons (r : Race ι α) (move : Move ι) (moves : List (Move ι)) :
    r.run (move :: moves) = (r.advance move).run moves := rfl

/-- What every move of a list keeps, all of them together keep. -/
theorem run_keeps {holds : Race ι α → Prop} {moves : List (Move ι)}
    (kept : ∀ move ∈ moves, ∀ r, holds r → holds (r.advance move)) (start : holds r) :
    holds (r.run moves) := by
  induction moves generalizing r with
  | nil => exact start
  | cons move rest ih =>
      refine ih (fun later member => kept later (List.mem_cons_of_mem _ member)) ?_
      exact kept move List.mem_cons_self r start

end Race

/-! ### Enough steps -/

/-- Whether a program ends within a number of steps, however these are answered. -/
def Program.EndsWithin : Program α → Nat → Prop
  | .done _, _ => True
  | .ask _ _, 0 => False
  | .ask _ next, steps + 1 => ∀ answer, EndsWithin (next answer) steps

theorem Program.EndsWithin.mono {p : Program α} {few many : Nat} (within : p.EndsWithin few)
    (more : few ≤ many) : p.EndsWithin many := by
  induction p generalizing few many with
  | done result => trivial
  | ask e next ih =>
      cases few with
      | zero => exact within.elim
      | succ few =>
          cases many with
          | zero => cases more
          | succ many => exact fun answer => ih answer (within answer) (Nat.le_of_succ_le_succ more)

theorem Program.EndsWithin.done_of_zero {p : Program α} (within : p.EndsWithin 0) :
    ∃ result, p = .done result := by
  cases p with
  | done result => exact ⟨result, rfl⟩
  | ask e next => exact within.elim

variable [DecidableEq ι]

/-- Whether a move is a step of a program. -/
def Move.isOf (who : ι) : Move ι → Bool
  | .step other _ => other = who
  | .inject _ _ => false

namespace Race

variable {r : Race ι α} {who : ι}

theorem programs_advance_of_other {move : Move ι} (other : move.isOf who = false) :
    (r.advance move).programs who = r.programs who := by
  cases move with
  | inject op code => rfl
  | step mover around =>
      have differ : who ≠ mover := fun same => of_decide_eq_false other same.symm
      cases left : r.programs mover with
      | done result => rw [advance_of_done left]
      | ask e next =>
          rw [advance_of_ask left]
          exact Function.update_of_ne differ _ _

theorem endsWithin_advance {move : Move ι} (own : move.isOf who = true) {steps : Nat}
    (within : (r.programs who).EndsWithin (steps + 1)) :
    ((r.advance move).programs who).EndsWithin steps := by
  cases move with
  | inject op code => cases own
  | step mover around =>
      obtain rfl : mover = who := of_decide_eq_true own
      cases left : r.programs mover with
      | done result =>
          rw [advance_of_done left, left]
          trivial
      | ask e next =>
          rw [left] at within
          simp only [advance_of_ask left, Function.update_self]
          exact within _

/-- A program that has had as many steps as it can take is at its end. -/
theorem done_of_endsWithin {moves : List (Move ι)}
    (within : (r.programs who).EndsWithin (moves.countP (Move.isOf who))) :
    ∃ result, (r.run moves).programs who = .done result := by
  induction moves generalizing r with
  | nil => exact within.done_of_zero
  | cons move rest ih =>
      refine ih ?_
      cases own : move.isOf who with
      | true =>
          rw [List.countP_cons_of_pos own] at within
          exact endsWithin_advance own within
      | false =>
          rw [List.countP_cons_of_neg (Bool.not_eq_true _ ▸ own)] at within
          rw [programs_advance_of_other own]
          exact within

end Race

/-! ### Without a rival -/

variable {κ : Type} [IdSource κ]

/-- What a world has ready for an effect. -/
def World.around (w : World StampedStore κ) (e : Effect) : Surroundings where
  id := (IdSource.take w.ids).1
  moment := w.clock
  interruption :=
    match e with
    | .interruption deadline => w.interruption deadline
    | .rest d deadline => (w.restEnd d deadline).2
    | _ => none
  stamp := w.cluster.stamp

theorem World.answer_around (w : World StampedStore κ) (e : Effect) :
    (w.around e).answer w.cluster.store e =
      ((w.perform StampedStore.serve e).1, (w.perform StampedStore.serve e).2.cluster.store) := by
  cases asked : e.call? with
  | some c =>
      cases e with
      | call c => rfl
      | _ => cases asked
  | none =>
      rw [w.perform_cluster_of_quiet StampedStore.serve asked]
      cases e with
      | call c => cases asked
      | _ => rfl

/-- A program that takes all its steps while the others stand still comes to what it comes to when it is
run by itself, and leaves the same store behind. This is a result of its own: it ties races to runs, so
that what holds of every race holds of every single run. -/
theorem Race.exists_moves_of_run (r : Race ι α) (who : ι) (w : World StampedStore κ)
    (begins : w.cluster.store = r.store) :
    ∃ moves, (∀ move ∈ moves, move.isOf who = true) ∧
      (r.run moves).store = ((r.programs who).run StampedStore.serve w).2.cluster.store ∧
      (r.run moves).programs =
        Function.update r.programs who
          (.done ((r.programs who).run StampedStore.serve w).1) := by
  induction left : r.programs who generalizing r w with
  | done result =>
      refine ⟨[], ?_, begins.symm, ?_⟩
      · intro move member
        cases member
      · rw [Program.run_done, ← left, Function.update_eq_self]
        rfl
  | ask e next ih =>
      have answered := w.answer_around e
      rw [begins] at answered
      have advanced : r.advance (.step who (w.around e)) = _ := advance_of_ask left
      rw [answered] at advanced
      obtain ⟨moves, own, store, programs⟩ := ih _ (r.advance (.step who (w.around e)))
        (w.perform StampedStore.serve e).2 (by rw [advanced])
        (by rw [advanced]; exact Function.update_self ..)
      refine ⟨.step who (w.around e) :: moves, ?_, store, ?_⟩
      · exact List.forall_mem_cons.mpr ⟨decide_eq_true rfl, own⟩
      · rw [run_cons, programs, advanced]
        exact Function.update_idem ..

end NodeSupply
