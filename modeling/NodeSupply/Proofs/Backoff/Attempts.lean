import Mathlib.Data.Nat.Find
import NodeSupply.Proofs.Orchestrator.Listing

/-! The attempts of a schedule. Whatever an operation comes to each time, it is tried until it succeeds,
fails for good or has no attempt left, and the pauses between its attempts are those of the schedule in
order. The attempts are counted within 32 bits, however many there may be. -/

namespace NodeSupply.Backoff

variable {ε α S : Type} (b : Backoff) (retriable : ε → Bool)

theorem attempts_pos : 0 < b.attempts := Nat.le_max_right _ _

theorem attempts_lt : b.attempts < UInt32.size := Nat.max_lt.mpr ⟨b.steps.toNat_lt, by decide⟩

/-! ### The last attempt -/

/-- Whether no attempt follows attempt `i`, of which the first has number zero. -/
def EndsAt (outcomes : Nat → Except ε α) (i : Nat) : Prop :=
  (∃ value, outcomes i = .ok value) ∨
    (∃ e, outcomes i = .error e ∧ retriable e = false) ∨ i + 1 = b.attempts

/-- Whether attempt `i` is the first that no attempt follows. -/
structure IsLast (outcomes : Nat → Except ε α) (i : Nat) : Prop where
  ends : b.EndsAt retriable outcomes i
  before : ∀ k < i, ¬ b.EndsAt retriable outcomes k

theorem exists_isLast (outcomes : Nat → Except ε α) :
    ∃ i < b.attempts, b.IsLast retriable outcomes i := by
  classical
  have final : b.EndsAt retriable outcomes (b.attempts - 1) :=
    .inr (.inr (Nat.sub_add_cancel b.attempts_pos))
  have present : ∃ i, b.EndsAt retriable outcomes i := ⟨_, final⟩
  refine ⟨Nat.find present, ?_, Nat.find_spec present, fun k => Nat.find_min present⟩
  exact Nat.lt_of_le_of_lt (Nat.find_min' present final) (Nat.sub_one_lt_of_lt b.attempts_pos)

variable {b retriable}

/-- An attempt that another one follows has failed, but not for good. -/
theorem failed_of_not_endsAt {outcomes : Nat → Except ε α} {k : Nat}
    (goesOn : ¬ b.EndsAt retriable outcomes k) :
    ∃ e, outcomes k = .error e ∧ retriable e = true := by
  cases result : outcomes k with
  | ok value => exact (goesOn (.inl ⟨value, result⟩)).elim
  | error e =>
      refine ⟨e, rfl, ?_⟩
      by_contra final
      exact goesOn (.inr (.inl ⟨e, result, Bool.eq_false_iff.mpr final⟩))

/-! ### Attempts on a state -/

section State

variable (b retriable) (pause : Duration → StateM S Unit) (operation : StateM S (Except ε α))

/-- The state before an attempt if it is made at all. -/
def stateBefore (s : S) : Nat → S
  | 0 => s
  | k + 1 => ((pause (b.delay k)).run (operation.run (stateBefore s k)).2).2

/-- What an attempt comes to if it is made at all. -/
def outcomeAt (s : S) (k : Nat) : Except ε α := (operation.run (b.stateBefore pause operation s k)).1

theorem run_retryFrom_succ (left retry : Nat) (s : S) :
    (b.retryFrom pause retriable operation (left + 1) retry).run s =
      match (operation.run s).1 with
      | .ok value => (.ok value, (operation.run s).2)
      | .error e =>
        if retriable e then
          (b.retryFrom pause retriable operation left (retry + 1)).run
            ((pause (b.delay retry)).run (operation.run s).2).2
        else (.error e, (operation.run s).2) := by
  rw [retryFrom, StateT.run_bind]
  change StateT.run (match (operation.run s).1 with | .ok _ => _ | .error _ => _) _ = _
  cases (operation.run s).1 with
  | ok value => rfl
  | error e =>
      dsimp only
      split <;> rfl

variable {b retriable pause operation}

/-- From any attempt on that comes in time, the attempts end with the last one. -/
theorem run_retryFrom_of_isLast {s : S} {i : Nat}
    (last : b.IsLast retriable (b.outcomeAt pause operation s) i) (left retry : Nat)
    (all : retry + left + 1 = b.attempts) (inTime : retry ≤ i) :
    (b.retryFrom pause retriable operation left retry).run (b.stateBefore pause operation s retry) =
      operation.run (b.stateBefore pause operation s i) := by
  have sofar : ∀ k, b.EndsAt retriable (b.outcomeAt pause operation s) k → i ≤ k := by
    intro k ends
    by_contra later
    exact last.before k (Nat.lt_of_not_le later) ends
  induction left generalizing retry with
  | zero =>
      have final : i = retry := Nat.le_antisymm (sofar retry (.inr (.inr all))) inTime
      rw [final]
      rfl
  | succ left ih =>
      rw [run_retryFrom_succ]
      rcases Nat.lt_or_eq_of_le inTime with earlier | same
      · obtain ⟨e, failed, again⟩ := failed_of_not_endsAt (last.before retry earlier)
        rw [outcomeAt] at failed
        rw [failed]
        dsimp only
        rw [if_pos again]
        exact ih (retry + 1) (by omega) earlier
      · subst same
        rcases last.ends with ⟨value, success⟩ | ⟨e, failed, final⟩ | exhausted
        · rw [outcomeAt] at success
          rw [success]
          exact Prod.ext success.symm rfl
        · rw [outcomeAt] at failed
          rw [failed]
          dsimp only
          rw [final, if_neg Bool.false_ne_true]
          exact Prod.ext failed.symm rfl
        · omega

theorem run_run_of_isLast {s : S} {i : Nat}
    (last : b.IsLast retriable (b.outcomeAt pause operation s) i) :
    (b.run pause retriable operation).run s =
      operation.run (b.stateBefore pause operation s i) := by
  have all : 0 + (b.attempts - 1) + 1 = b.attempts := by
    rw [Nat.zero_add, Nat.sub_add_cancel b.attempts_pos]
  exact run_retryFrom_of_isLast last (b.attempts - 1) 0 all (Nat.zero_le i)

end State

section World

variable {σ ι : Type} [IdSource ι] (serve : Server σ)

/-- A program as a transition of worlds. -/
def transition (p : Program α) : StateM (World σ ι) α := StateT.mk (p.run serve)

theorem run_retryFrom_program (operation : Program (Except ε α)) (left retry : Nat)
    (w : World σ ι) :
    (b.retryFrom Program.pause retriable operation left retry).run serve w =
      (b.retryFrom (fun d => transition serve (Program.pause d)) retriable
        (transition serve operation) left retry).run w := by
  induction left generalizing retry w with
  | zero => rfl
  | succ left ih =>
      rw [retryFrom_succ, Program.run_bind, run_retryFrom_succ]
      change _ = match (operation.run serve w).1 with | .ok _ => _ | .error _ => _
      cases (operation.run serve w).1 with
      | ok value => rfl
      | error e =>
          dsimp only
          split
          · rw [Program.run_bind, ih]
            rfl
          · rfl

/-- Attempts of a program, run on a world, are attempts on that world. -/
theorem run_run_program (operation : Program (Except ε α)) (w : World σ ι) :
    (b.run Program.pause retriable operation).run serve w =
      (b.run (fun d => transition serve (Program.pause d)) retriable
        (transition serve operation)).run w :=
  run_retryFrom_program serve operation (b.attempts - 1) 0 w

end World

/-! ### Attempts on any sequence of outcomes -/

/-- What happens in the course of attempts. -/
inductive Event where
  | attempt
  | pause (d : Duration)
deriving DecidableEq

/-- An attempt that comes to what a sequence says, by the number of attempts before it. -/
def attempt (outcomes : Nat → Except ε α) : StateM (List Event) (Except ε α) := do
  let journal ← get
  set (journal ++ [.attempt])
  return outcomes (journal.count .attempt)

def writePause (d : Duration) : StateM (List Event) Unit :=
  modify fun journal => journal ++ [.pause d]

variable (b) in
/-- The attempts up to attempt `i`, with the pauses of a schedule between them. -/
def journalTo (i : Nat) : List Event :=
  ((List.range i).flatMap fun retry => [.attempt, .pause (b.delay retry)]) ++ [.attempt]

theorem count_pauses (i : Nat) :
    ((List.range i).flatMap fun retry => [Event.attempt, .pause (b.delay retry)]).count
      .attempt = i := by
  induction i with
  | zero => rfl
  | succ i ih =>
      rw [List.range_succ, List.flatMap_append, List.count_append, ih]
      rfl

theorem stateBefore_journal (outcomes : Nat → Except ε α) (i : Nat) :
    b.stateBefore writePause (attempt outcomes) [] i =
      (List.range i).flatMap fun retry => [Event.attempt, .pause (b.delay retry)] := by
  induction i with
  | zero => rfl
  | succ i ih =>
      rw [stateBefore, ih, List.range_succ, List.flatMap_append]
      exact List.append_assoc _ [Event.attempt] [.pause (b.delay i)]

theorem run_attempt (outcomes : Nat → Except ε α) (i : Nat) :
    (attempt outcomes).run (b.stateBefore writePause (attempt outcomes) [] i) =
      (outcomes i, b.journalTo i) := by
  rw [stateBefore_journal]
  exact congrArg (fun made => (outcomes made, b.journalTo i)) (count_pauses i)

theorem run_of_outcomes {outcomes : Nat → Except ε α} {i : Nat}
    (last : b.IsLast retriable outcomes i) :
    (b.run writePause retriable (attempt outcomes)).run [] = (outcomes i, b.journalTo i) := by
  have same : b.outcomeAt writePause (attempt outcomes) [] = outcomes := by
    funext k
    exact congrArg Prod.fst (run_attempt outcomes k)
  rw [run_run_of_isLast (same.symm ▸ last), run_attempt]

/-! ### The counter -/

section Counter

variable {m : Type → Type} [Monad m]

/-- One more on a counter of 32 bits, where that fits. -/
def successor? (n : UInt32) : Option UInt32 :=
  if n.toNat + 1 < UInt32.size then some (n + 1) else none

variable (b retriable) in
/-- The attempts of a loop that counts its retries in 32 bits and compares the count with the number of
attempts: `rounds` of them at most, and with no result where the counter overflows. -/
def countedFrom (pause : Duration → m Unit) (operation : m (Except ε α)) :
    (rounds : Nat) → (retry : UInt32) → m (Option (Except ε α))
  | 0, _ => return none
  | rounds + 1, retry => do
    match ← operation with
    | .ok value => return some (.ok value)
    | .error e =>
      match successor? retry with
      | none => return none
      | some next =>
        if next < max b.steps 1 ∧ retriable e = true then
          pause (b.delay retry.toNat)
          countedFrom pause operation rounds next
        else return some (.error e)

variable (b retriable) in
def counted (pause : Duration → m Unit) (operation : m (Except ε α)) : m (Option (Except ε α)) :=
  b.countedFrom retriable pause operation b.attempts 0

theorem toNat_successor {n next : UInt32} (fits : successor? n = some next) :
    next.toNat = n.toNat + 1 := by
  rw [successor?] at fits
  split at fits
  · next small =>
    rw [← Option.some.inj fits, UInt32.toNat_add]
    exact Nat.mod_eq_of_lt small
  · cases fits

theorem exists_successor {n : UInt32} (small : n.toNat + 1 ≤ b.attempts) :
    ∃ next, successor? n = some next :=
  ⟨n + 1, if_pos (Nat.lt_of_le_of_lt small b.attempts_lt)⟩

theorem lt_max_steps_iff {n : UInt32} : n < max b.steps 1 ↔ n.toNat < b.attempts := by
  change n < (if b.steps ≤ 1 then 1 else b.steps) ↔ n.toNat < max b.steps.toNat 1
  have one : (1 : UInt32).toNat = 1 := rfl
  split
  · next few =>
    rw [UInt32.le_iff_toNat_le, one] at few
    rw [UInt32.lt_iff_toNat_lt, one, Nat.max_eq_right few]
  · next many =>
    rw [UInt32.le_iff_toNat_le, one] at many
    rw [UInt32.lt_iff_toNat_lt, Nat.max_eq_left (Nat.le_of_not_le many)]

/-- In as many rounds as there are attempts left, the loop comes to an end without an overflow. -/
theorem countedFrom_eq [LawfulMonad m] (pause : Duration → m Unit) (operation : m (Except ε α))
    (left : Nat) (retry : UInt32) (all : retry.toNat + left + 1 = b.attempts) :
    b.countedFrom retriable pause operation (left + 1) retry =
      some <$> b.retryFrom pause retriable operation left retry.toNat := by
  obtain ⟨next, fits⟩ := b.exists_successor (n := retry) (by omega)
  have counts := toNat_successor fits
  induction left generalizing retry next with
  | zero =>
      have exhausted : ¬ (next < max b.steps 1) := by
        rw [lt_max_steps_iff]
        omega
      rw [countedFrom, retryFrom, map_eq_pure_bind]
      congr 1
      funext result
      cases result with
      | ok value => rfl
      | error e => simp only [fits, exhausted, false_and, if_false]
  | succ left ih =>
      have more : next < max b.steps 1 := by
        rw [lt_max_steps_iff]
        omega
      obtain ⟨later, fitsLater⟩ := b.exists_successor (n := next) (by omega)
      have rest := ih next (by omega) later fitsLater (toNat_successor fitsLater)
      rw [countedFrom, retryFrom, map_bind]
      congr 1
      funext result
      cases result with
      | ok value => simp
      | error e =>
          simp only [fits, more, true_and]
          split
          · rw [map_bind, rest, counts]
          · simp

theorem counted_eq [LawfulMonad m] (pause : Duration → m Unit) (operation : m (Except ε α)) :
    b.counted retriable pause operation = some <$> b.run pause retriable operation := by
  have rounds : b.attempts - 1 + 1 = b.attempts := Nat.sub_add_cancel b.attempts_pos
  have all : b.countedFrom retriable pause operation (b.attempts - 1 + 1) 0 = _ :=
    countedFrom_eq pause operation (b.attempts - 1) 0
      (by rw [UInt32.toNat_zero, Nat.zero_add, rounds])
  rw [rounds] at all
  exact all

end Counter

end NodeSupply.Backoff
