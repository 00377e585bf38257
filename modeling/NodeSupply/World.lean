import NodeSupply.ClaimName
import NodeSupply.Cluster.Store
import NodeSupply.Program

/-!
Running a program on virtual time. The clock stands still while calls are answered and moves only
when the program pauses; pauses end on whole milliseconds. The cluster is any machine that answers
calls, such as a store in memory.
-/

namespace NodeSupply

/-- The surroundings of a program: a cluster, a source of identifiers, and a clock with the moment
at which waits are cancelled, if they are. -/
structure World (σ : Type) (ι : Type := IdSequence) where
  cluster : σ
  ids : ι
  /-- The present moment, in nanoseconds. There is no last moment here; the moments of a clock that has
  one are the same up to it, and what is said of a wait is said of one whose deadline comes before it. -/
  clock : Nat := 0
  cancelAt : Option Nat := none

abbrev Server (σ : Type) := (c : Call) → σ → c.Outcome × σ

namespace World

variable {σ ι α : Type}

def tick : Nat := 1000000

/-- The first whole millisecond that is not before a moment. -/
def wholeTick (moment : Nat) : Nat := (moment + (tick - 1)) / tick * tick

def isCancelled (w : World σ ι) : Bool :=
  match w.cancelAt with
  | some moment => moment ≤ w.clock
  | none => false

/-- Whether a wait with this deadline is over; cancellation is noticed first. -/
def interruption (w : World σ ι) (deadline : Nat) : Option Interruption :=
  if w.isCancelled then some .cancelled
  else if wholeTick deadline ≤ w.clock then some .deadline
  else none

/-- When a pause ends that nothing cuts short. -/
def pauseEnd (clock : Nat) (d : Duration) : Nat :=
  wholeTick (clock + min d.nanos longestPause.nanos)

/-- When a pause ends, and why. Of cancellation, deadline and the end of the pause the earliest
counts, and of two at one moment the first in this order. -/
def restEnd (w : World σ ι) (d : Duration) (deadline : Nat) : Nat × Option Interruption :=
  let wake := pauseEnd w.clock d
  let limit := wholeTick deadline
  let finish := if limit ≤ wake then (limit, some .deadline) else (wake, none)
  match w.cancelAt with
  | some moment => if moment ≤ finish.1 then (moment, some .cancelled) else finish
  | none => finish

/-- The answer to an effect, and the world after it. -/
def perform [IdSource ι] (serve : Server σ) (w : World σ ι) :
    (e : Effect) → e.Answer × World σ ι
  | .call c =>
    let (outcome, cluster) := serve c w.cluster
    (outcome, { w with cluster })
  | .freshId => ((IdSource.take w.ids).1, { w with ids := (IdSource.take w.ids).2 })
  | .pause d => ((), { w with clock := pauseEnd w.clock d })
  | .now => (w.clock, w)
  | .interruption deadline => (w.interruption deadline, w)
  | .rest d deadline =>
    let (moment, cause) := w.restEnd d deadline
    (cause, { w with clock := max w.clock moment })

end World

def Program.run {σ ι α : Type} [IdSource ι] (serve : Server σ) :
    Program α → World σ ι → α × World σ ι
  | .done a, w => (a, w)
  | .ask e next, w =>
    let (answer, w) := w.perform serve e
    (next answer).run serve w

theorem Program.run_bind {σ ι α β : Type} [IdSource ι] (serve : Server σ) (p : Program α)
    (f : α → Program β) (w : World σ ι) :
    (p.bind f).run serve w = (f (p.run serve w).1).run serve (p.run serve w).2 := by
  induction p generalizing w with
  | done a => rfl
  | ask e next ih => simp only [Program.bind, Program.run, ih]

/-- A store with the stamps that its new claims get: a fixed sequence, each a nanosecond later than the one
before, also where the nanoseconds come to more than a second. No result depends on which stamps they are. -/
structure StampedStore where
  store : Store := {}
  /-- The moment of the next stamp, in seconds since 1970 and nanoseconds. -/
  nextStamp : Timestamp
  /-- How many stamps were taken. -/
  taken : Nat := 0

namespace StampedStore

/-- The next stamp. -/
def stamp (s : StampedStore) : Stamp :=
  { time := { s.nextStamp with nanos := s.nextStamp.nanos + s.taken }
    uid := "claim-" ++ toString s.taken }

/-- Answers calls from the store; a creation takes a stamp. -/
def serve : Server StampedStore := fun c s =>
  let (outcome, store) := s.store.perform s.stamp c
  (outcome,
    { s with store, taken := if c.operation = .createNodeClaim then s.taken + 1 else s.taken })

end StampedStore

end NodeSupply
