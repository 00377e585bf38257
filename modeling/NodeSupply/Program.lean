import NodeSupply.Cluster.Call
import NodeSupply.Backoff

/-!
Operations on a cluster as programs: trees of effects, each with a continuation for every answer
that it can have. What an effect does is decided by whoever runs the program, so one program can be
run on a cluster in memory, on a list of answers, or step by step beside others.
-/

namespace NodeSupply

/-- Why a wait ends before what is waited for. -/
inductive Interruption where
  | cancelled
  | deadline
deriving DecidableEq

/-- The longest pause, which is thirty years of 365 days. -/
def longestPause : Duration := .ofSeconds 946080000

/-- What a program asks of its surroundings. Moments are nanoseconds on the surroundings' clock. A
pause that would be longer than the longest one is as long as that. -/
inductive Effect where
  /-- A call on the cluster. -/
  | call (c : Call)
  /-- An identifier that was not used before. -/
  | freshId
  /-- A pause that nothing cuts short. -/
  | pause (d : Duration)
  /-- The present moment. -/
  | now
  /-- Whether a wait with this deadline is over at the present moment. -/
  | interruption (deadline : Nat)
  /-- A pause that cancellation and the deadline cut short. -/
  | rest (d : Duration) (deadline : Nat)

/-- What an effect is answered with. -/
def Effect.Answer : Effect → Type
  | .call c => c.Outcome
  | .freshId => String
  | .pause _ => Unit
  | .now => Nat
  | .interruption _ => Option Interruption
  | .rest _ _ => Option Interruption

/-- A program with a result. -/
inductive Program (α : Type) where
  | done (result : α)
  | ask (effect : Effect) (next : effect.Answer → Program α)

namespace Program

variable {α β : Type}

/-- Runs a program and then another that depends on its result. -/
def bind : Program α → (α → Program β) → Program β
  | .done a, f => f a
  | .ask e next, f => .ask e fun answer => bind (next answer) f

instance : Monad Program where
  pure := .done
  bind := bind

@[simp] theorem bind_done (a : α) (f : α → Program β) : (Program.done a).bind f = f a := rfl

@[simp] theorem bind_ask (e : Effect) (next : e.Answer → Program α) (f : α → Program β) :
    (Program.ask e next).bind f = .ask e fun answer => (next answer).bind f := rfl

def perform (e : Effect) : Program e.Answer := .ask e .done

def call (c : Call) : Program c.Outcome := perform (.call c)

def freshId : Program String := perform .freshId

def pause (d : Duration) : Program Unit := perform (.pause d)

def now : Program Nat := perform .now

def interruption (deadline : Nat) : Program (Option Interruption) :=
  perform (.interruption deadline)

def rest (d : Duration) (deadline : Nat) : Program (Option Interruption) :=
  perform (.rest d deadline)

/-- Goes on with a result, or stops at a failure. -/
def andThen {ε : Type} (p : Program (Except ε α)) (f : α → Program (Except ε β)) :
    Program (Except ε β) :=
  p.bind fun
    | .error e => .done (.error e)
    | .ok a => f a

/-- Changes the result of a program that succeeds. -/
def mapOk {ε : Type} (p : Program (Except ε α)) (f : α → β) : Program (Except ε β) :=
  p.bind fun r => .done (r.map f)

end Program

end NodeSupply
