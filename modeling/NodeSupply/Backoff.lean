import NodeSupply.Binary64.Basic
import NodeSupply.Duration

/-!
Trying again after growing pauses. The pauses grow by a factor up to a cap, and the number of
attempts is bounded.
-/

namespace NodeSupply

structure Backoff where
  /-- The attempts in all, the first one included. -/
  steps : UInt32 := 4
  initial : Duration := .ofMillis 10
  factor : Binary64 := .ofNat 5
  cap : Duration := .ofSeconds 10
deriving DecidableEq

namespace Backoff

def greatestExponent : Nat := (1 <<< 31) - 1

def scaledNanos (b : Backoff) (retry : Nat) : Binary64 :=
  .ofNat b.initial.nanos * b.factor.pow (min retry greatestExponent)

/-- The pause before a retry; the first retry has number zero. -/
def delay (b : Backoff) (retry : Nat) : Duration :=
  let scaled := b.scaledNanos retry
  if scaled.isFinite && scaled.lt (.ofNat b.cap.nanos) then
    .ofNanos (UInt64.ofNat (scaled.toNatBelow (UInt64.size - 1)))
  else b.cap

/-- The attempts of a schedule, never none. -/
def attempts (b : Backoff) : Nat := max b.steps.toNat 1

/-- Runs an operation with retries numbered from `retry` on, `left` of them at most. -/
def retryFrom {m : Type → Type} [Monad m] {ε α : Type} (b : Backoff) (pause : Duration → m Unit)
    (retriable : ε → Bool) (operation : m (Except ε α)) :
    (left retry : Nat) → m (Except ε α)
  | 0, _ => operation
  | left + 1, retry => do
    match ← operation with
    | .ok value => return .ok value
    | .error e =>
      if retriable e then
        pause (b.delay retry)
        retryFrom b pause retriable operation left (retry + 1)
      else return .error e

/-- Runs an operation until it succeeds, fails for good, or the schedule runs out. -/
def run {m : Type → Type} [Monad m] {ε α : Type} (b : Backoff) (pause : Duration → m Unit)
    (retriable : ε → Bool) (operation : m (Except ε α)) : m (Except ε α) :=
  b.retryFrom pause retriable operation (b.attempts - 1) 0

end Backoff

end NodeSupply
