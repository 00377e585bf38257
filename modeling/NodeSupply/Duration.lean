/-!
Spans of time, counted in nanoseconds, and their text: a whole part in the largest unit that makes
it non-zero, and a fraction without trailing zeros.
-/

namespace NodeSupply

/-- A span of time below 2⁶⁴ seconds. -/
structure Duration where
  nanos : Nat
  bounded : nanos < (1 <<< 64) * 1000000000
deriving DecidableEq

namespace Duration

theorem ext {a b : Duration} (h : a.nanos = b.nanos) : a = b := by
  cases a; cases b; cases h; rfl

def ofNanos (n : UInt64) : Duration :=
  ⟨n.toNat, by have := n.toNat_lt; omega⟩

def ofMillis (n : UInt64) : Duration :=
  ⟨n.toNat * 1000000, by have := n.toNat_lt; omega⟩

def ofSeconds (n : UInt64) : Duration :=
  ⟨n.toNat * 1000000000, by have := n.toNat_lt; omega⟩

/-- The whole milliseconds of a span, held at the greatest 64-bit number. -/
def wholeMillis (d : Duration) : UInt64 :=
  UInt64.ofNat (min (d.nanos / 1000000) (UInt64.size - 1))

def wholeSeconds (d : Duration) : UInt64 :=
  UInt64.ofNat (d.nanos / 1000000000)

def subsecondNanos (d : Duration) : Nat := d.nanos % 1000000000

instance : Inhabited Duration := ⟨ofNanos 0⟩

/-- The digits of a fraction of `places` places, without trailing zeros, behind a point. -/
def fractionText (places fraction : Nat) : String :=
  let digits := (toString fraction).toList
  let padded := List.replicate (places - digits.length) '0' ++ digits
  let kept := (padded.reverse.dropWhile (· = '0')).reverse
  if kept.isEmpty then "" else "." ++ String.ofList kept

/-- The text of a span, as in `1.5s`, `500ms`, `1.1µs` and `0ns`. -/
def text (d : Duration) : String :=
  let n := d.nanos
  if 1000000000 ≤ n then toString (n / 1000000000) ++ fractionText 9 (n % 1000000000) ++ "s"
  else if 1000000 ≤ n then toString (n / 1000000) ++ fractionText 6 (n % 1000000) ++ "ms"
  else if 1000 ≤ n then toString (n / 1000) ++ fractionText 3 (n % 1000) ++ "µs"
  else toString n ++ "ns"

end Duration

end NodeSupply
