/-! Lengths of time, clocks and the budget of an analysis. -/
namespace PackageVet

structure Duration where
  nanoseconds : Nat
  deriving DecidableEq, Repr, Inhabited

namespace Duration

def ofMillis (n : Nat) : Duration := ⟨n * 1000000⟩

def ofSeconds (n : Nat) : Duration := ⟨n * 1000000000⟩

/-- The digits of a fraction with `width` places, without the zeros at its end. -/
def fraction (width n : Nat) : String :=
  let digits := Nat.toDigits 10 n
  let padded := List.replicate (width - digits.length) '0' ++ digits
  let kept := (padded.reverse.dropWhile (· = '0')).reverse
  if kept.isEmpty then "" else "." ++ String.ofList kept

/-- A quotient in decimal, for a divisor that is a power of ten with `width` zeros. -/
def decimal (width n : Nat) : String :=
  let unit := Nat.pow 10 width
  toString (n / unit) ++ fraction width (n % unit)

/-- The length in the largest of the units s, ms, µs and ns that makes it at least one. -/
def render (d : Duration) : String :=
  if 1000000000 ≤ d.nanoseconds then decimal 9 d.nanoseconds ++ "s"
  else if 1000000 ≤ d.nanoseconds then decimal 6 d.nanoseconds ++ "ms"
  else if 1000 ≤ d.nanoseconds then decimal 3 d.nanoseconds ++ "µs"
  else toString d.nanoseconds ++ "ns"

/-- The time from one reading of a clock to a later one. -/
def since (now started : Duration) : Duration := ⟨now.nanoseconds - started.nanoseconds⟩

end Duration

/-- A clock is read off the services, and their state may change by that. Nothing is said of what
two readings have to do with each other. -/
abbrev Clock (σ : Type) : Type := StateM σ Duration

/-- A clock that always tells the same time. -/
def Clock.stopped {σ : Type} : Clock σ := fun s => (⟨0⟩, s)

/-- The budget of one analysis, with the clock that it is measured by and the time it began. -/
structure Deadline (σ : Type) where
  limit : Option Duration := none
  started : Duration := ⟨0⟩
  clock : Clock σ := .stopped

namespace Deadline
variable {σ : Type}

def unlimited : Deadline σ := {}

def after (limit : Duration) : Deadline σ := { limit := some limit }

/-- A budget that is measured from now on. -/
def start (clock : Clock σ) (limit : Option Duration) : StateM σ (Deadline σ) := do
  let started ← (clock : StateM σ Duration)
  return { limit, started, clock }

def elapsed (d : Deadline σ) : StateM σ Duration := (·.since d.started) <$> d.clock

end Deadline

end PackageVet
