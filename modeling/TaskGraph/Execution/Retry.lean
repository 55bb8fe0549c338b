import TaskGraph.Configuration.Basic

/-!
# Waiting between attempts

The wait after a failed attempt grows by a factor with each attempt, up to a limit.
-/

set_option autoImplicit false

namespace TaskGraph

/-- How often a call is attempted and how long is waited in between. -/
structure RetryPolicy where
  maxAttempts : Nat
  initial : Duration
  longest : Duration
  factor : Float
  /-- The share of a wait by which it may be changed at random. -/
  jitter : Float
  deriving Repr, DecidableEq

namespace RetryPolicy

/-- The policy that settings describe. At least one attempt is made. -/
def ofSettings (s : CallSettings) : RetryPolicy :=
  ⟨max s.maxAttempts 1, .ofMillis s.initialMs, .ofMillis s.maxMs, s.backoff, 0.1⟩

/-- The same policy without chance. -/
def steady (p : RetryPolicy) : RetryPolicy := { p with jitter := 0.0 }

/-- Sets the share of chance, at most the whole wait. -/
def withJitter (p : RetryPolicy) (jitter : Float) : RetryPolicy :=
  { p with jitter := if jitter < 0.0 then 0.0 else if jitter > 1.0 then 1.0 else jitter }

/-- `r` times the power of `a` to a natural number, by squaring; the fuel bounds the number's bits. -/
def powerFrom : Nat → Float → Nat → Float → Float
  | 0, r, _, _ => r
  | fuel + 1, r, n, a =>
    let r := if n % 2 = 1 then r * a else r
    if n / 2 = 0 then r else powerFrom fuel r (n / 2) (a * a)

/-- The power of a number to a signed exponent; a negative one inverts the power to its magnitude. -/
def power (a : Float) (n : Int) : Float :=
  let r := powerFrom 64 1.0 n.natAbs a
  if n < 0 then 1.0 / r else r

/-- The exponent that an attempt is counted as: 32 bits with a sign. -/
def exponent (attempt : Nat) : Int := Int.bmod attempt (Nat.pow 2 32)

/-- The smaller of a number and a limit; what is no number is over the limit. -/
def capped (x limit : Float) : Float := if x < limit then x else limit

/-- The wait after a failed attempt, in whole milliseconds; attempts are counted from zero. -/
def delay (p : RetryPolicy) (attempt : Nat) : Duration :=
  let grown := Float.ofNat p.initial.toMillis * power p.factor (exponent attempt)
  .ofMillis (capped grown (Float.ofNat p.longest.toMillis)).toUInt64.toNat

/-- A policy as a value. -/
def toJson (p : RetryPolicy) : Json :=
  .obj [("backoff_multiplier", .ofFloat p.factor), ("initial_delay", p.initial.toJson),
    ("jitter", .ofFloat p.jitter), ("max_attempts", .nat p.maxAttempts),
    ("max_delay", p.longest.toJson)]

end RetryPolicy

end TaskGraph
