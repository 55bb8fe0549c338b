/-!
# Rounding to binary64

`nearest` finds the binary64 number next to a fraction of natural numbers, a tie going to the even
neighbour. It works on natural numbers alone: a quotient with 53 bits, or with fewer when the exponent
has reached its lower end.
-/

set_option autoImplicit false

namespace TaskGraph.Decimal

/-- The integer nearest to a quotient, a tie going to the even one. -/
def roundDiv (num den : Nat) : Nat :=
  let q := num / den
  let r := num % den
  if 2 * r < den then q
  else if den < 2 * r then q + 1
  else if q % 2 = 0 then q else q + 1

/-- The quotient of a fraction by a power of two, rounded. -/
def roundAt (num den : Nat) (q : Int) : Nat :=
  if 0 ≤ q then roundDiv num (den * Nat.pow 2 q.toNat) else roundDiv (num * Nat.pow 2 (-q).toNat) den

/-- The exponent at which a positive fraction has a quotient of 53 bits, not below the lowest. -/
def exponentOf (num den : Nat) : Int :=
  let guess : Int := (Nat.log2 num : Int) - Nat.log2 den - 52
  let fits := if 0 ≤ guess then num ≥ den * Nat.pow 2 (guess.toNat + 52)
    else num * Nat.pow 2 (-guess).toNat ≥ den * Nat.pow 2 52
  max (-1074) (if fits then guess else guess - 1)

/-- The number `m * 2 ^ q` next to a fraction, or nothing beyond the largest number. -/
def nearest (num den : Nat) : Option (Nat × Int) :=
  if num = 0 then some (0, 0)
  else
    let q := exponentOf num den
    let m := roundAt num den q
    let (m, q) := if m = Nat.pow 2 53 then (Nat.pow 2 52, q + 1) else (m, q)
    if q > 971 then none else some (m, q)

end TaskGraph.Decimal
