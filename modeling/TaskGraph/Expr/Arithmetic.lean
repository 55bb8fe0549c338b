/-!
# Arithmetic of binary64 numbers

The remainder of a division that rounds toward zero, computed exactly: both numbers are whole
multiples of one power of two, and so is the remainder. Also the whole number nearest below, read as
an index, and the integer that a whole number is.
-/

set_option autoImplicit false

namespace TaskGraph.Expr

/-- The magnitude of a finite number as a natural number and a power of two. -/
def magnitude (x : Float) : Nat × Int :=
  let bits := x.toBits.toNat
  let exponent : Nat := bits / Nat.pow 2 52 % Nat.pow 2 11
  let fraction : Nat := bits % Nat.pow 2 52
  if exponent = 0 then (fraction, -1074) else (Nat.pow 2 52 + fraction, (exponent : Int) - 1075)

/-- Moves factors of two from a number into its exponent. -/
def normalize : Nat → Nat → Int → Nat × Int
  | 0, m, q => (m, q)
  | fuel + 1, m, q => if m != 0 && m % 2 == 0 then normalize fuel (m / 2) (q + 1) else (m, q)

/-- The number with a magnitude of at most 53 bits. -/
def ofMagnitude (m : Nat) (q : Int) : Float := (Float.ofNat m).scaleB q

/-- The remainder of the division that rounds toward zero, with the sign of the first number. -/
def remainder (x y : Float) : Float :=
  if x.isNaN || y.isNaN || x.isInf || y == 0.0 then 0.0 / 0.0
  else if y.isInf then x
  else
    let (mx, qx) := magnitude x
    let (my, qy) := magnitude y
    let q := min qx qy
    let r := (mx * Nat.pow 2 (qx - q).toNat) % (my * Nat.pow 2 (qy - q).toNat)
    let (r, q) := normalize 2200 r q
    let result := ofMagnitude r q
    if x.toBits.toNat / Nat.pow 2 63 = 1 then -result else result

/-- The index that a number stands for: rounded down and at least zero. -/
def toIndex (x : Float) : Nat := x.floor.toUInt64.toNat

/-- The integer that a number is, when it is whole and below nine quadrillion in magnitude. -/
def whole? (x : Float) : Option Int :=
  if x.floor == x && x.abs < 9.0e15 then some x.toInt64.toInt else none

end TaskGraph.Expr
