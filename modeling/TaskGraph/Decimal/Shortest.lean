/-!
# The fewest digits that read back

A finite positive binary64 number is `m * 2 ^ q` for natural `m` and integer `q`. The reals that
round to it form an interval, whose ends belong to it when `m` is even. `shortest` walks the grids of
one, two, … seventeen digits and takes the first that has a point of the interval, the nearer one of
two. All arithmetic is on natural numbers.
-/

set_option autoImplicit false

namespace TaskGraph.Decimal

/-- A decimal number `digits * 10 ^ exponent`. -/
structure Digits where
  digits : Nat
  exponent : Int
  deriving Repr, DecidableEq

/-- A fraction of natural numbers, compared by cross multiplication. -/
structure Ratio where
  num : Nat
  den : Nat

/-- The number `m * 2 ^ q`. -/
def Ratio.ofBinary (m : Nat) (q : Int) : Ratio :=
  if 0 ≤ q then ⟨m * Nat.pow 2 q.toNat, 1⟩ else ⟨m, Nat.pow 2 (-q).toNat⟩

/-- The number `m * 10 ^ k`. -/
def Ratio.ofDecimal (m : Nat) (k : Int) : Ratio :=
  if 0 ≤ k then ⟨m * Nat.pow 10 k.toNat, 1⟩ else ⟨m, Nat.pow 10 (-k).toNat⟩

/-- The order of two fractions with positive denominators. -/
def Ratio.lt (a b : Ratio) : Bool := a.num * b.den < b.num * a.den

/-- The reals that round to a number, as the fractions at the ends. -/
structure Interval where
  low : Ratio
  high : Ratio
  closed : Bool

/-- Whether a fraction lies in an interval. -/
def Interval.contains (i : Interval) (x : Ratio) : Bool :=
  (i.low.lt x && x.lt i.high) || (i.closed && !x.lt i.low && !i.high.lt x)

/-- The interval of `m * 2 ^ q`; `lowest` says that the next smaller number is half as far away as
the next larger one. -/
def Interval.ofBinary (m : Nat) (q : Int) (lowest : Bool) : Interval where
  low := Ratio.ofBinary (4 * m - (if lowest then 1 else 2)) (q - 2)
  high := Ratio.ofBinary (4 * m + 2) (q - 2)
  closed := m % 2 == 0

/-- The exponent of the leading decimal digit of a positive fraction. -/
def leadingExponent (x : Ratio) : Int :=
  ((Nat.toDigits 10 (x.num * Nat.pow 10 400 / x.den)).length : Int) - 401

/-- The points of the grid `10 ^ k` next to a fraction, from below and from above. -/
def gridBelow (x : Ratio) (k : Int) : Nat :=
  if 0 ≤ k then x.num / (x.den * Nat.pow 10 k.toNat) else x.num * Nat.pow 10 (-k).toNat / x.den

/-- The point of the grid `10 ^ k` in the interval that is nearest to the number, if there is one. -/
def pointOnGrid (i : Interval) (x : Ratio) (k : Int) : Option Nat :=
  let below := gridBelow x k
  let a := Ratio.ofDecimal below k
  let b := Ratio.ofDecimal (below + 1) k
  match i.contains a, i.contains b with
  | true, false => some below
  | false, true => some (below + 1)
  | false, false => none
  | true, true =>
    let toBelow := x.num * a.den - a.num * x.den
    let toAbove := b.num * x.den - x.num * b.den
    let left := toBelow * b.den
    let right := toAbove * a.den
    if left < right then some below
    else if right < left then some (below + 1)
    else if below % 2 == 0 then some below else some (below + 1)

/-- Tries the grids from `k` downwards. -/
def searchGrids (i : Interval) (x : Ratio) : Nat → Int → Digits
  | 0, k => ⟨gridBelow x k, k⟩
  | fuel + 1, k =>
    match pointOnGrid i x k with
    | some d => ⟨d, k⟩
    | none => searchGrids i x fuel (k - 1)

/-- Moves zeros at the end of the digits into the exponent. -/
def Digits.stripZeros : Nat → Digits → Digits
  | 0, d => d
  | fuel + 1, d =>
    if d.digits != 0 && d.digits % 10 == 0 then
      Digits.stripZeros fuel ⟨d.digits / 10, d.exponent + 1⟩
    else d

/-- The fewest digits that round to `m * 2 ^ q`, nearest to it among those. -/
def shortest (m : Nat) (q : Int) (lowest : Bool) : Digits :=
  let x := Ratio.ofBinary m q
  (searchGrids (Interval.ofBinary m q lowest) x 17 (leadingExponent x)).stripZeros 20

/-- The parts of a binary64 number that printing needs. -/
inductive Parts where
  | nan
  | infinite (negative : Bool)
  | finite (negative : Bool) (digits : Digits)
  deriving Repr, DecidableEq

/-- Reads sign, exponent and fraction off the bits of a number. -/
def Parts.ofBits (bits : Nat) : Parts :=
  let negative := bits / Nat.pow 2 63 == 1
  let exponent : Nat := bits / Nat.pow 2 52 % Nat.pow 2 11
  let fraction : Nat := bits % Nat.pow 2 52
  if exponent == 2047 then
    if fraction == 0 then .infinite negative else .nan
  else if exponent == 0 then
    if fraction == 0 then .finite negative ⟨0, 0⟩
    else .finite negative (shortest fraction (-1074) false)
  else
    .finite negative
      (shortest (Nat.pow 2 52 + fraction) ((exponent : Int) - 1075) (fraction == 0 && exponent > 1))

/-- The parts of a number. -/
def Parts.ofFloat (x : Float) : Parts := Parts.ofBits x.toBits.toNat

end TaskGraph.Decimal
