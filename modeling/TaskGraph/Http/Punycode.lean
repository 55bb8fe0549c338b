/-!
# Names in ASCII

A label of a domain that holds other characters than ASCII is written with its ASCII characters first,
then a hyphen, then the places and the code points of the others as numbers in base 36. The numbers have
a variable length; how long each is depends on a bias that follows the size of the numbers so far.
-/

set_option autoImplicit false

namespace TaskGraph.Http.Punycode

/-- The character of a number below thirty-six. -/
def digit (n : Nat) : Char := if n < 26 then Char.ofNat (97 + n) else Char.ofNat (22 + n)

/-- The threshold of a digit at a position; it lies between one and twenty-six. -/
def threshold (position bias : Nat) : Nat := max 1 (min 26 (position - bias))

theorem one_le_threshold (position bias : Nat) : 1 ≤ threshold position bias := Nat.le_max_left _ _

/-- The digits of a number, from a position on. -/
def digits (bias position n : Nat) : List Char :=
  let t := threshold position bias
  if n < t then [digit n]
  else digit (t + (n - t) % (36 - t)) :: digits bias (position + 36) ((n - t) / (36 - t))
termination_by n
decreasing_by
  have h := one_le_threshold position bias
  exact Nat.lt_of_le_of_lt (Nat.div_le_self _ _) (by omega)

/-- Scales a distance down, and counts how often. -/
def scaleDown (distance count : Nat) : Nat × Nat :=
  if 455 < distance then scaleDown (distance / 35) (count + 36) else (distance, count)
termination_by distance
decreasing_by exact Nat.div_lt_self (by omega) (by omega)

/-- The bias after a distance, with so many characters written. -/
def adapt (distance written : Nat) (first : Bool) : Nat :=
  let distance := if first then distance / 700 else distance / 2
  let (distance, count) := scaleDown (distance + distance / written) 0
  count + 36 * distance / (distance + 38)

/-- What has been written of a label. -/
structure Progress where
  output : List Char
  distance : Nat
  bias : Nat
  written : Nat

/-- Passes a character on the way to a code point. -/
def Progress.pass (basic target : Nat) (p : Progress) (c : Char) : Progress :=
  if c.toNat < target then { p with distance := p.distance + 1 }
  else if c.toNat = target then
    { output := p.output ++ digits p.bias 36 p.distance
      distance := 0
      bias := adapt p.distance (p.written + 1) (p.written == basic)
      written := p.written + 1 }
  else p

/-- Writes all characters of some ascending code points. -/
def Progress.write (label : List Char) (basic : Nat) : Nat → Progress → List Nat → Progress
  | _, p, [] => p
  | from_, p, target :: rest =>
    let p := { p with distance := p.distance + (target - from_) * (p.written + 1) }
    let p := label.foldl (pass basic target) p
    Progress.write label basic (target + 1) { p with distance := p.distance + 1 } rest

/-- A label with characters outside of ASCII in its written form. -/
def encode (label : List Char) : List Char :=
  let basic := label.filter fun c => c.toNat < 128
  let others := ((label.filter fun c => 128 ≤ c.toNat).map Char.toNat).eraseDups.mergeSort
  let p := Progress.write label basic.length 128 ⟨[], 0, 72, basic.length⟩ others
  basic ++ (if basic.isEmpty then [] else ['-']) ++ p.output

end TaskGraph.Http.Punycode
