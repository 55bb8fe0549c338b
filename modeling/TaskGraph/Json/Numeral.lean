import TaskGraph.Json.Basic

/-!
# Reading a number

An integer that fits 64 bits is read as one. Any other numeral is a significand of at most 64 bits
and a power of ten, which are converted and multiplied once; digits that no longer fit the significand
move the power. A numeral beyond the largest number is refused.
-/

set_option autoImplicit false

namespace TaskGraph.Json

/-- The value of a decimal digit. -/
def digitValue? (c : Char) : Option Nat :=
  if '0' ≤ c ∧ c ≤ '9' then some (c.toNat - 48) else none

/-- The largest unsigned number of 64 bits. -/
def maxU64 : Nat := 18446744073709551615

/-- The largest signed number of 32 bits. -/
def maxI32 : Nat := 2147483647

/-- Digits read into a significand: how many went in, how many were left out. -/
structure Significand where
  value : Nat
  kept : Nat
  dropped : Nat
  full : Bool

/-- Adds a digit unless the significand is full or would exceed 64 bits. -/
def Significand.push (s : Significand) (d : Nat) : Significand :=
  if s.full || s.value * 10 + d > maxU64 then { s with dropped := s.dropped + 1, full := true }
  else { s with value := s.value * 10 + d, kept := s.kept + 1 }

/-- Reads digits into a significand and returns what follows them. -/
def Significand.read (s : Significand) : List Char → Significand × List Char
  | [] => (s, [])
  | c :: cs => match digitValue? c with
    | some d => (s.push d).read cs
    | none => (s, c :: cs)

/-- The power of ten as binary64. -/
def power (n : Nat) : Float := Float.ofScientific 1 false n

/-- Scales a number by a power of ten in steps of at most 308; none beyond the largest number. -/
def scale : Nat → Float → Int → Option Float
  | 0, f, _ => some f
  | fuel + 1, f, e =>
    if e.natAbs ≤ 308 then
      if 0 ≤ e then
        let r := f * power e.toNat
        if r.isFinite then some r else none
      else some (f / power e.natAbs)
    else if f == 0.0 then some f
    else if 0 ≤ e then none
    else scale fuel (f / power 308) (e + 308)

/-- The number with a significand and a power of ten. -/
def fromParts (negative : Bool) (significand : Nat) (e : Int) : Option Float :=
  (scale 10 (Float.ofNat significand) e).map fun f => if negative then -f else f

/-- Reads the digits of an exponent, saturating. -/
def readExponent : Nat → List Char → Nat × List Char
  | e, [] => (e, [])
  | e, c :: cs => match digitValue? c with
    | some d => readExponent (min (e * 10 + d) (maxI32 + 1)) cs
    | none => (e, c :: cs)

/-- Reads an exponent after its mark and finishes the number. -/
def finishExponent (negative : Bool) (significand : Nat) (start : Int) (cs : List Char) :
    Option (Number × List Char) :=
  let (positive, cs) := match cs with
    | '+' :: cs => (true, cs)
    | '-' :: cs => (false, cs)
    | cs => (true, cs)
  match cs with
  | [] => none
  | c :: rest =>
    if (digitValue? c).isNone then none
    else
      let (e, rest) := readExponent 0 (c :: rest)
      if e > maxI32 then
        if significand != 0 && positive then none
        else some (.float (if negative then -0.0 else 0.0), rest)
      else
        let total := if positive then start + e else start - e
        (fromParts negative significand total).map fun f => (.float f, rest)

/-- Finishes a number after the digits in front of the point. -/
def finishNumber (negative : Bool) (s : Significand) (cs : List Char) :
    Option (Number × List Char) :=
  match cs with
  | '.' :: cs =>
    let (t, rest) := { s with kept := 0, full := false : Significand }.read cs
    if rest.length = cs.length then none
    else
      let e : Int := (s.dropped : Int) - t.kept
      match rest with
      | 'e' :: rest => finishExponent negative t.value e rest
      | 'E' :: rest => finishExponent negative t.value e rest
      | rest => (fromParts negative t.value e).map fun f => (.float f, rest)
  | 'e' :: rest => finishExponent negative s.value s.dropped rest
  | 'E' :: rest => finishExponent negative s.value s.dropped rest
  | rest =>
    if s.full then (fromParts negative s.value s.dropped).map fun f => (.float f, rest)
    else if !negative then some (.int s.value, rest)
    else if s.value = 0 then some (.float (-0.0), rest)
    else if s.value ≤ 9223372036854775808 then some (.int (-(s.value : Int)), rest)
    else some (.float (-(Float.ofNat s.value)), rest)

/-- Reads a numeral and returns what follows it. -/
def readNumeral (cs : List Char) : Option (Number × List Char) :=
  let (negative, cs) := match cs with
    | '-' :: cs => (true, cs)
    | cs => (false, cs)
  match cs with
  | '0' :: rest => match rest with
    | c :: _ => if (digitValue? c).isSome then none else finishNumber negative ⟨0, 1, 0, false⟩ rest
    | [] => finishNumber negative ⟨0, 1, 0, false⟩ rest
  | c :: rest =>
    if (digitValue? c).isSome then
      let (s, rest) := Significand.read ⟨0, 0, 0, false⟩ (c :: rest)
      finishNumber negative s rest
    else none
  | [] => none

end TaskGraph.Json
