import TaskGraph.Decimal.Shortest

/-!
# Writing a number

A `Layout` decides where positional notation begins and ends and whether a whole number shows its
fraction. The digits come from `shortest`.
-/

set_option autoImplicit false

namespace TaskGraph.Decimal

/-- The decisions of a number format. The point stands after `scale` digits; a scale from `lowScale`
to `highScale` is written positionally, any other with an exponent. -/
structure Layout where
  lowScale : Int
  highScale : Int
  /-- Whether a whole number written positionally ends in a point and a zero. -/
  showsFraction : Bool

/-- The text of a natural number. -/
def natText (n : Nat) : String := Nat.repr n

/-- The text of an integer. -/
def intText (n : Int) : String :=
  match n with
  | .ofNat n => natText n
  | .negSucc n => "-" ++ natText (n + 1)

/-- As many zeros as asked for. -/
def zeros (n : Nat) : String := String.ofList (List.replicate n '0')

/-- The digits of a positive number in positional notation. -/
def positional (l : Layout) (d : Digits) : String :=
  let ds := natText d.digits
  let scale := d.exponent + ds.length
  if 0 ≤ d.exponent then
    ds ++ zeros d.exponent.toNat ++ (if l.showsFraction then ".0" else "")
  else if 0 < scale then
    String.ofList (ds.toList.take scale.toNat) ++ "." ++ String.ofList (ds.toList.drop scale.toNat)
  else "0." ++ zeros (-scale).toNat ++ ds

/-- An exponent: a sign and the digits. -/
def exponentText (e : Int) : String :=
  (if e < 0 then "-" else "+") ++ natText e.natAbs

/-- The digits of a positive number with an exponent, one digit in front of the point. -/
def scientific (d : Digits) : String :=
  let ds := natText d.digits
  let exponent := d.exponent + ds.length - 1
  let mantissa := match ds.toList with
    | [] => ""
    | [c] => String.singleton c
    | c :: rest => String.singleton c ++ "." ++ String.ofList rest
  mantissa ++ "e" ++ exponentText exponent

/-- The text of decimal digits in a layout. -/
def Layout.digits (l : Layout) (d : Digits) : String :=
  if d.digits == 0 then (if l.showsFraction then "0.0" else "0")
  else
    let scale := d.exponent + (natText d.digits).length
    if l.lowScale ≤ scale && scale ≤ l.highScale then positional l d else scientific d

/-- The text of a number in a layout. -/
def Layout.write (l : Layout) (x : Float) : String :=
  match Parts.ofFloat x with
  | .nan => "NaN"
  | .infinite negative => if negative then "-inf" else "inf"
  | .finite negative d => (if negative then "-" else "") ++ l.digits d

/-- Data formats write seventeen places positionally and keep the fraction of a whole number. -/
def dataLayout : Layout := ⟨-4, 16, true⟩

/-- Messages write every number positionally and keep the fraction of a whole number. -/
def messageLayout : Layout := ⟨-400, 400, true⟩

/-- Plain text writes every number positionally and a whole number without a fraction. -/
def plainLayout : Layout := ⟨-400, 400, false⟩

end TaskGraph.Decimal
