import TaskGraph.Decimal.Numeral

/-!
# Dates and times of day

A date is written as year, month and day, a time of day with seconds and its distance from universal
time. A leap second stands only before midnight in universal time.
-/

set_option autoImplicit false

namespace TaskGraph.Clock

/-- The number that two digits stand for. -/
def two? (a b : Char) : Option Nat := Decimal.natIn? 10 [a, b]

/-- Whether a year has a day more. -/
def isLeapYear (year : Nat) : Bool := year % 4 == 0 && (year % 100 != 0 || year % 400 == 0)

/-- The days of a month. -/
def daysIn (year : Nat) : Nat → Nat
  | 4 | 6 | 9 | 11 => 30
  | 2 => if isLeapYear year then 29 else 28
  | _ => 31

/-- Whether a text is a date. -/
def isDate (cs : List Char) : Bool :=
  match cs with
  | [y₁, y₂, y₃, y₄, '-', m₁, m₂, '-', d₁, d₂] =>
    match Decimal.natIn? 10 [y₁, y₂, y₃, y₄], two? m₁ m₂, two? d₁ d₂ with
    | some year, some month, some day =>
      1 ≤ month && month ≤ 12 && 1 ≤ day && day ≤ daysIn year month
    | _, _, _ => false
  | _ => false

/-- What stands behind digits after a point, at least one; all, if there is no point. -/
def behindFraction? : List Char → Option (List Char)
  | '.' :: cs => match Decimal.splitDigits cs with
    | ([], _) => none
    | (_, rest) => some rest
  | cs => some cs

/-- The minutes that a time of day is ahead of universal time. -/
def offset? : List Char → Option Int
  | ['Z'] | ['z'] => some 0
  | [sign, h₁, h₂, ':', m₁, m₂] => do
    let hours ← two? h₁ h₂
    let minutes ← two? m₁ m₂
    if hours > 23 || minutes > 59 then none
    else if sign = '+' then some (60 * hours + minutes)
    else if sign = '-' then some (-(60 * hours + minutes))
    else none
  | _ => none

/-- Whether a text is a time of day. -/
def isTime (cs : List Char) : Bool :=
  match cs with
  | h₁ :: h₂ :: ':' :: m₁ :: m₂ :: ':' :: s₁ :: s₂ :: rest =>
    match two? h₁ h₂, two? m₁ m₂, two? s₁ s₂, (behindFraction? rest).bind offset? with
    | some hour, some minute, some second, some offset =>
      hour ≤ 23 && minute ≤ 59 && second ≤ 60 &&
        (second != 60 || (60 * (hour : Int) + minute - offset) % 1440 == 1439)
    | _, _, _, _ => false
  | _ => false

/-- Whether a text is a date and a time of day. -/
def isMoment (cs : List Char) : Bool :=
  let isMark := fun c => c == 'T' || c == 't'
  isDate (cs.takeWhile (!isMark ·)) && isTime ((cs.dropWhile (!isMark ·)).drop 1)

end TaskGraph.Clock
