import TaskGraph.Decimal.Rounding
import TaskGraph.Decode
import TaskGraph.Fault
import TaskGraph.Text.Blank
import TaskGraph.Text.Digit

/-!
# Durations

A duration is a number of nanoseconds, the whole seconds of which fit 64 bits. It is written in the
ISO form, `P1DT2H30M5.5S` without years and months, or as an object of five counts. The ISO form is
refused when its total does not fit; the object stops at the largest duration instead.
-/

set_option autoImplicit false

namespace TaskGraph

/-- Whole seconds and the nanoseconds beyond them. -/
structure Duration where
  secs : Nat
  nanos : Nat
  deriving Repr, DecidableEq, Inhabited

namespace Duration

/-- The largest number of whole seconds. -/
def maxSecs : Nat := 18446744073709551615

/-- The duration of a number of nanoseconds. -/
def ofNanos (n : Nat) : Duration := ⟨n / 1000000000, n % 1000000000⟩

/-- The duration of a number of milliseconds. -/
def ofMillis (n : Nat) : Duration := ⟨n / 1000, n % 1000 * 1000000⟩

/-- The number of nanoseconds. -/
def toNanos (d : Duration) : Nat := d.secs * 1000000000 + d.nanos

/-- Counting in nanoseconds loses nothing. -/
theorem toNanos_ofNanos (n : Nat) : (ofNanos n).toNanos = n := Nat.div_add_mod' n 1000000000

theorem toNanos_whole (n : Nat) : (Duration.mk n 0).toNanos = n * 1000000000 := Nat.add_zero _

/-- The number of whole milliseconds. -/
def toMillis (d : Duration) : Nat := d.toNanos / 1000000

/-- The number of milliseconds, a started one counting whole. -/
def ceilMillis (d : Duration) : Nat := (d.toNanos + 999999) / 1000000

/-- The longest duration. -/
def longest : Duration := ⟨maxSecs, 999999999⟩

/-- A duration of nanoseconds, if its whole seconds fit. -/
def ofNanos? (n : Nat) : Option Duration :=
  let d := ofNanos n
  if d.secs ≤ maxSecs then some d else none

/-- The sum of two durations, if it fits. -/
def add? (a b : Duration) : Option Duration := ofNanos? (a.toNanos + b.toNanos)

/-- The sum of two durations, or the longest one. -/
def addSaturating (a b : Duration) : Duration := (a.add? b).getD longest

/-- Whether nothing has to be waited for. -/
def isZero (d : Duration) : Bool := d.secs == 0 && d.nanos == 0

/-- A duration as a value. -/
def toJson (d : Duration) : Json := .obj [("nanos", .nat d.nanos), ("secs", .nat d.secs)]

end Duration

/-! ## The ISO form -/

namespace IsoDuration

/-- A component of digits before its letter, if it comes next. -/
def component (letter : Char) (cs : List Char) : Option (List Char) × List Char :=
  let digits := cs.takeWhile Text.isDigit
  match digits, cs.dropWhile Text.isDigit with
  | [], _ => (none, cs)
  | d :: ds, c :: rest => if c = letter then (some (d :: ds), rest) else (none, cs)
  | _, [] => (none, cs)

/-- The seconds: digits, perhaps a point and more digits, and the letter. -/
def secondsComponent (cs : List Char) : Option (List Char × List Char) × List Char :=
  let whole := cs.takeWhile Text.isDigit
  match whole, cs.dropWhile Text.isDigit with
  | _ :: _, '.' :: rest =>
    let fraction := rest.takeWhile Text.isDigit
    match fraction, rest.dropWhile Text.isDigit with
    | _ :: _, 'S' :: rest => (some (whole, fraction), rest)
    | _, _ => (none, cs)
  | _ :: _, 'S' :: rest => (some (whole, []), rest)
  | _, _ => (none, cs)

/-- The components of a duration as they are written. -/
structure Components where
  years : Option (List Char)
  months : Option (List Char)
  days : Option (List Char)
  hours : Option (List Char)
  minutes : Option (List Char)
  seconds : Option (List Char × List Char)
  deriving Repr

/-- Cuts a text into components. -/
def components? : List Char → Option Components
  | 'P' :: cs =>
    let (years, cs) := component 'Y' cs
    let (months, cs) := component 'M' cs
    let (days, cs) := component 'D' cs
    match cs with
    | [] => some ⟨years, months, days, none, none, none⟩
    | 'T' :: cs =>
      let (hours, cs) := component 'H' cs
      let (minutes, cs) := component 'M' cs
      let (seconds, cs) := secondsComponent cs
      match cs with
      | [] => some ⟨years, months, days, hours, minutes, seconds⟩
      | _ => none
    | _ => none
  | _ => none

/-- The value of an ASCII digit. -/
def digit? (c : Char) : Option Nat :=
  if '0' ≤ c ∧ c ≤ '9' then some (c.toNat - 48) else none

/-- Why digits are no count of 64 bits. -/
inductive CountFault where
  | tooLarge
  | badDigit
  deriving Repr, DecidableEq

/-- The text of a fault. -/
def CountFault.message : CountFault → String
  | .tooLarge => "number too large to fit in target type"
  | .badDigit => "invalid digit found in string"

/-- The count that digits stand for, added to one already read. -/
def countFrom (n : Nat) : List Char → Except CountFault Nat
  | [] => .ok n
  | c :: cs => match digit? c with
    | none => .error .badDigit
    | some d =>
      if n * 10 + d ≤ Duration.maxSecs then countFrom (n * 10 + d) cs else .error .tooLarge

/-- The count of a component, zero when it is absent. -/
def count (component : Option (List Char)) : Except String Nat :=
  match component with
  | none => .ok 0
  | some cs => match countFrom 0 cs with
    | .ok n => .ok n
    | .error e => .error e.message

/-- The natural number that digits stand for, if all are ASCII. -/
def natural? (cs : List Char) : Option Nat :=
  cs.foldl (fun n c => match n, digit? c with
    | some n, some d => some (n * 10 + d)
    | _, _ => none) (some 0)

/-- The nanoseconds of the binary64 number next to a decimal fraction, rounded to the nearest one. -/
def fractionNanos (digits places : Nat) : Option Nat :=
  match Decimal.nearest digits (Nat.pow 10 places) with
  | none => none
  | some (m, q) =>
    let nanos := Decimal.roundAt (m * 1000000000) 1 (-q)
    if m * Nat.pow 2 q.toNat < Nat.pow 2 64 * Nat.pow 2 (-q).toNat then some nanos else none

/-- The nanoseconds of the seconds component. -/
def secondsNanos (component : Option (List Char × List Char)) : Except String Nat :=
  match component with
  | none => .ok 0
  | some (whole, fraction) => match natural? (whole ++ fraction) with
    | none => .error "invalid float literal"
    | some n => match fractionNanos n fraction.length with
      | some nanos => .ok nanos
      | none => .error "cannot convert float seconds to Duration: value is either too big or NaN"

/-- A product of seconds, if it fits. -/
def mulSecs? (a b : Nat) : Option Nat := if a * b ≤ Duration.maxSecs then some (a * b) else none

/-- A sum of seconds, if it fits. -/
def addSecs? (a b : Nat) : Option Nat := if a + b ≤ Duration.maxSecs then some (a + b) else none

/-- The seconds of days, hours and minutes, if every product and every sum on the way to them fits. -/
def wholeSecs? (days hours minutes : Nat) : Option Nat := do
  let secs ← mulSecs? days 86400
  let secs ← addSecs? secs (← mulSecs? hours 3600)
  addSecs? secs (← mulSecs? minutes 60)

/-- The duration of days, hours, minutes and nanoseconds, if it fits. -/
def sum? (days hours minutes nanos : Nat) : Option Duration := do
  let secs ← wholeSecs? days hours minutes
  Duration.add? ⟨secs, 0⟩ (.ofNanos nanos)

/-- The duration of components. -/
def Components.total (c : Components) : Except String Duration := do
  let days ← count c.days
  let hours ← count c.hours
  let minutes ← count c.minutes
  let nanos ← secondsNanos c.seconds
  match sum? days hours minutes nanos with
  | some d => pure d
  | none => throw "duration is too large"

/-- The duration that a trimmed text stands for. -/
def read (cs : List Char) : Except String Duration :=
  match components? cs with
  | none => .error "expected ISO 8601 duration such as PT30S"
  | some c =>
    if cs = ['P'] ∨ cs.getLast? = some 'T' then .error "duration has no components"
    else if c.years.isSome ∨ c.months.isSome then .error "years and months are not supported"
    else c.total

/-- The duration that a text stands for. -/
def parse (text : String) : Except Fault Duration :=
  match read (Text.trim text).toList with
  | .ok d => .ok d
  | .error reason => .error (.invalidDuration text reason)

end IsoDuration

/-! ## The two forms -/

/-- A duration as an object of counts. -/
structure InlineDuration where
  days : Nat
  hours : Nat
  minutes : Nat
  seconds : Nat
  milliseconds : Nat
  deriving Repr, DecidableEq

namespace InlineDuration

/-- A sum of seconds that stops at the largest one. -/
def addSecs (a b : Nat) : Nat := min Duration.maxSecs (a + b)

/-- A product of seconds that stops at the largest one. -/
def mulSecs (a b : Nat) : Nat := min Duration.maxSecs (a * b)

/-- The duration, stopping at the largest one. -/
def toDuration (d : InlineDuration) : Duration :=
  let secs := addSecs (addSecs (addSecs d.seconds (mulSecs d.minutes 60)) (mulSecs d.hours 3600))
    (mulSecs d.days 86400)
  Duration.addSaturating ⟨secs, 0⟩ (Duration.ofMillis d.milliseconds)

/-- The five counts. -/
def fields : Decode.Fields InlineDuration :=
  let count (key : String) : Decode.Fields Nat := .withDefault key (Decode.natural 64) 0
  Decode.Fields.none InlineDuration.mk |>.and (count "days") |>.and (count "hours")
    |>.and (count "minutes") |>.and (count "seconds") |>.and (count "milliseconds")

/-- The names of the counts. -/
def keys : List String := ["days", "hours", "minutes", "seconds", "milliseconds"]

/-- Reads the five counts; no other member may stand beside them. -/
def decode : Decoder InlineDuration
  | .obj m =>
    match m.find? fun e => !keys.contains e.1 with
    | some (k, _) => .error ("unknown field `" ++ k ++ "`, " ++ Decode.expectedWords keys)
    | none => Decode.record "InlineDuration" fields (.obj m)
  | v => Decode.record "InlineDuration" fields v

/-- The five counts as a value. -/
def toJson (d : InlineDuration) : Json :=
  Json.object [("days", .nat d.days), ("hours", .nat d.hours), ("minutes", .nat d.minutes),
    ("seconds", .nat d.seconds), ("milliseconds", .nat d.milliseconds)]

end InlineDuration

/-- A duration as a document writes it. -/
inductive DurationSpec where
  | iso (text : String)
  | inline (counts : InlineDuration)
  deriving Repr, DecidableEq

namespace DurationSpec

/-- Reads a text or an object of counts. -/
def decode : Decoder DurationSpec
  | .str s => .ok (.iso s)
  | v => match InlineDuration.decode v with
    | .ok d => .ok (.inline d)
    | .error _ => .error "data did not match any variant of untagged enum DurationSpec"

/-- The duration that is meant. -/
def toDuration : DurationSpec → Except Fault Duration
  | .iso text => IsoDuration.parse text
  | .inline counts => .ok counts.toDuration

/-- The form as it was written. -/
def toJson : DurationSpec → Json
  | .iso text => .str text
  | .inline counts => counts.toJson

end DurationSpec

end TaskGraph
