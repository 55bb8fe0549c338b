import TaskGraph.Decimal.Layout
import TaskGraph.Decimal.Numeral
import TaskGraph.Text.Bytes

/-!
# Writing words

The two commands that write their arguments: one writes them with blanks between them, the other one
puts them into a format, which is used again as long as arguments are left. Both exist twice, as
programs and inside the shell, with different escapes.
-/

set_option autoImplicit false

namespace TaskGraph.Shell

open Text (Bytes bytes)

/-- Where a command lives: inside the shell, or as a program of its own. -/
inductive Dialect where
  | builtin
  | standalone
  deriving Repr, DecidableEq

/-- An octal digit. -/
def isOctal (c : Char) : Bool := '0' ≤ c && c ≤ '7'

/-- Up to so many digits in a base, and what follows them. -/
def digitsIn (base count : Nat) (cs : List Char) : List Char × List Char :=
  let ds := (cs.take count).takeWhile fun c => (Decimal.digitIn? base c).isSome
  (ds, cs.drop ds.length)

/-- The byte that digits stand for. -/
def byteOf (base : Nat) (ds : List Char) : UInt8 := ((Decimal.natIn? base ds).getD 0).toUInt8

/-- What an escape stands for, what follows it, and whether it ends the output. The characters are those
behind the backslash; a zero may stand in front of three octal digits where that is told. -/
def escape (d : Dialect) (zero : Bool) : List Char → Bytes × List Char × Bool
  | [] => ([92], [], false)
  | c :: cs =>
    if c = 'n' then ([10], cs, false)
    else if c = 't' then ([9], cs, false)
    else if c = 'r' then ([13], cs, false)
    else if c = '\\' then ([92], cs, false)
    else if c = 'a' then ([7], cs, false)
    else if c = 'b' then ([8], cs, false)
    else if c = 'f' then ([12], cs, false)
    else if c = 'v' then ([11], cs, false)
    else if c = 'c' then ([], [], true)
    else if isOctal c then
      let (ds, rest) := if zero && c = '0' then digitsIn 8 3 cs else digitsIn 8 3 (c :: cs)
      ([byteOf 8 (if ds.isEmpty then ['0'] else ds)], rest, false)
    else if d = .standalone && c = 'e' then ([27], cs, false)
    else if d = .standalone && c = '"' then ([34], cs, false)
    else if d = .standalone && c = 'x' then
      let (ds, rest) := digitsIn 16 2 cs
      if ds.isEmpty then ([92, 120], cs, false) else ([byteOf 16 ds], rest, false)
    else (92 :: bytes (String.singleton c), cs, false)

/-- A text with its escapes put in, and whether one of them ends the output; the fuel bounds the number
of characters. -/
def unescaped (d : Dialect) (zero : Bool) : Nat → List Char → Bytes × Bool
  | 0, _ => ([], false)
  | _, [] => ([], false)
  | fuel + 1, c :: cs =>
    if c = '\\' then
      let (b, rest, stop) := escape d zero cs
      if stop then (b, true)
      else
        let (more, stop) := unescaped d zero fuel rest
        (b ++ more, stop)
    else
      let (more, stop) := unescaped d zero fuel cs
      (bytes (String.singleton c) ++ more, stop)

/-! ## Writing arguments -/

/-- The options in front of the arguments of the program: whether the line ends, whether escapes are put
in, and the arguments. -/
def echoOptions (ends escapes : Bool) : List String → Bool × Bool × List String
  | [] => (ends, escapes, [])
  | a :: as => match a.toList with
    | '-' :: c :: cs =>
      if (c :: cs).all fun c => c = 'n' || c = 'e' || c = 'E' then
        let ends := ends && !(c :: cs).contains 'n'
        let escapes := match (c :: cs).reverse.find? fun c => c = 'e' || c = 'E' with
          | some c => c = 'e'
          | none => escapes
        echoOptions ends escapes as
      else (ends, escapes, a :: as)
    | _ => (ends, escapes, a :: as)

/-- What writing arguments puts out. -/
def echo (d : Dialect) (arguments : List String) : Bytes :=
  let (ends, escapes, words) := match d, arguments with
    | .builtin, "-n" :: words => (false, true, words)
    | .builtin, words => (true, true, words)
    | .standalone, words => echoOptions true false words
  let line := " ".intercalate words
  if escapes then
    let (b, stop) := unescaped d true line.length line.toList
    if stop || !ends then b else b ++ [10]
  else if ends then bytes line ++ [10]
  else bytes line

/-! ## Formats -/

/-- A place in a format. -/
structure Directive where
  left : Bool
  plus : Bool
  space : Bool
  zero : Bool
  alternative : Bool
  width : Nat
  precision : Option Nat
  letter : Char

/-- What a format has put out, the arguments that are left, and the complaints about them. -/
structure Printed where
  output : Bytes
  arguments : List String
  complaints : List String
  stopped : Bool

/-- A text filled up with blanks to a width. -/
def Directive.padded (d : Directive) (b : Bytes) : Bytes :=
  let gap := List.replicate (d.width - b.length) (32 : UInt8)
  if d.left then b ++ gap else gap ++ b

/-- The digits of a number in a base. -/
def Directive.digits (d : Directive) (n : Nat) : String :=
  let ds := if d.letter = 'o' then Nat.toDigits 8 n
    else if d.letter = 'x' || d.letter = 'X' then Nat.toDigits 16 n
    else Nat.toDigits 10 n
  String.ofList (if d.letter = 'X' then ds.map Char.toUpper else ds)

/-- A number at a place. -/
def Directive.number (d : Directive) (n : Int) : Bytes :=
  let signed := d.letter = 'd' || d.letter = 'i'
  let magnitude := if signed then n.natAbs else (n % Nat.pow 2 64).toNat
  let ds := d.digits magnitude
  let ds := String.ofList (List.replicate ((d.precision.getD 1) - ds.length) '0') ++ ds
  let sign := if signed && n < 0 then "-" else if signed && d.plus then "+"
    else if signed && d.space then " "
    else if d.alternative && d.letter = 'x' && magnitude ≠ 0 then "0x"
    else if d.alternative && d.letter = 'X' && magnitude ≠ 0 then "0X"
    else if d.alternative && d.letter = 'o' && magnitude ≠ 0 then "0" else ""
  let zeros := if d.zero && !d.left && d.precision.isNone then d.width - sign.length - ds.length else 0
  d.padded (bytes (sign ++ String.ofList (List.replicate zeros '0') ++ ds))

/-- The number at the front of an argument, whether there is one, and whether anything follows it. -/
def leading (s : String) : Int × Bool × Bool :=
  let cs := s.toList.dropWhile fun c => c = ' ' || c = '\t'
  match cs with
  | '\'' :: c :: _ | '"' :: c :: _ => (c.toNat, true, false)
  | cs =>
    let (negative, cs) := match cs with
      | '-' :: cs => (true, cs)
      | '+' :: cs => (false, cs)
      | cs => (false, cs)
    let (base, cs) := match cs with
      | '0' :: 'x' :: cs | '0' :: 'X' :: cs => (16, cs)
      | '0' :: cs => (8, '0' :: cs)
      | cs => (10, cs)
    let (ds, rest) := digitsIn base cs.length cs
    let n : Int := (Decimal.natIn? base ds).getD 0
    (if negative then -n else n, !ds.isEmpty, !rest.isEmpty)

/-- The complaint about an argument that is no number. -/
def numberComplaint (d : Dialect) (s : String) (found : Bool) : String :=
  match d, found with
  | .builtin, false => "printf: " ++ s ++ ": expected numeric value"
  | .builtin, true => "printf: " ++ s ++ ": not completely converted"
  | .standalone, false => "printf: '" ++ s ++ "': expected a numeric value"
  | .standalone, true => "printf: '" ++ s ++ "': value not completely converted"

/-- A number with places behind the point, a half going to the even neighbour. -/
def fixedText (x : Float) (places : Nat) : String :=
  match Decimal.Parts.ofFloat x with
  | .nan => "nan"
  | .infinite negative => if negative then "-inf" else "inf"
  | .finite negative d =>
    let scaled := d.exponent + places
    let n := if 0 ≤ scaled then d.digits * Nat.pow 10 scaled.toNat
      else
        let den := Nat.pow 10 (-scaled).toNat
        let q := d.digits / den
        let r := d.digits % den
        if 2 * r < den ∨ (2 * r = den ∧ q % 2 = 0) then q else q + 1
    let ds := Nat.repr n
    let ds := String.ofList (List.replicate (places + 1 - ds.length) '0') ++ ds
    let whole := String.ofList (ds.toList.take (ds.length - places))
    (if negative then "-" else "") ++
      (if places = 0 then whole else whole ++ "." ++ String.ofList (ds.toList.drop (ds.length - places)))

/-- The text of a number with its sign and with the zeros that a place asks for. -/
def Directive.filled (d : Directive) (text : String) : String :=
  let (sign, digits) := match text.toList with
    | '-' :: cs => ("-", cs)
    | cs => (if d.plus then "+" else if d.space then " " else "", cs)
  let finite := digits.all fun c => c.isDigit || c = '.'
  let zeros := if d.zero && !d.left && finite then d.width - sign.length - digits.length else 0
  sign ++ String.ofList (List.replicate zeros '0' ++ digits)

/-- Puts an argument at a place. -/
def place (d : Dialect) (p : Directive) (out : Printed) : Printed :=
  let given := out.arguments.head?
  let out := { out with arguments := out.arguments.tail }
  let s := given.getD ""
  let cut (b : Bytes) : Bytes := match p.precision with
    | some n => b.take n
    | none => b
  if p.letter = 's' then { out with output := out.output ++ p.padded (cut (bytes s)) }
  else if p.letter = 'c' then { out with output := out.output ++ p.padded ((bytes s).take 1) }
  else if p.letter = 'b' then
    let (b, stop) := unescaped d true s.length s.toList
    { out with output := out.output ++ p.padded (cut b), stopped := stop }
  else if p.letter = 'f' || p.letter = 'F' then
    let x := Decimal.float? s.toList
    let text := p.filled (fixedText (x.getD 0.0) (p.precision.getD 6))
    { out with
      output := out.output ++ p.padded (bytes text)
      complaints := if x.isNone && given.isSome && s != "" then out.complaints ++ [numberComplaint d s false]
        else out.complaints }
  else
    let (n, found, more) := leading s
    let faulty := given.isSome && (!found || more) && (s != "" || d = .builtin)
    { out with
      output := out.output ++ p.number n
      complaints := if faulty then out.complaints ++ [numberComplaint d s found] else out.complaints }

/-- Reads a width or a precision, which an asterisk takes from the arguments. -/
def measure (cs : List Char) (arguments : List String) : Int × List Char × List String :=
  match cs with
  | '*' :: cs => ((leading (arguments.headD "0")).1, cs, arguments.tail)
  | cs => (Decimal.ofDigits (cs.takeWhile Char.isDigit), cs.dropWhile Char.isDigit, arguments)

/-- Reads the flags of a place. -/
def flags (d : Directive) : List Char → Directive × List Char
  | '-' :: cs => flags { d with left := true } cs
  | '+' :: cs => flags { d with plus := true } cs
  | ' ' :: cs => flags { d with space := true } cs
  | '0' :: cs => flags { d with zero := true } cs
  | '#' :: cs => flags { d with alternative := true } cs
  | cs => (d, cs)

/-- Reads a place behind its percent sign. -/
def directive (cs : List Char) (arguments : List String) : Directive × List Char × List String :=
  let (d, cs) := flags ⟨false, false, false, false, false, 0, none, ' '⟩ cs
  let (width, cs, arguments) := measure cs arguments
  let d := { d with width := width.natAbs, left := d.left || width < 0 }
  let (d, cs, arguments) := match cs with
    | '.' :: cs =>
      let (n, cs, arguments) := measure cs arguments
      ({ d with precision := if n < 0 then none else some n.toNat }, cs, arguments)
    | cs => (d, cs, arguments)
  match cs with
  | c :: cs => ({ d with letter := c }, cs, arguments)
  | [] => (d, [], arguments)

/-- The letters of places. -/
def isConversion (c : Char) : Bool := "sbcdiouxXfF".toList.contains c

/-- Goes through a format once. -/
def formatOnce (d : Dialect) : Nat → List Char → Printed → Printed
  | 0, _, out => out
  | _, [], out => out
  | fuel + 1, c :: cs, out =>
    if out.stopped then out
    else if c = '\\' then
      let (b, rest, stop) := escape d false cs
      formatOnce d fuel rest { out with output := out.output ++ b, stopped := stop }
    else if c = '%' then
      match cs with
      | '%' :: rest => formatOnce d fuel rest { out with output := out.output ++ [37] }
      | cs =>
        let (p, rest, arguments) := directive cs out.arguments
        if isConversion p.letter then
          formatOnce d fuel rest (place d p { out with arguments := arguments })
        else
          let shown := "%" ++ String.ofList (cs.take (cs.length - rest.length))
          { out with
            complaints := out.complaints ++ ["printf: " ++ shown ++
              (if d = .builtin then ": invalid directive" else ": invalid conversion specification")]
            stopped := true }
    else formatOnce d fuel cs { out with output := out.output ++ bytes (String.singleton c) }

/-- Goes through a format as often as arguments are left and it takes some. -/
def formatAll (d : Dialect) (format : List Char) : Nat → Printed → Printed
  | 0, out => out
  | fuel + 1, out =>
    let next := formatOnce d format.length format out
    if next.stopped || next.arguments.isEmpty || next.arguments.length = out.arguments.length then next
    else formatAll d format fuel next

/-- What a format puts out, and the complaints about its arguments. -/
def printf (d : Dialect) (format : String) (arguments : List String) : Bytes × List String :=
  let out := formatAll d format.toList (arguments.length + 1) ⟨[], arguments, [], false⟩
  (out.output, out.complaints)

end TaskGraph.Shell
