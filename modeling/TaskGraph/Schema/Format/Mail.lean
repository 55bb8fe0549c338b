import TaskGraph.Http.Site
import TaskGraph.Text.Blank
import TaskGraph.Text.Property

/-!
# Names of hosts and addresses of mail

A host has labels with points between them. An address of mail has a part before the last at sign, plain
or in quotes, and a host behind it, or the number of a host in brackets; a name may stand in front of an
address in angle brackets.
-/

set_option autoImplicit false

namespace TaskGraph.Mail

open Http.Site (cut plainByte? six?)

/-! ## Hosts -/

/-- Whether a text is four bytes with points between them. -/
def isFourBytes (cs : List Char) : Bool :=
  match (cut '.' cs).mapM plainByte? with
  | some bytes => bytes.length == 4
  | none => false

/-- Whether a text neither starts nor ends with a hyphen. -/
def hyphensInside (cs : List Char) : Bool := cs.head? != some '-' && cs.getLast? != some '-'

/-- Whether a text is the name of a host. -/
def isHost (cs : List Char) : Bool :=
  !cs.isEmpty && hyphensInside cs && cs.length ≤ 255 &&
    (cs.all fun c => Text.isAlphanumeric c || c == '-' || c == '.') &&
    (cut '.' cs).all fun label => label.length ≤ 63

/-! ## Hosts in any script -/

/-- Letters and marks beyond ASCII that no label holds. -/
def keptOut : List Char := "\u0640\u07fa\u302e\u302f\u3031\u3032\u3033\u3034\u3035\u303b".toList

/-- Characters of a label in any script. -/
def isLabelChar (c : Char) : Bool :=
  if c.toNat < 128 then c.isAlphanum || c == '-'
  else
    !keptOut.contains c &&
      (c == '\u200c' || c == '\u200d' ||
        !Text.Category.anyContains (Text.Category.separators ++ Text.Category.others) c)

/-- Digits of Arabic that are not used together with those of Persian. -/
def isArabicDigit (c : Char) : Bool := '\u0660' ≤ c && c ≤ '\u0669'

/-- Digits of Persian. -/
def isPersianDigit (c : Char) : Bool := '\u06f0' ≤ c && c ≤ '\u06f9'

/-- Whether a character is of a script that is written with the middle dot of Japanese. -/
def isJapanese (c : Char) : Bool :=
  let n := c.toNat
  (0x3041 ≤ n && n ≤ 0x30FF && c != '・') || (0x3400 ≤ n && n ≤ 0x9FFF)

/-- Whether a character may stand between its neighbours. -/
def fits (label : List Char) (before : Option Char) (c : Char) (behind : Option Char) : Bool :=
  if c = '·' then before == some 'l' && behind == some 'l'
  else if c = '\u0375' then behind.any fun d => '\u0370' ≤ d && d ≤ '\u03ff'
  else if c = '\u05f3' || c = '\u05f4' then before.any fun d => '\u0590' ≤ d && d ≤ '\u05ff'
  else if c = '・' then label.any isJapanese
  else if c = '\u200d' then before == some '\u094d'
  else if isArabicDigit c then !label.any isPersianDigit
  else true

/-- Whether all characters of a label may stand where they do. -/
def allFit (label : List Char) : Option Char → List Char → Bool
  | _, [] => true
  | before, c :: cs => fits label before c cs.head? && allFit label (some c) cs

/-- Whether a text is a label of a host in any script. -/
def isLabel (cs : List Char) : Bool :=
  !cs.isEmpty && hyphensInside cs && cs.all isLabelChar && allFit cs none cs &&
    !(cs.head?.any (Text.Category.anyContains Text.Category.marks)) &&
    !(cs.drop 2).take 2 == ['-', '-'] && (Http.Site.asciiLabel cs).length ≤ 63

/-- Whether a text is the name of a host in any script. -/
def isForeignHost (cs : List Char) : Bool :=
  let labels := cut '.' (cs.flatMap Http.Site.mapped)
  let ascii := ".".toList.intercalate (labels.map Http.Site.asciiLabel)
  ascii.length ≤ 253 && labels.all fun l =>
    isLabel l || (l.take 4 == "xn--".toList && isHost l && l.length > 4)

/-! ## Mail -/

/-- Characters of a word without quotes. -/
def isWordChar (c : Char) : Bool :=
  c.isAlphanum || 128 ≤ c.toNat || "!#$%&'*+-/=?^_\x60\x7b|\x7d~".toList.contains c

/-- Whether a text is a word. -/
def isWord (cs : List Char) : Bool := !cs.isEmpty && cs.all isWordChar

/-- Whether a text may stand in quotes. -/
def isQuoted : List Char → Bool
  | '\\' :: c :: cs => ('!' ≤ c && c ≤ '~') && isQuoted cs
  | c :: cs =>
    (c == ' ' || c == '\t' || 128 ≤ c.toNat || ('!' ≤ c && c ≤ '~' && c != '"' && c != '\\')) &&
      isQuoted cs
  | [] => true

/-- The length of a text in bytes. -/
def byteCount (cs : List Char) : Nat := (String.ofList cs).utf8ByteSize

/-- A text without a quote at either end, if it has both. -/
def unquoted? (cs : List Char) : Option (List Char) :=
  match cs, cs.getLast? with
  | '"' :: rest, some '"' => some rest.dropLast
  | _, _ => none

/-- Whether a text is the part before the at sign. -/
def isPerson (cs : List Char) : Bool :=
  !cs.isEmpty && byteCount cs ≤ 64 &&
    match unquoted? cs with
    | some inner => !inner.isEmpty && isQuoted inner
    | none => (cut '.' cs).all isWord

/-- A text without brackets around it, if it has them. -/
def unbracketed? (cs : List Char) : Option (List Char) :=
  match cs, cs.getLast? with
  | '[' :: rest, some ']' => some rest.dropLast
  | _, _ => none

/-- Whether a text is the part behind the at sign. -/
def isMailHost (cs : List Char) : Bool :=
  !cs.isEmpty && byteCount cs ≤ 254 &&
    match unbracketed? cs with
    | some inner =>
      let mark := "IPv6:".toList
      if mark.isPrefixOf inner then (six? (inner.drop 5)).isSome else isFourBytes inner
    | none =>
      (cut '.' cs).all (fun l => isWord l && byteCount l ≤ 63 && hyphensInside l) && isHost cs

/-- What stands before and behind the last place of a text in another one. -/
def cutAtLast (mark cs : List Char) : Option (List Char × List Char) :=
  (List.range (cs.length + 1)).reverse.findSome? fun i =>
    if mark.isPrefixOf (cs.drop i) then some (cs.take i, cs.drop (i + mark.length)) else none

/-- The address inside of angle brackets behind a name, or the whole. -/
def bare? (cs : List Char) : Option (List Char) :=
  match cutAtLast " <".toList cs with
  | none => some cs
  | some (_, rest) =>
    let rest := rest.dropWhile Text.isBlank
    match rest.reverse.dropWhile Text.isBlank with
    | '>' :: inner => some inner.reverse
    | _ => none

/-- Whether a text is an address of mail. -/
def isAddress (cs : List Char) : Bool :=
  match (bare? cs).bind (cutAtLast ['@']) with
  | some (person, host) => isPerson person && isMailHost host
  | none => false

end TaskGraph.Mail
