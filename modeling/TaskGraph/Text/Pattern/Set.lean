import TaskGraph.Text.Casing
import TaskGraph.Text.Script

/-!
# Sets of characters

A set is built from runs of code points by complement, union, intersection and closure under case. The
sets that patterns name are listed: classes with a letter, classes with a word, and the properties of
Unicode.
-/

set_option autoImplicit false

namespace TaskGraph

/-- A set of characters. -/
inductive CharSet where
  | runs (rs : List Text.Run)
  /-- Everything that is not in a set. -/
  | outside (s : CharSet)
  | either (a b : CharSet)
  | both (a b : CharSet)
  /-- With a character, all that differ from it in case only. -/
  | anyCase (s : CharSet)
  deriving Repr, DecidableEq

namespace CharSet

/-- Whether a character is in a set. -/
def contains : CharSet → Char → Bool
  | runs rs, c => Text.inRuns rs c
  | outside s, c => !s.contains c
  | either a b, c => a.contains c || b.contains c
  | both a b, c => a.contains c && b.contains c
  | anyCase s, c => (Text.caseMates c).any fun d => s.contains d

/-- The characters from one to another. -/
def range (low high : Char) : CharSet := runs [⟨low.toNat, high.toNat, 1⟩]

/-- A single character. -/
def single (c : Char) : CharSet := range c c

/-- No character. -/
def none : CharSet := runs []

/-- Every character. -/
def all : CharSet := outside none

/-- A set or, if asked for, its complement. -/
def negatedIf (negated : Bool) (s : CharSet) : CharSet := if negated then outside s else s

/-- A set or, if asked for, its closure under case. -/
def foldedIf (folded : Bool) (s : CharSet) : CharSet := if folded then anyCase s else s

/-- The characters of one set only. -/
def without (a b : CharSet) : CharSet := both a (outside b)

/-- The characters of exactly one of two sets. -/
def exclusive (a b : CharSet) : CharSet := either (without a b) (without b a)

/-! ## Classes with a letter -/

/-- The digits, blanks and word characters of plain texts. -/
def narrowClass? : Char → Option CharSet
  | 'd' => some (range '0' '9')
  | 'w' => some (runs [⟨0x30, 0x39, 1⟩, ⟨0x41, 0x5A, 1⟩, ⟨0x5F, 0x5F, 1⟩, ⟨0x61, 0x7A, 1⟩])
  | 's' => some (runs [⟨0x09, 0x0D, 1⟩, ⟨0x20, 0x20, 1⟩, ⟨0xA0, 0xA0, 1⟩, ⟨0x2003, 0x2003, 1⟩,
      ⟨0x2028, 0x2029, 1⟩, ⟨0xFEFF, 0xFEFF, 1⟩])
  | _ => Option.none

/-- The digits, blanks and word characters of all scripts. -/
def wideClass? : Char → Option CharSet
  | 'd' => some (runs Text.Category.decimalNumber.runs)
  | 'w' => some (runs Text.wordCharacters)
  | 's' => some (runs Text.blanks)
  | _ => Option.none

/-- The class of a letter, narrow or wide; a capital stands for the complement. -/
def letterClass? (narrow : Bool) (c : Char) : Option CharSet :=
  let small := if narrow then narrowClass? c.toLower else wideClass? c.toLower
  small.map (negatedIf c.isUpper)

/-! ## Classes with a word -/

/-- The classes with a word. -/
def wordClasses : List (String × List Text.Run) := [
  ("alnum", [⟨0x30, 0x39, 1⟩, ⟨0x41, 0x5A, 1⟩, ⟨0x61, 0x7A, 1⟩]),
  ("alpha", [⟨0x41, 0x5A, 1⟩, ⟨0x61, 0x7A, 1⟩]),
  ("ascii", [⟨0x00, 0x7F, 1⟩]),
  ("blank", [⟨0x09, 0x09, 1⟩, ⟨0x20, 0x20, 1⟩]),
  ("cntrl", [⟨0x00, 0x1F, 1⟩, ⟨0x7F, 0x7F, 1⟩]),
  ("digit", [⟨0x30, 0x39, 1⟩]),
  ("graph", [⟨0x21, 0x7E, 1⟩]),
  ("lower", [⟨0x61, 0x7A, 1⟩]),
  ("print", [⟨0x20, 0x7E, 1⟩]),
  ("punct", [⟨0x21, 0x2F, 1⟩, ⟨0x3A, 0x40, 1⟩, ⟨0x5B, 0x60, 1⟩, ⟨0x7B, 0x7E, 1⟩]),
  ("space", [⟨0x09, 0x0D, 1⟩, ⟨0x20, 0x20, 1⟩]),
  ("upper", [⟨0x41, 0x5A, 1⟩]),
  ("word", [⟨0x30, 0x39, 1⟩, ⟨0x41, 0x5A, 1⟩, ⟨0x5F, 0x5F, 1⟩, ⟨0x61, 0x7A, 1⟩]),
  ("xdigit", [⟨0x30, 0x39, 1⟩, ⟨0x41, 0x46, 1⟩, ⟨0x61, 0x66, 1⟩])]

/-- The class of a word. -/
def wordClass? (word : String) : Option CharSet := (wordClasses.lookup word).map runs

/-! ## Properties -/

open Text in
/-- The names of the general categories. -/
def categories : List (List String × List Category) := [
  (["c", "other"], Category.others), (["cc", "control", "cntrl"], [.control]),
  (["cf", "format"], [.format]), (["cn", "unassigned"], [.unassigned]),
  (["co", "privateuse"], [.privateUse]), (["cs", "surrogate"], [.surrogate]),
  (["l", "letter"], Category.letters),
  (["lc", "casedletter"], [.uppercaseLetter, .lowercaseLetter, .titlecaseLetter]),
  (["ll", "lowercaseletter"], [.lowercaseLetter]), (["lm", "modifierletter"], [.modifierLetter]),
  (["lo", "otherletter"], [.otherLetter]), (["lt", "titlecaseletter"], [.titlecaseLetter]),
  (["lu", "uppercaseletter"], [.uppercaseLetter]),
  (["m", "mark", "combiningmark"], Category.marks), (["mc", "spacingmark"], [.spacingMark]),
  (["me", "enclosingmark"], [.enclosingMark]), (["mn", "nonspacingmark"], [.nonspacingMark]),
  (["n", "number"], Category.numbers), (["nd", "decimalnumber", "digit"], [.decimalNumber]),
  (["nl", "letternumber"], [.letterNumber]), (["no", "othernumber"], [.otherNumber]),
  (["p", "punctuation", "punct"], Category.punctuation),
  (["pc", "connectorpunctuation"], [.connectorPunctuation]),
  (["pd", "dashpunctuation"], [.dashPunctuation]), (["pe", "closepunctuation"], [.closePunctuation]),
  (["pf", "finalpunctuation"], [.finalPunctuation]),
  (["pi", "initialpunctuation"], [.initialPunctuation]),
  (["po", "otherpunctuation"], [.otherPunctuation]), (["ps", "openpunctuation"], [.openPunctuation]),
  (["s", "symbol"], Category.symbols), (["sc", "currencysymbol"], [.currencySymbol]),
  (["sk", "modifiersymbol"], [.modifierSymbol]), (["sm", "mathsymbol"], [.mathSymbol]),
  (["so", "othersymbol"], [.otherSymbol]), (["z", "separator"], Category.separators),
  (["zl", "lineseparator"], [.lineSeparator]), (["zp", "paragraphseparator"], [.paragraphSeparator]),
  (["zs", "spaceseparator"], [.spaceSeparator])]

/-- The characters of a category; what is unassigned is outside of all others. -/
def ofCategory : Text.Category → CharSet
  | .unassigned => outside (runs (Text.Category.runsOf Text.Category.assigned))
  | g => runs g.runs

/-- The names of the other properties. -/
def properties : List (List String × List Text.Run) := [
  (["alpha", "alphabetic"], Text.alphabetic),
  (["ahex", "asciihexdigit"], [⟨0x30, 0x39, 1⟩, ⟨0x41, 0x46, 1⟩, ⟨0x61, 0x66, 1⟩]),
  (["hex", "hexdigit"], [⟨0x30, 0x39, 1⟩, ⟨0x41, 0x46, 1⟩, ⟨0x61, 0x66, 1⟩, ⟨0xFF10, 0xFF19, 1⟩,
    ⟨0xFF21, 0xFF26, 1⟩, ⟨0xFF41, 0xFF46, 1⟩]),
  (["cased"], Text.cased),
  (["ci", "caseignorable"], Text.caseIgnorable),
  (["dash"], Text.dashes),
  (["di", "defaultignorablecodepoint"], Text.defaultIgnorable),
  (["emoji"], Text.emoji),
  (["idc", "idcontinue", "xidc", "xidcontinue"], Text.idContinue),
  (["ids", "idstart", "xids", "xidstart"], Text.idStart),
  (["ideo", "ideographic"], Text.ideographic),
  (["joinc", "joincontrol"], [⟨0x200C, 0x200D, 1⟩]),
  (["lower", "lowercase"], Text.lowercase),
  (["upper", "uppercase"], Text.uppercase),
  (["space", "wspace", "whitespace"], Text.blanks),
  (["any"], [⟨0x00, 0x10FFFF, 1⟩]),
  (["ascii"], [⟨0x00, 0x7F, 1⟩]),
  (["assigned"], Text.Category.runsOf Text.Category.assigned)]

/-- A name of a property without what is passed over in it. -/
def looseName (name : String) : String :=
  let cs := (name.toList.filter fun c => !(c = ' ' || c = '_' || c = '-')).map Char.toLower
  match cs with
  | 'i' :: 's' :: rest => if rest.isEmpty then String.ofList cs else String.ofList rest
  | cs => String.ofList cs

/-- The characters of a general category. -/
def category? (name : String) : Option CharSet :=
  (categories.find? fun e => e.1.contains name).map fun e =>
    e.2.foldr (fun g s => either (ofCategory g) s) none

/-- The characters of a script. -/
def script? (name : String) : Option CharSet :=
  (Text.Script.all.find? fun s => looseName s.name == name || looseName s.code == name).map fun s =>
    runs s.runs

/-- The characters with a property, given by its name or by the name of a kind of property and a value. -/
def property? (name : String) (value : Option String) : Option CharSet :=
  match looseName name, value.map looseName with
  | "gc", some v | "generalcategory", some v => category? v
  | "sc", some v | "script", some v | "scx", some v | "scriptextensions", some v => script? v
  | _, some _ => Option.none
  | n, Option.none =>
    match properties.find? fun e => e.1.contains n with
    | some e => some (runs e.2)
    | Option.none => (category? n).orElse fun _ => script? n

end CharSet

end TaskGraph
