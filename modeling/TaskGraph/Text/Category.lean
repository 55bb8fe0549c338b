import TaskGraph.Text.Category.Letters
import TaskGraph.Text.Category.Marks
import TaskGraph.Text.Category.Signs
import TaskGraph.Text.Category.Unseen
import TaskGraph.Text.Digit

/-!
# General categories

Every code point is of one of the general categories of Unicode. The runs of a category list its code
points; those in no list are unassigned.
-/

set_option autoImplicit false

namespace TaskGraph.Text

/-- The general categories, in the order of the standard. -/
inductive Category where
  | uppercaseLetter
  | lowercaseLetter
  | titlecaseLetter
  | modifierLetter
  | otherLetter
  | nonspacingMark
  | spacingMark
  | enclosingMark
  | decimalNumber
  | letterNumber
  | otherNumber
  | connectorPunctuation
  | dashPunctuation
  | openPunctuation
  | closePunctuation
  | initialPunctuation
  | finalPunctuation
  | otherPunctuation
  | mathSymbol
  | currencySymbol
  | modifierSymbol
  | otherSymbol
  | spaceSeparator
  | lineSeparator
  | paragraphSeparator
  | control
  | format
  /-- Halves of pairs of code units; no character is one. -/
  | surrogate
  | privateUse
  | unassigned
  deriving Repr, DecidableEq

namespace Category

/-- The runs of a category that has a list. -/
def runs : Category → List Run
  | uppercaseLetter => uppercaseLetters
  | lowercaseLetter => lowercaseLetters
  | titlecaseLetter => titlecaseLetters
  | modifierLetter => modifierLetters
  | otherLetter => otherLetters
  | nonspacingMark => nonspacingMarks
  | spacingMark => spacingMarks
  | enclosingMark => enclosingMarks
  | decimalNumber => digitRanges.map fun (first, last) => ⟨first, last, 1⟩
  | letterNumber => letterNumbers
  | otherNumber => otherNumbers
  | connectorPunctuation => connectors
  | dashPunctuation => dashes
  | openPunctuation => openingBrackets
  | closePunctuation => closingBrackets
  | initialPunctuation => openingQuotes
  | finalPunctuation => closingQuotes
  | otherPunctuation => otherMarksOfPunctuation
  | mathSymbol => mathSymbols
  | currencySymbol => currencySymbols
  | modifierSymbol => modifierSymbols
  | otherSymbol => otherSymbols
  | spaceSeparator => spaceSeparators
  | lineSeparator => lineSeparators
  | paragraphSeparator => paragraphSeparators
  | control => controls
  | format => formats
  | surrogate => []
  | privateUse => privateCodePoints
  | unassigned => []

/-- The letters, marks, numbers, punctuation, symbols, separators and other code points. -/
def letters : List Category :=
  [uppercaseLetter, lowercaseLetter, titlecaseLetter, modifierLetter, otherLetter]

@[inherit_doc letters]
def marks : List Category := [nonspacingMark, spacingMark, enclosingMark]

@[inherit_doc letters]
def numbers : List Category := [decimalNumber, letterNumber, otherNumber]

@[inherit_doc letters]
def punctuation : List Category :=
  [connectorPunctuation, dashPunctuation, openPunctuation, closePunctuation, initialPunctuation,
    finalPunctuation, otherPunctuation]

@[inherit_doc letters]
def symbols : List Category := [mathSymbol, currencySymbol, modifierSymbol, otherSymbol]

@[inherit_doc letters]
def separators : List Category := [spaceSeparator, lineSeparator, paragraphSeparator]

@[inherit_doc letters]
def others : List Category := [control, format, surrogate, privateUse, unassigned]

/-- All categories with a list. -/
def assigned : List Category :=
  letters ++ marks ++ numbers ++ punctuation ++ symbols ++ separators ++
    [control, format, surrogate, privateUse]

/-- Whether a character is of a category. -/
def contains : Category → Char → Bool
  | unassigned, c => !assigned.any fun g => inRuns g.runs c
  | g, c => inRuns g.runs c

/-- Whether a character is of one of some categories. -/
def anyContains (gs : List Category) (c : Char) : Bool := gs.any (·.contains c)

/-- The runs of some categories. -/
def runsOf (gs : List Category) : List Run := gs.flatMap runs

end Category

end TaskGraph.Text
