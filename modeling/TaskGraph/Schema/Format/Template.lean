import TaskGraph.Decimal.Numeral

/-!
# Pointers and templates

A pointer leads into a value, key by key. A template is an address with variables in braces.
-/

set_option autoImplicit false

namespace TaskGraph.Template

/-- Whether each tilde of a text stands for a character. -/
def tildesPaired : List Char → Bool
  | '~' :: c :: cs => (c == '0' || c == '1') && tildesPaired cs
  | ['~'] => false
  | _ :: cs => tildesPaired cs
  | [] => true

/-- Whether a text is a pointer. -/
def isPointer : List Char → Bool
  | [] => true
  | '/' :: cs => tildesPaired cs
  | _ => false

/-- Whether a text is a pointer behind the number of levels to go up. -/
def isRelativePointer (cs : List Char) : Bool :=
  match Decimal.splitDigits cs with
  | ([], _) | ('0' :: _ :: _, _) => false
  | (_, rest) => rest == ['#'] || isPointer rest

/-- Whether a character stands for itself in a template. -/
def isPlain (c : Char) : Bool := ' ' < c && !"\"'<>%\\^\x60\x7b|\x7d".toList.contains c

/-- A digit of a byte behind a percent sign. -/
def isByteDigit (c : Char) : Bool := c.isDigit || ('a' ≤ c && c ≤ 'f')

/-- What stands behind the name of a variable, which is not empty if something was seen of it. -/
def behindName? (seen : Bool) : List Char → Option (List Char)
  | '%' :: a :: b :: cs => if isByteDigit a && isByteDigit b then behindName? true cs else none
  | c :: cs =>
    if c.isDigit || ('a' ≤ c && c ≤ 'z') || c == '_' then behindName? true cs
    else if seen then some (c :: cs) else none
  | [] => if seen then some [] else none

/-- What stands behind the cut or the star of a variable. -/
def behindChange? : List Char → Option (List Char)
  | ':' :: cs => match Decimal.splitDigits cs with
    | ([], _) | ('0' :: _, _) => none
    | (digits, rest) => if digits.length ≤ 4 then some rest else none
  | '*' :: cs => some cs
  | cs => some cs

/-- What stands behind variables with commas between them and the brace that ends them. -/
def behindVariables? : Nat → List Char → Option (List Char)
  | 0, _ => none
  | room + 1, cs => match (behindName? false cs).bind behindChange? with
    | some (',' :: rest) => behindVariables? room rest
    | some ('\x7d' :: rest) => some rest
    | _ => none

/-- Whether a text is a template. -/
def isTemplateWithin : Nat → List Char → Bool
  | _, [] => true
  | 0, _ => false
  | room + 1, '%' :: a :: b :: cs => isByteDigit a && isByteDigit b && isTemplateWithin room cs
  | room + 1, '\x7b' :: cs =>
    let cs := match cs with
      | c :: rest => if "+#./;?&=,!@|".toList.contains c then rest else c :: rest
      | [] => []
    match behindVariables? (cs.length + 1) cs with
    | some rest => isTemplateWithin room rest
    | none => false
  | room + 1, c :: cs => isPlain c && isTemplateWithin room cs

@[inherit_doc isTemplateWithin]
def isTemplate (cs : List Char) : Bool := isTemplateWithin cs.length cs

end TaskGraph.Template
