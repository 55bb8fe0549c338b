/-!
# Expressions

The abstract syntax of the expression language. A filter stands apart from an index because its left
operand is a field of each item.
-/

set_option autoImplicit false

namespace TaskGraph

namespace Expr

/-- A binary operator. -/
inductive Op where
  | and | or
  | equal | notEqual | less | lessEqual | greater | greaterEqual | within
  | add | subtract | multiply | divide | floorDivide | modulus | power
  deriving Repr, DecidableEq

/-- The name of an operator in messages. -/
def Op.name : Op → String
  | .and => "Bitwise And"
  | .or => "Bitwise Or"
  | .equal => "Equal"
  | .notEqual => "Not equal"
  | .less => "Less than"
  | .lessEqual => "Less than or equal to"
  | .greater => "Greater than"
  | .greaterEqual => "Greater than or equal to"
  | .within => "In"
  | .add => "Add"
  | .subtract => "Subtract"
  | .multiply => "Multiply"
  | .divide => "Divide"
  | .floorDivide => "Floor division"
  | .modulus => "Modulus"
  | .power => "Exponent"

end Expr

/-- An expression. -/
inductive Expr where
  | null
  | bool (b : Bool)
  | number (x : Float)
  | text (s : String)
  | array (items : List Expr)
  | object (members : List (String × Expr))
  | ident (s : String)
  | member (subject : Expr) (field : String)
  | index (subject key : Expr)
  | filter (subject : Expr) (field : String) (op : Expr.Op) (right : Expr)
  | binary (op : Expr.Op) (left right : Expr)
  | transform (subject : Expr) (name : String) (args : List Expr)
  | choice (condition yes no : Expr)
  deriving Repr, Inhabited

end TaskGraph
