import ApiAccord.Script.Constant
import ApiAccord.Script.Token

/-!
# Syntax trees of Python programs

`Expr` is the tree of an expression, whole enough to be written out again.  `Stmt` tells apart the
statements that declare an interface and keeps of all others only their parts, in order.
-/

namespace ApiAccord.Script

inductive BinaryOp where
  | add | subtract | multiply | matrixMultiply | divide | modulo | power | leftShift | rightShift
  | bitOr | bitXor | bitAnd | floorDivide
deriving DecidableEq, Repr

inductive UnaryOp where
  | invert | not | plus | minus
deriving DecidableEq, Repr

inductive BoolOp where
  | and | or
deriving DecidableEq, Repr

inductive CompareOp where
  | equal | notEqual | less | lessEqual | greater | greaterEqual | is | isNot | in | notIn
deriving DecidableEq, Repr

/-- What a comprehension builds. -/
inductive ComprehensionKind where
  | list | set | generator
deriving DecidableEq, Repr

mutual

inductive Expr where
  | name (id : String)
  | constant (value : Constant)
  /-- A text with values in it. -/
  | template (parts : List Expr)
  /-- A value in a template, with its conversion and its format, which is a template. -/
  | formatted (value : Expr) (conversion : Option Char) (format : Option Expr)
  | tuple (items : List Expr)
  | list (items : List Expr)
  | set (items : List Expr)
  | dict (entries : List Entry)
  | boolean (op : BoolOp) (operands : List Expr)
  | named (target : String) (value : Expr)
  | binary (left : Expr) (op : BinaryOp) (right : Expr)
  | unary (op : UnaryOp) (operand : Expr)
  | lambda (parameters : Parameters) (body : Expr)
  | conditional (test whenTrue whenFalse : Expr)
  | comprehension (kind : ComprehensionKind) (element : Expr) (clauses : List Clause)
  | dictComprehension (key value : Expr) (clauses : List Clause)
  | await (value : Expr)
  | yield (value : Option Expr)
  | yieldFrom (value : Expr)
  | compare (left : Expr) (comparisons : List Comparison)
  | call (function : Expr) (arguments : List Expr) (keywords : List Keyword) (span : Span)
  | attribute (value : Expr) (name : String)
  | subscript (value index : Expr)
  | starred (value : Expr)
  | slice (lower upper step : Option Expr)

/-- An entry of a dictionary.  Without a key, the entries of the value are meant. -/
inductive Entry where
  | mk (key : Option Expr) (value : Expr)

/-- An operand of a comparison, with the operator before it. -/
inductive Comparison where
  | mk (op : CompareOp) (right : Expr)

/-- A `for` in a comprehension, with the conditions after it. -/
inductive Clause where
  | mk (target source : Expr) (conditions : List Expr) (isAsync : Bool)

/-- An argument that is passed by name.  Without a name, the entries of the value are meant. -/
inductive Keyword where
  | mk (name : Option String) (value : Expr)

inductive Parameter where
  | mk (name : String) (type : Option Expr) (default : Option Expr) (line : Nat)

/-- The parameters of a function, by the ways in which they can be passed. -/
inductive Parameters where
  | mk (positionalOnly positional : List Parameter) (rest : Option Parameter)
      (keywordOnly : List Parameter) (keywordRest : Option Parameter)

end

instance : Inhabited Expr := ⟨.name ""⟩

namespace Keyword

def name : Keyword → Option String
  | mk n _ => n

def value : Keyword → Expr
  | mk _ v => v

end Keyword

namespace Parameter

def name : Parameter → String
  | mk n _ _ _ => n

def type? : Parameter → Option Expr
  | mk _ a _ _ => a

def default : Parameter → Option Expr
  | mk _ _ d _ => d

def line : Parameter → Nat
  | mk _ _ _ l => l

end Parameter

namespace Parameters

def empty : Parameters := .mk [] [] none [] none

/-- All parameters: those passed by place, those passed by name, and the two that take the rest. -/
def all : Parameters → List Parameter
  | mk positionalOnly positional rest keywordOnly keywordRest =>
    positionalOnly ++ positional ++ keywordOnly ++ rest.toList ++ keywordRest.toList

end Parameters

mutual

inductive Stmt where
  | function (parameters : Parameters) (body : List Stmt) (decorators : List Expr)
      (returns : Option Expr)
  | class (name : String) (bases : List Expr) (keywords : List Keyword) (body : List Stmt)
      (decorators : List Expr) (line : Nat)
  | assign (targets : List Expr) (value : Expr)
  | expression (value : Expr)
  /-- Any other statement. -/
  | other (parts : List Part)

/-- A part of a statement. -/
inductive Part where
  | expr (e : Expr)
  | stmt (s : Stmt)
  /-- A part that has parts of its own, such as a handler of exceptions. -/
  | nested (parts : List Part)

end

namespace Stmt

/-- A statement with expressions alone for parts. -/
def ofExprs (es : List Expr) : Stmt := .other (es.map .expr)

end Stmt

end ApiAccord.Script
