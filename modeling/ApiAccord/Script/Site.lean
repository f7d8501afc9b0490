import ApiAccord.Script.Tree

/-!
# The sites of a program

A `Site` is a place in a program that may say something about an interface.  `Program.sites` lists
them level by level: a site comes after all that are nested less deeply in the syntax tree, and
those on one level stand in the order of the program.
-/

namespace ApiAccord.Script

/-- A call, with its place. -/
structure Call where
  function : Expr
  arguments : List Expr
  keywords : List Keyword
  span : Span

inductive Site where
  | call (c : Call)
  /-- A call that is a decorator of a function. -/
  | decorator (c : Call)
  | function (parameters : Parameters)
  | class (name : String) (line : Nat)
  | assign (targets : List Expr) (value : Expr)
  /-- A statement that is an expression. -/
  | expression (value : Expr)

/-- Lists of sites by the depth at which they stand. -/
abbrev Levels := List (List Site)

namespace Levels

/-- Joins the levels of neighbours. -/
def beside : Levels → Levels → Levels
  | [], bs => bs
  | as, [] => as
  | a :: as, b :: bs => (a ++ b) :: beside as bs

/-- The levels of neighbours. -/
def row (ls : List Levels) : Levels := ls.foldr beside []

/-- Marks the call on the first level as a decorator. -/
def asDecorator : Levels → Levels
  | [.call c] :: rest => [.decorator c] :: rest
  | ls => ls

end Levels

open Levels

mutual

def Expr.sites : Expr → Levels
  | .name _ | .constant _ => [[]]
  | .template parts => [] :: Expr.sitesOfAll parts
  | .formatted value _ format => [] :: beside value.sites (Expr.sitesOfOptional format)
  | .tuple items | .list items | .set items => [] :: Expr.sitesOfAll items
  | .dict entries => [] :: beside (Expr.sitesOfKeys entries) (Expr.sitesOfValues entries)
  | .boolean _ operands => [] :: Expr.sitesOfAll operands
  | .named _ value => [] :: value.sites
  | .binary left _ right => [] :: beside left.sites right.sites
  | .unary _ operand => [] :: operand.sites
  | .lambda parameters body => [] :: beside (Expr.sitesOfParameters parameters) body.sites
  | .conditional test whenTrue whenFalse =>
    [] :: beside test.sites (beside whenTrue.sites whenFalse.sites)
  | .comprehension _ element clauses => [] :: beside element.sites (Expr.sitesOfClauses clauses)
  | .dictComprehension key value clauses =>
    [] :: beside key.sites (beside value.sites (Expr.sitesOfClauses clauses))
  | .await value | .yieldFrom value | .attribute value _ | .starred value => [] :: value.sites
  | .yield value => [] :: Expr.sitesOfOptional value
  | .compare left comparisons => [] :: beside left.sites (Expr.sitesOfComparisons comparisons)
  | .call function arguments keywords span =>
    [.call ⟨function, arguments, keywords, span⟩] ::
      beside function.sites (beside (Expr.sitesOfAll arguments) (Expr.sitesOfKeywords keywords))
  | .subscript value index => [] :: beside value.sites index.sites
  | .slice lower upper step =>
    [] :: beside (Expr.sitesOfOptional lower)
      (beside (Expr.sitesOfOptional upper) (Expr.sitesOfOptional step))

def Expr.sitesOfOptional : Option Expr → Levels
  | none => []
  | some e => e.sites

def Expr.sitesOfAll : List Expr → Levels
  | [] => []
  | e :: rest => beside e.sites (Expr.sitesOfAll rest)

def Expr.sitesOfKeys : List Entry → Levels
  | [] => []
  | .mk none _ :: rest => Expr.sitesOfKeys rest
  | .mk (some key) _ :: rest => beside key.sites (Expr.sitesOfKeys rest)

def Expr.sitesOfValues : List Entry → Levels
  | [] => []
  | .mk _ value :: rest => beside value.sites (Expr.sitesOfValues rest)

def Expr.sitesOfComparisons : List Comparison → Levels
  | [] => []
  | .mk _ right :: rest => beside right.sites (Expr.sitesOfComparisons rest)

def Expr.sitesOfClauses : List Clause → Levels
  | [] => []
  | .mk target source conditions _ :: rest =>
    beside ([] :: beside target.sites (beside source.sites (Expr.sitesOfAll conditions)))
      (Expr.sitesOfClauses rest)

def Expr.sitesOfKeywords : List Keyword → Levels
  | [] => []
  | .mk _ value :: rest => beside ([] :: value.sites) (Expr.sitesOfKeywords rest)

/-- The levels of parameters: first those of their types, below the parameters, and beside these
their defaults. -/
def Expr.sitesOfParameters : Parameters → Levels
  | .mk positionalOnly positional rest keywordOnly keywordRest =>
    [] :: row [Expr.sitesOfTypes positionalOnly, Expr.sitesOfTypes positional,
      (match rest with
        | some p => Expr.sitesOfType p
        | none => []),
      Expr.sitesOfTypes keywordOnly, Expr.sitesOfDefaults keywordOnly,
      (match keywordRest with
        | some p => Expr.sitesOfType p
        | none => []),
      Expr.sitesOfDefaults positionalOnly, Expr.sitesOfDefaults positional]

def Expr.sitesOfType : Parameter → Levels
  | .mk _ type _ _ => [] :: Expr.sitesOfOptional type

def Expr.sitesOfTypes : List Parameter → Levels
  | [] => []
  | p :: rest => beside (Expr.sitesOfType p) (Expr.sitesOfTypes rest)

def Expr.sitesOfDefaults : List Parameter → Levels
  | [] => []
  | .mk _ _ default _ :: rest => beside (Expr.sitesOfOptional default) (Expr.sitesOfDefaults rest)

end

mutual

def Stmt.sites : Stmt → Levels
  | .function parameters body decorators returns =>
    [.function parameters] :: row [Expr.sitesOfParameters parameters, Stmt.sitesOfAll body,
      row (decorators.map fun d => d.sites.asDecorator), Expr.sitesOfOptional returns]
  | .class name bases keywords body decorators line =>
    [.class name line] :: row [Expr.sitesOfAll bases, Expr.sitesOfKeywords keywords,
      Stmt.sitesOfAll body, Expr.sitesOfAll decorators]
  | .assign targets value => [.assign targets value] :: beside (Expr.sitesOfAll targets) value.sites
  | .expression value => [.expression value] :: value.sites
  | .other parts => [] :: Part.sitesOfAll parts

def Stmt.sitesOfAll : List Stmt → Levels
  | [] => []
  | s :: rest => beside s.sites (Stmt.sitesOfAll rest)

def Part.sites : Part → Levels
  | .expr e => e.sites
  | .stmt s => s.sites
  | .nested parts => [] :: Part.sitesOfAll parts

def Part.sitesOfAll : List Part → Levels
  | [] => []
  | p :: rest => beside p.sites (Part.sitesOfAll rest)

end

/-- The sites of a program, level by level. -/
def Program.sites (p : List Stmt) : List Site := (Stmt.sitesOfAll p).flatten

end ApiAccord.Script
