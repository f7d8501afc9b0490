import ApiAccord.Script.MatchPattern

/-!
# The grammar of statements

`Program.ofText?` reads a program.  What a program must not do beyond its grammar, such as return
outside of a function, is not looked at.
-/

namespace ApiAccord.Script

open Reader

/-! ### Simple statements -/

def augmentedOps : List String :=
  ["+=", "-=", "*=", "@=", "/=", "%=", "&=", "|=", "^=", "<<=", ">>=", "**=", "//="]

/-- The targets and the value of an assignment, after its first `=`. -/
def assignmentTail (g : Grammar) : Nat → List Expr → Reader Stmt
  | 0, _ => failure
  | n + 1, targets => do
    let e ← assignedExpression g
    if ← accept "=" then
      if e.isStarTarget then assignmentTail g n (targets ++ [e]) else failure
    else return .assign targets e

/-- An assignment or an expression. -/
def expressionStatement (g : Grammar) : Reader Stmt := do
  let e ← assignedExpression g
  if ← accept "=" then
    if e.isStarTarget then assignmentTail g g.bound [e] else failure
  else if ← accept ":" then
    if !e.isSingleTarget then failure
    let type ← g.expression
    if ← accept "=" then return .ofExprs [e, type, ← assignedExpression g]
    else return .ofExprs [e, type]
  else if ← peekIsOneOf augmentedOps then
    if !e.isSingleTarget then failure
    let _ ← take
    return .ofExprs [e, ← assignedExpression g]
  else return .expression e

/-- Whether a simple statement ends here. -/
def statementEnds : Reader Bool := do
  match ← peek? with
  | none => return true
  | some t => return t.is ";" || t.kind == .lineEnd

def returnStatement (g : Grammar) : Reader Stmt := do
  if ← statementEnds then return .other [] else return .ofExprs [← starExpressions g]

def raiseStatement (g : Grammar) : Reader Stmt := do
  if ← statementEnds then return .other []
  else
    let e ← g.expression
    if ← accept "from" then return .ofExprs [e, ← g.expression] else return .ofExprs [e]

def deleteStatement (g : Grammar) : Reader Stmt := do
  let (targets, _) ← commaList g.bound (primary g)
  if targets.all Expr.isDeletable && (← statementEnds) then return .ofExprs targets else failure

def assertStatement (g : Grammar) : Reader Stmt := do
  let test ← g.expression
  if ← accept "," then return .ofExprs [test, ← g.expression] else return .ofExprs [test]

/-- Names with commas between them. -/
def nameList (g : Grammar) : Reader Stmt := do
  let _ ← separated "," identifier g.bound
  return .other []

/-- A new name for what is imported, if there is one. -/
def importAlias : Reader Unit := do
  if ← accept "as" then
    let _ ← identifier

def dottedName (g : Grammar) : Reader Unit := do
  let _ ← separated "." identifier g.bound

def importStatement (g : Grammar) : Reader Stmt := do
  let _ ← separated "," (do dottedName g; importAlias) g.bound
  return .other []

def fromStatement (g : Grammar) : Reader Stmt := do
  let dots ← whileNext (fun t => t.is "." || t.is "...") take g.bound
  if dots.isEmpty || !(← peekIs "import") then dottedName g
  expect "import"
  let item : Reader Unit := do
    let _ ← identifier
    importAlias
  if ← accept "*" then return .other []
  else if ← accept "(" then
    let _ ← commaList g.bound item
    expect ")"
    return .other []
  else
    let (_, trailing) ← commaList g.bound item
    if trailing then failure else return .other []

def simpleStatement (g : Grammar) : Reader Stmt := do
  if ← accept "pass" then return .other []
  else if ← accept "break" then return .other []
  else if ← accept "continue" then return .other []
  else if ← accept "return" then returnStatement g
  else if ← accept "raise" then raiseStatement g
  else if ← accept "del" then deleteStatement g
  else if ← accept "assert" then assertStatement g
  else if ← accept "global" then nameList g
  else if ← accept "nonlocal" then nameList g
  else if ← accept "import" then importStatement g
  else if ← accept "from" then fromStatement g
  else expressionStatement g

/-- The simple statements of a line. -/
def simpleStatements (g : Grammar) : Nat → Reader (List Stmt)
  | 0 => failure
  | n + 1 => do
    let s ← simpleStatement g
    if ← accept ";" then
      if ← acceptKind .lineEnd then return [s] else return s :: (← simpleStatements g n)
    else
      let _ ← takeKind .lineEnd
      return [s]

/-! ### Compound statements -/

/-- A colon and a block. -/
def suite (block : Reader (List Stmt)) : Reader (List Part) := do
  expect ":"
  return (← block).map .stmt

def elseSuite (block : Reader (List Stmt)) : Reader (List Part) := do
  if ← accept "else" then suite block else return []

/-- The rest of a statement after `if`. -/
def ifStatement (g : Grammar) (block : Reader (List Stmt)) : Nat → Reader Stmt
  | 0 => failure
  | n + 1 => do
    let test ← namedExpression g
    let body ← suite block
    let orElse ← (do
      if ← accept "elif" then return [.stmt (← ifStatement g block n)] else elseSuite block)
    return .other (.expr test :: body ++ orElse)

def whileStatement (g : Grammar) (block : Reader (List Stmt)) : Reader Stmt := do
  let test ← namedExpression g
  let body ← suite block
  return .other (.expr test :: body ++ (← elseSuite block))

def forStatement (g : Grammar) (block : Reader (List Stmt)) : Reader Stmt := do
  let target ← starTargets g
  expect "in"
  let source ← starExpressions g
  let body ← suite block
  return .other (.expr target :: .expr source :: body ++ (← elseSuite block))

/-- What a `with` statement enters, and the target for it. -/
def withItem (g : Grammar) : Reader Part := do
  let e ← g.expression
  if ← accept "as" then return .nested [.expr e, .expr (← starTarget g)]
  else return .nested [.expr e]

/-- The items of a `with` statement and its colon.  Brackets around all items belong to the
statement if the colon follows them. -/
def withItems (g : Grammar) : Reader (List Part) :=
  (do
    expect "("
    let (items, _) ← commaList g.bound (withItem g)
    expect ")"
    if ← peekIs ":" then return items else failure) <|>
  separated "," (withItem g) g.bound

def withStatement (g : Grammar) (block : Reader (List Stmt)) : Reader Stmt := do
  let items ← withItems g
  return .other (items ++ (← suite block))

/-- A handler of exceptions after `except`, of groups of them if `star` holds. -/
def handler (g : Grammar) (block : Reader (List Stmt)) (star : Bool) : Reader Part := do
  expect "except"
  if star then expect "*"
  if !star && (← peekIs ":") then return .nested (← suite block)
  else
    let type ← g.expression
    importAlias
    return .nested (.expr type :: (← suite block))

def tryStatement (g : Grammar) (block : Reader (List Stmt)) : Reader Stmt := do
  let body ← suite block
  let star := match ← get with
    | t :: u :: _ => t.is "except" && u.is "*"
    | _ => false
  let handlers ← whileNext (·.is "except") (handler g block star) g.bound
  let orElse ← (if handlers.isEmpty then pure [] else elseSuite block)
  let ending ← (do if ← accept "finally" then some <$> suite block else return none)
  if handlers.isEmpty && ending.isNone then failure
  return .other (body ++ handlers ++ orElse ++ ending.getD [])

/-- The rest of a class after `class`, which stands on a line. -/
def classStatement (g : Grammar) (block : Reader (List Stmt)) (decorators : List Expr)
    (line : Nat) : Reader Stmt := do
  let name ← identifier
  let (bases, keywords) ← (do
    if ← accept "(" then
      let found ← arguments g false g.bound .byPlace
      expect ")"
      return found
    else return ([], []))
  expect ":"
  return .class name bases keywords (← block) decorators line

/-- The rest of a function after `def`. -/
def functionStatement (g : Grammar) (block : Reader (List Stmt)) (decorators : List Expr) :
    Reader Stmt := do
  let _ ← identifier
  expect "("
  let ps ← parameters g true ")" g.bound ⟨false, false, false⟩ .empty
  expect ")"
  let returns ← (do if ← accept "->" then some <$> g.expression else return none)
  expect ":"
  return .function ps (← block) decorators returns

/-- The expressions after `@`, each on a line of its own. -/
def decorators (g : Grammar) : Reader (List Expr) :=
  whileNext (·.is "@") (do
    expect "@"
    let e ← namedExpression g
    let _ ← takeKind .lineEnd
    return e) g.bound

/-- A function or a class, with its decorators. -/
def declaration (g : Grammar) (block : Reader (List Stmt)) (decorators : List Expr) :
    Reader Stmt := do
  let line := (← place).line
  if ← accept "class" then classStatement g block decorators line
  else
    let _ ← accept "async"
    expect "def"
    functionStatement g block decorators

/-- Takes a name that is a keyword in its place alone. -/
def softKeyword (text : String) : Reader Unit := do
  let t ← takeKind .name
  if t.text != text then failure

/-- The beginning of a `match` statement, up to its first case. -/
def matchHead (g : Grammar) : Reader Expr := do
  softKeyword "match"
  let subject ← (do
    let sequence ← peekIs "*"
    let (items, trailing) ← commaList g.bound (starNamedExpression g)
    if sequence && items.length == 1 && !trailing then failure
    return tupleUnlessOne (items, trailing))
  expect ":"
  let _ ← takeKind .lineEnd
  let _ ← takeKind .indent
  return subject

def matchCase (g : Grammar) (block : Reader (List Stmt)) : Reader Part := do
  softKeyword "case"
  let pattern ← casePattern g
  let condition ← (do if ← accept "if" then some <$> namedExpression g else return none)
  let body ← suite block
  return .nested (pattern :: condition.toList.map .expr ++ body)

/-- The cases of a `match` statement, up to the end of its block. -/
def matchCases (g : Grammar) (block : Reader (List Stmt)) : Nat → Reader (List Part)
  | 0 => failure
  | n + 1 => do
    let c ← matchCase g block
    if ← acceptKind .dedent then return [c] else return c :: (← matchCases g block n)

/-- Statements: one that is compound, or the simple ones of a line. -/
def statements (g : Grammar) (block : Reader (List Stmt)) : Reader (List Stmt) := do
  if ← peekIs "@" then return [← declaration g block (← decorators g)]
  else if ← peekIsOneOf ["def", "class"] then return [← declaration g block []]
  else if ← accept "if" then return [← ifStatement g block g.bound]
  else if ← accept "while" then return [← whileStatement g block]
  else if ← accept "for" then return [← forStatement g block]
  else if ← accept "with" then return [← withStatement g block]
  else if ← accept "try" then return [← tryStatement g block]
  else if ← accept "async" then
    if ← accept "def" then return [← functionStatement g block []]
    else if ← accept "for" then return [← forStatement g block]
    else if ← accept "with" then return [← withStatement g block]
    else failure
  else
    match ← optional (matchHead g) with
    | some subject =>
      let cases ← matchCases g block g.bound
      return [.other (.expr subject :: cases)]
    | none => simpleStatements g g.bound

/-- The statements up to the end of a block. -/
def blockTail (statements : Reader (List Stmt)) : Nat → Reader (List Stmt)
  | 0 => failure
  | n + 1 => do
    let ss ← statements
    if ← acceptKind .dedent then return ss else return ss ++ (← blockTail statements n)

/-- A block: indented lines, or the simple statements on the line of the colon.  Blocks may be
nested `depth` deep. -/
def block (g : Grammar) : Nat → Reader (List Stmt)
  | 0 => failure
  | depth + 1 => do
    if ← acceptKind .lineEnd then
      let _ ← takeKind .indent
      blockTail (statements g (block g depth)) g.bound
    else simpleStatements g g.bound

/-- The statements of a program. -/
abbrev Program := List Stmt

namespace Program

/-- Reads statements to the end. -/
def statementsToEnd (g : Grammar) : Nat → Reader Program
  | 0 => failure
  | n + 1 => do
    if (← get).isEmpty then return []
    else return (← statements g (block g (maxBlocks + 1))) ++ (← statementsToEnd g n)

/-- Reads a program. -/
def ofText? (text : List Char) : Option Program := do
  let tokens ← Tokens.ofText? text
  let bound := text.length + 2
  (statementsToEnd (Grammar.ofDepth bound bound) bound).run? tokens

end Program

end ApiAccord.Script
