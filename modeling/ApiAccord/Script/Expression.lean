import ApiAccord.Script.Template

/-!
# The grammar of expressions

Readers for the forms of expressions, from what binds tightest to what binds loosest.  What is
nested in an expression is read by the readers of a `Grammar`; `Grammar.ofDepth` ties the knot.
-/

namespace ApiAccord.Script

open Reader

/-! ### Operators -/

/-- The operators that join two operands, the loosest first; operators on one level are read from
left to right. -/
def binaryLevels : List (List (String × BinaryOp)) :=
  [[("|", .bitOr)], [("^", .bitXor)], [("&", .bitAnd)], [("<<", .leftShift), (">>", .rightShift)],
    [("+", .add), ("-", .subtract)],
    [("*", .multiply), ("/", .divide), ("//", .floorDivide), ("%", .modulo),
      ("@", .matrixMultiply)]]

def unaryOps : List (String × UnaryOp) := [("+", .plus), ("-", .minus), ("~", .invert)]

/-- Takes an operator of a list if one is next. -/
def acceptOp (ops : List (String × α)) : Reader (Option α) := do
  match ← get with
  | t :: rest =>
    match ops.find? fun (text, _) => t.is text with
    | some (_, op) => set rest; return some op
    | none => return none
  | [] => return none

/-- The operands after the first of operators on one level. -/
def binaryTail (ops : List (String × BinaryOp)) (operand : Reader Expr) : Nat → Expr → Reader Expr
  | 0, _ => failure
  | n + 1, left => do
    match ← acceptOp ops with
    | none => return left
    | some op => binaryTail ops operand n (.binary left op (← operand))

/-- Operands joined by the operators of some levels. -/
def binary (bound : Nat) (operand : Reader Expr) : List (List (String × BinaryOp)) → Reader Expr
  | [] => operand
  | ops :: tighter => do
    let operand := binary bound operand tighter
    binaryTail ops operand bound (← operand)

/-- Operands of a word, of which there may be one. -/
def booleanChain (g : Grammar) (word : String) (op : BoolOp) (operand : Reader Expr) :
    Reader Expr := do
  match ← separated word operand g.bound with
  | [e] => return e
  | es => return .boolean op es

/-- Takes an operator of comparison if one is next. -/
def compareOp? : Reader (Option CompareOp) := do
  match ← acceptOp [("==", CompareOp.equal), ("!=", .notEqual), ("<=", .lessEqual), ("<", .less),
      (">=", .greaterEqual), (">", .greater), ("in", .in)] with
  | some op => return some op
  | none =>
    if ← accept "is" then
      if ← accept "not" then return some .isNot else return some .is
    else if ← peekIs "not" then
      optional do expect "not"; expect "in"; return .notIn
    else return none

def comparisons (operand : Reader Expr) : Nat → Reader (List Comparison)
  | 0 => failure
  | n + 1 => do
    match ← compareOp? with
    | none => return []
    | some op =>
      let right ← operand
      return .mk op right :: (← comparisons operand n)

/-! ### Names and targets -/

mutual

/-- Whether a value can be assigned to the expression. -/
def Expr.isTarget : Expr → Bool
  | .name _ | .attribute .. | .subscript .. => true
  | .tuple items | .list items => Expr.areTargets items
  | _ => false

/-- Whether values can be assigned to the items, of which some may take the rest. -/
def Expr.areTargets : List Expr → Bool
  | [] => true
  | .starred e :: rest => e.isTarget && Expr.areTargets rest
  | e :: rest => e.isTarget && Expr.areTargets rest

end

/-- Whether a value can be assigned to the expression, or the rest of values to a starred one. -/
def Expr.isStarTarget : Expr → Bool
  | .starred e => e.isTarget
  | e => e.isTarget

/-- Whether the expression is a target by itself, not for several values. -/
def Expr.isSingleTarget : Expr → Bool
  | .name _ | .attribute .. | .subscript .. => true
  | _ => false

mutual

/-- Whether the expression names something that can be deleted. -/
def Expr.isDeletable : Expr → Bool
  | .name _ | .attribute .. | .subscript .. => true
  | .tuple items | .list items => Expr.areDeletable items
  | _ => false

def Expr.areDeletable : List Expr → Bool
  | [] => true
  | e :: rest => e.isDeletable && Expr.areDeletable rest

end

/-! ### Lists of expressions -/

/-- One expression, or a tuple if there are several or a last comma. -/
def tupleUnlessOne : List Expr × Bool → Expr
  | ([e], false) => e
  | (es, _) => .tuple es

/-- Whether a name and `:=` are next. -/
def namingIsNext : Reader Bool := do
  match ← get with
  | t :: u :: _ => return t.kind == .name && u.is ":="
  | _ => return false

/-- The expression after a name and `:=`, or an expression that no `:=` follows. -/
def namedExpression (g : Grammar) : Reader Expr := do
  if ← namingIsNext then
    let id ← identifier
    expect ":="
    return .named id (← g.expression)
  else
    let e ← g.expression
    if ← peekIs ":=" then failure else return e

/-! ### Displays -/

/-- An expression, or `*` and an operand. -/
def starExpression (g : Grammar) : Reader Expr := do
  if ← accept "*" then return .starred (← g.operand) else g.expression

/-- Expressions with commas between them. -/
def starExpressions (g : Grammar) : Reader Expr := do
  return tupleUnlessOne (← commaList g.bound (starExpression g))

/-- An expression that may name its value, or `*` and an operand. -/
def starNamedExpression (g : Grammar) : Reader Expr := do
  if ← accept "*" then return .starred (← g.operand) else namedExpression g

def yieldExpression (g : Grammar) : Reader Expr := do
  expect "yield"
  if ← accept "from" then return .yieldFrom (← g.expression)
  else return .yield (← optional (starExpressions g))

/-- What may stand on the right of an assignment. -/
def assignedExpression (g : Grammar) : Reader Expr := do
  if ← peekIs "yield" then yieldExpression g else starExpressions g

/-- Whether a clause of a comprehension begins here. -/
def clauseBegins (t : Token) : Bool := t.is "for" || t.is "async"

def clause (g : Grammar) : Reader Clause := do
  let isAsync ← accept "async"
  expect "for"
  let target ← g.targets
  expect "in"
  let source ← g.disjunction
  let conditions ← whileNext (·.is "if") (do expect "if"; g.disjunction) g.bound
  return .mk target source conditions isAsync

/-- The clauses of a comprehension, of which there is at least one. -/
def clauses (g : Grammar) : Reader (List Clause) := do
  let first ← clause g
  return first :: (← whileNext clauseBegins (clause g) g.bound)

/-- Whether a clause of a comprehension is next. -/
def clauseIsNext : Reader Bool := peekIsOneOf ["for", "async"]

/-- What stands in round brackets: a tuple, a generator, or an expression. -/
def parenthesized (g : Grammar) : Reader Expr := do
  expect "("
  if ← accept ")" then return .tuple []
  if ← peekIs "yield" then
    let e ← yieldExpression g
    expect ")"
    return e
  let first ← starNamedExpression g
  if let .starred _ := first then
    if !(← peekIs ",") then failure
  if ← clauseIsNext then
    let cs ← clauses g
    expect ")"
    return .comprehension .generator first cs
  let (rest, trailing) ← commaTail (starNamedExpression g) g.bound
  expect ")"
  return tupleUnlessOne (first :: rest, trailing)

/-- What stands in square brackets: a list, or a comprehension. -/
def listDisplay (g : Grammar) : Reader Expr := do
  expect "["
  if ← accept "]" then return .list []
  let first ← starNamedExpression g
  if ← clauseIsNext then
    if let .starred _ := first then failure
    let cs ← clauses g
    expect "]"
    return .comprehension .list first cs
  let (rest, _) ← commaTail (starNamedExpression g) g.bound
  expect "]"
  return .list (first :: rest)

/-- An entry of a dictionary. -/
def entry (g : Grammar) : Reader Entry := do
  if ← accept "**" then return .mk none (← g.operand)
  else
    let key ← g.expression
    expect ":"
    return .mk (some key) (← g.expression)

/-- What follows the first entry of a dictionary: more entries, or the clauses of a comprehension.
-/
def dictTail (g : Grammar) (first : Entry) : Reader Expr := do
  if let .mk (some key) value := first then
    if ← clauseIsNext then
      let cs ← clauses g
      expect "\x7d"
      return .dictComprehension key value cs
  let (rest, _) ← commaTail (entry g) g.bound
  expect "\x7d"
  return .dict (first :: rest)

/-- What follows the first item of a set: more items, or the clauses of a comprehension. -/
def setTail (g : Grammar) (first : Expr) : Reader Expr := do
  if ← clauseIsNext then
    if let .starred _ := first then failure
    let cs ← clauses g
    expect "\x7d"
    return .comprehension .set first cs
  let (rest, _) ← commaTail (starNamedExpression g) g.bound
  expect "\x7d"
  return .set (first :: rest)

/-- What stands in curly brackets: a dictionary, a set, or a comprehension that builds one. -/
def braceDisplay (g : Grammar) : Reader Expr := do
  expect "\x7b"
  if ← accept "\x7d" then return .dict []
  else if ← peekIs "**" then dictTail g (← entry g)
  else
    let isKey := !(← namingIsNext) && !(← peekIs "*")
    let first ← starNamedExpression g
    if !isKey then setTail g first
    else if ← accept ":" then dictTail g (.mk (some first) (← g.expression))
    else setTail g first

/-- String literals that stand side by side. -/
def strings (g : Grammar) : Reader Expr := do
  let tokens ← whileNext (·.kind == .string) take g.bound
  match literals? g tokens with
  | some e => return e
  | none => failure

def number : Reader Expr := do
  match Constant.ofNumber? (← takeKind .number).text with
  | some c => return .constant c
  | none => failure

/-- What needs no operator. -/
def atom (g : Grammar) : Reader Expr := do
  let t ← (do match ← peek? with | some t => return t | none => failure)
  match t.kind with
  | .name => return .name (← identifier)
  | .number => number
  | .string => strings g
  | _ =>
    if ← accept "True" then return .constant (.bool true)
    else if ← accept "False" then return .constant (.bool false)
    else if ← accept "None" then return .constant .none
    else if ← accept "..." then return .constant .ellipsis
    else if t.is "(" then parenthesized g
    else if t.is "[" then listDisplay g
    else if t.is "\x7b" then braceDisplay g
    else failure

/-! ### Calls and subscripts -/

/-- What has been seen of the arguments of a call, which limits what may follow. -/
inductive ArgumentPhase where
  /-- Arguments by place. -/
  | byPlace
  /-- Arguments by name, after which only `*` gives arguments by place. -/
  | byName
  /-- The entries of a dictionary, after which no argument is passed by place. -/
  | entries
deriving DecidableEq, Repr

/-- Whether a name and `=` are next. -/
def keywordIsNext : Reader Bool := do
  match ← get with
  | t :: u :: _ => return t.kind == .name && u.is "="
  | _ => return false

/-- The arguments of a call, up to the closing bracket.  `sole` says that none has been read, and
that one of them alone may be a generator without brackets of its own. -/
def arguments (g : Grammar) (sole : Bool) : Nat → ArgumentPhase → Reader (List Expr × List Keyword)
  | 0, _ => failure
  | n + 1, phase => do
    if ← peekIs ")" then return ([], [])
    let rest (phase : ArgumentPhase) : Reader (List Expr × List Keyword) := do
      if ← accept "," then arguments g false n phase
      else if ← peekIs ")" then return ([], [])
      else failure
    if ← accept "**" then
      let value ← g.expression
      let (args, keywords) ← rest .entries
      return (args, .mk none value :: keywords)
    else if ← accept "*" then
      if phase == .entries then failure
      let value ← g.expression
      let (args, keywords) ← rest phase
      return (.starred value :: args, keywords)
    else if ← keywordIsNext then
      let id ← identifier
      expect "="
      let value ← g.expression
      let (args, keywords) ← rest (if phase == .entries then .entries else .byName)
      return (args, .mk (some id) value :: keywords)
    else
      if phase != .byPlace then failure
      let value ← namedExpression g
      if sole && (← clauseIsNext) then
        let cs ← clauses g
        if ← peekIs ")" then return ([.comprehension .generator value cs], []) else failure
      else
        let (args, keywords) ← rest phase
        return (value :: args, keywords)

/-- An index, or a range of indices. -/
def sliceItem (g : Grammar) : Reader Expr := do
  let bound : Reader (Option Expr) := do
    if ← peekIsOneOf [":", ",", "]"] then return none else some <$> g.expression
  let range (lower : Option Expr) : Reader Expr := do
    let upper ← bound
    let step ← (if ← accept ":" then bound else pure none)
    return .slice lower upper step
  if ← accept ":" then range none
  else if ← namingIsNext then namedExpression g
  else
    let e ← namedExpression g
    if ← accept ":" then range (some e) else return e

/-- What stands in the brackets of a subscript. -/
def sliceItems (g : Grammar) : Reader Expr := do
  let item : Reader Expr := do
    if ← accept "*" then return .starred (← g.expression) else sliceItem g
  match ← commaList g.bound item with
  | ([.starred e], false) => return .tuple [.starred e]
  | items => return tupleUnlessOne items

/-- What follows an atom: attributes, calls and subscripts. -/
def primaryTail (g : Grammar) (start : Place) : Nat → Expr → Reader Expr
  | 0, _ => failure
  | n + 1, e => do
    if ← accept "." then primaryTail g start n (.attribute e (← identifier))
    else if ← accept "(" then
      let (args, keywords) ← arguments g true g.bound .byPlace
      let close ← take
      if !close.is ")" then failure
      primaryTail g start n (.call e args keywords ⟨start, close.stop⟩)
    else if ← accept "[" then
      let index ← sliceItems g
      expect "]"
      primaryTail g start n (.subscript e index)
    else return e

/-- An atom with what follows it. -/
def primary (g : Grammar) : Reader Expr := do
  let start ← place
  primaryTail g start g.bound (← atom g)

/-- Signs before a power, the exponent of which may have signs as well. -/
def factor (g : Grammar) : Nat → Reader Expr
  | 0 => failure
  | n + 1 => do
    match ← acceptOp unaryOps with
    | some op => return .unary op (← factor g n)
    | none =>
      let base ← (do if ← accept "await" then return .await (← primary g) else primary g)
      if ← accept "**" then return .binary base .power (← factor g n) else return base

/-- A target, or `*` and a target. -/
def starTarget (g : Grammar) : Reader Expr := do
  let e ← (do if ← accept "*" then return .starred (← primary g) else primary g)
  if e.isStarTarget then return e else failure

def starTargets (g : Grammar) : Reader Expr := do
  return tupleUnlessOne (← commaList g.bound (starTarget g))

/-- Negations of a comparison. -/
def inversion (g : Grammar) (operand : Reader Expr) : Nat → Reader Expr
  | 0 => failure
  | n + 1 => do
    if ← accept "not" then return .unary .not (← inversion g operand n)
    else
      let left ← operand
      match ← comparisons operand g.bound with
      | [] => return left
      | cs => return .compare left cs

/-- Operands joined by operators down to those on bits. -/
def operand (g : Grammar) : Reader Expr := binary g.bound (factor g g.bound) binaryLevels

/-- Operands joined by operators down to `or`. -/
def disjunction (g : Grammar) : Reader Expr :=
  booleanChain g "or" .or (booleanChain g "and" .and (inversion g (operand g) g.bound))

/-! ### Parameters -/

/-- What kind of parameters a list of parameters has come to. -/
structure ParameterState where
  /-- Whether a default has been given, so that all that follow need one. -/
  defaulted : Bool
  /-- Whether the parameters are passed by name only. -/
  byName : Bool
  /-- Whether there was a mark after those that are passed by place only. -/
  slashed : Bool

/-- The parameters of a function up to the operator `close`; `annotated` if they may have types. -/
def parameters (g : Grammar) (annotated : Bool) (close : String) :
    Nat → ParameterState → Parameters → Reader Parameters
  | 0, _, _ => failure
  | n + 1, state, .mk only positional rest named namedRest => do
    if ← peekIs close then return .mk only positional rest named namedRest
    let next (state : ParameterState) (ps : Parameters) : Reader Parameters := do
      if ← accept "," then parameters g annotated close n state ps
      else if ← peekIs close then return ps
      else failure
    let annotation (star : Bool) : Reader (Option Expr) := do
      if annotated then
        if ← accept ":" then
          if !star then return some (← g.expression)
          else if ← accept "*" then return some (.starred (← g.operand))
          else return some (← g.expression)
        else return none
      else return none
    let default : Reader (Option Expr) := do
      if ← accept "=" then return some (← g.expression) else return none
    let named? (star : Bool) (mayDefault : Bool) : Reader Parameter := do
      let line := (← place).line
      let id ← identifier
      let type ← annotation star
      let value ← (if mayDefault then default else pure none)
      return .mk id type value line
    if ← accept "**" then
      let p ← named? false false
      let _ ← accept ","
      if !(← peekIs close) then failure
      return .mk only positional rest named (some p)
    else if ← accept "*" then
      if state.byName then failure
      if ← accept "," then
        if ← peekIsOneOf ["**", close] then failure
        parameters g annotated close n { state with byName := true }
          (.mk only positional rest named namedRest)
      else
        let p ← named? true false
        next { state with byName := true } (.mk only positional (some p) named namedRest)
    else if ← accept "/" then
      if state.byName || state.slashed || positional.isEmpty then failure
      next { state with slashed := true } (.mk positional [] rest named namedRest)
    else
      let p ← named? false true
      if state.byName then next state (.mk only positional rest (named ++ [p]) namedRest)
      else if state.defaulted && p.default.isNone then failure
      else
        next { state with defaulted := p.default.isSome }
          (.mk only (positional ++ [p]) rest named namedRest)

/-! ### Expressions -/

def lambdaExpression (g : Grammar) : Reader Expr := do
  expect "lambda"
  let ps ← parameters g false ":" g.bound ⟨false, false, false⟩ .empty
  expect ":"
  return .lambda ps (← g.expression)

/-- An expression, which may depend on a condition. -/
def expression (g : Grammar) : Reader Expr := do
  if ← peekIs "lambda" then lambdaExpression g
  else
    let e ← disjunction g
    if ← accept "if" then
      let test ← disjunction g
      expect "else"
      return .conditional test e (← g.expression)
    else return e

/-- The grammar of what is nested at most `depth` deep, in a text of at most `bound` tokens. -/
def Grammar.ofDepth (bound : Nat) : Nat → Grammar
  | 0 => ⟨bound, failure, failure, failure, failure⟩
  | depth + 1 =>
    let g : Grammar :=
      { bound
        expression := fun s => (ofDepth bound depth).expression s
        operand := fun s => (ofDepth bound depth).operand s
        disjunction := fun s => (ofDepth bound depth).disjunction s
        targets := fun s => (ofDepth bound depth).targets s }
    ⟨bound, Script.expression g, Script.operand g, Script.disjunction g, starTargets g⟩

end ApiAccord.Script
