import ApiAccord.Script.Expression

/-!
# The grammar of patterns

The patterns of a `match` statement.  Of a pattern only the expressions in it are kept.
-/

namespace ApiAccord.Script

open Reader

/-- A pattern that is an expression. -/
def Part.ofValue (e : Expr) : Part := .nested [.expr e]

/-- A name that a pattern gives to what it matches. -/
def capture : Reader Unit := do
  let t ← takeKind .name
  if t.text == "_" || (← peekIsOneOf [".", "(", "="]) then failure

/-- Whether a number is imaginary. -/
def Expr.isImaginary : Expr → Bool
  | .constant (.imaginary _) => true
  | _ => false

/-- A number with a sign, or the sum of a real and an imaginary number. -/
def numberPattern : Reader Expr := do
  let negative ← accept "-"
  let n ← number
  let real := if negative then Expr.unary .minus n else n
  match ← acceptOp [("+", BinaryOp.add), ("-", .subtract)] with
  | none => return real
  | some op =>
    let imaginary ← number
    if n.isImaginary || !imaginary.isImaginary then failure
    return .binary real op imaginary

/-- A literal. -/
def literalPattern (g : Grammar) : Reader Expr := do
  match ← peek? with
  | none => failure
  | some t =>
    if t.kind == .number || t.is "-" then numberPattern
    else if t.kind == .string then strings g
    else if ← accept "None" then return .constant .none
    else if ← accept "True" then return .constant (.bool true)
    else if ← accept "False" then return .constant (.bool false)
    else failure

/-- Names with points between them after a first name. -/
def dottedTail : Nat → Expr → Reader Expr
  | 0, _ => failure
  | n + 1, e => do
    if ← accept "." then dottedTail n (.attribute e (← identifier)) else return e

/-- Whether a pattern that begins like this is a literal. -/
def beginsLiteral (t : Token) : Bool :=
  t.kind == .number || t.kind == .string || ["-", "None", "True", "False"].any t.is

/-- A pattern, or `*` and a name for the rest. -/
def starPattern (pattern : Reader Part) : Reader Part := do
  if ← accept "*" then
    let t ← takeKind .name
    if t.text != "_" && (← peekIsOneOf [".", "(", "="]) then failure
    return .nested []
  else pattern

/-- The items of a mapping pattern, up to the closing bracket.  What takes the rest stands last. -/
def mappingItems (g : Grammar) (pattern : Reader Part) : Nat → Reader (List Expr × List Part)
  | 0 => failure
  | n + 1 => do
    if ← accept "\x7d" then return ([], [])
    else if ← accept "**" then
      capture
      let _ ← accept ","
      expect "\x7d"
      return ([], [])
    else
      let key ← (do
        if (← peek?).any beginsLiteral then literalPattern g
        else
          let id ← identifier
          match ← dottedTail g.bound (.name id) with
          | .name _ => failure
          | e => return e)
      expect ":"
      let value ← pattern
      if !(← peekIs "\x7d") then expect ","
      let (keys, values) ← mappingItems g pattern n
      return (key :: keys, value :: values)

/-- The arguments of a class pattern, up to the closing bracket.  Those with a name stand last. -/
def classArguments (pattern : Reader Part) (byName : Bool) : Nat → Reader (List Part)
  | 0 => failure
  | n + 1 => do
    if ← accept ")" then return []
    let named ← keywordIsNext
    if named then
      let _ ← take
      let _ ← take
    else if byName then failure
    let p ← pattern
    if !(← peekIs ")") then expect ","
    return p :: (← classArguments pattern named n)

/-- A pattern that needs no operator. -/
def closedPattern (g : Grammar) (pattern : Reader Part) : Reader Part := do
  let t ← (do match ← peek? with | some t => return t | none => failure)
  if beginsLiteral t then return .ofValue (← literalPattern g)
  else if t.kind == .name then
    let id ← identifier
    if t.text == "_" then return .nested []
    let e ← dottedTail g.bound (.name id)
    if ← accept "(" then
      let arguments ← classArguments pattern false g.bound
      return .nested (.expr e :: arguments)
    else if ← peekIs "=" then failure
    else match e with
      | .name _ => return .nested []
      | e => return .ofValue e
  else if ← accept "(" then
    if ← accept ")" then return .nested []
    let sequence ← peekIs "*"
    let first ← starPattern pattern
    let (rest, trailing) ← commaTail (starPattern pattern) g.bound
    expect ")"
    if rest.isEmpty && !trailing then
      if sequence then failure else return first
    else return .nested (first :: rest)
  else if ← accept "[" then
    if ← accept "]" then return .nested []
    let (items, _) ← commaList g.bound (starPattern pattern)
    expect "]"
    return .nested items
  else if ← accept "\x7b" then
    let (keys, values) ← mappingItems g pattern g.bound
    return .nested (keys.map .expr ++ values)
  else failure

/-- Alternatives, which may be given a name. -/
def patternOfDepth (g : Grammar) : Nat → Reader Part
  | 0 => failure
  | n + 1 => do
    let p ← (do
      match ← separated "|" (closedPattern g (patternOfDepth g n)) g.bound with
      | [p] => return p
      | ps => return .nested ps)
    if ← accept "as" then
      capture
      return .nested [p]
    else return p

/-- What a case matches: a pattern, or several with commas between them. -/
def casePattern (g : Grammar) : Reader Part := do
  let pattern := patternOfDepth g g.bound
  let sequence ← peekIs "*"
  let (items, trailing) ← commaList g.bound (starPattern pattern)
  match items, trailing with
  | [p], false => if sequence then failure else return p
  | _, _ => return .nested items

end ApiAccord.Script
