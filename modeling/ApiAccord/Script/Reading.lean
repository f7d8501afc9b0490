import ApiAccord.Script.Tree
import ApiAccord.Text.NormalForm

/-!
# Reading sequences of tokens

A `Reader` takes tokens from the front of a list and gives a part of a syntax tree, or nothing if
the tokens do not begin with one.  Of two readers joined by `<|>`, the second is tried from the same
place if the first gives nothing.
-/

namespace ApiAccord.Script

abbrev Reader := StateT (List Token) Option

namespace Reader

/-- The next token, which is left in place. -/
def peek? : Reader (Option Token) := do return (← get).head?

/-- Whether the next token is the given operator or keyword. -/
def peekIs (text : String) : Reader Bool := do return (← get).head?.any (·.is text)

/-- Whether the next token is one of the given operators and keywords. -/
def peekIsOneOf (texts : List String) : Reader Bool := do
  return (← get).head?.any fun t => texts.any t.is

/-- Takes the next token. -/
def take : Reader Token := do
  match ← get with
  | [] => failure
  | t :: rest => set rest; return t

/-- Takes the given operator or keyword if it is next, and tells whether it was. -/
def accept (text : String) : Reader Bool := do
  match ← get with
  | t :: rest => if t.is text then set rest; return true else return false
  | [] => return false

/-- Takes the given operator or keyword, which has to be next. -/
def expect (text : String) : Reader Unit := do
  if !(← accept text) then failure

/-- Takes a token of a kind, which has to be next. -/
def takeKind (kind : TokenKind) : Reader Token := do
  let t ← take
  if t.kind == kind then return t else failure

/-- Takes a token of a kind if one is next, and tells whether it was. -/
def acceptKind (kind : TokenKind) : Reader Bool := do
  match ← get with
  | t :: rest => if t.kind == kind then set rest; return true else return false
  | [] => return false

/-- Takes a name.  Names that look alike are the same name. -/
def identifier : Reader String := do return Text.compatible (← takeKind .name).text

/-- The place of the next token. -/
def place : Reader Place := do
  match ← get with
  | t :: _ => return t.place
  | [] => failure

/-- The items of a list after the first, each after a comma, and whether a last comma follows. -/
def commaTail (item : Reader α) : Nat → Reader (List α × Bool)
  | 0 => failure
  | n + 1 => do
    if ← accept "," then
      (do
        let x ← item
        let (xs, trailing) ← commaTail item n
        return (x :: xs, trailing)) <|> return ([], true)
    else return ([], false)

/-- Items with commas between them, and whether a last comma follows. -/
def commaList (bound : Nat) (item : Reader α) : Reader (List α × Bool) := do
  let x ← item
  let (xs, trailing) ← commaTail item bound
  return (x :: xs, trailing)

/-- Items with a separator between them. -/
def separated (separator : String) (item : Reader α) : Nat → Reader (List α)
  | 0 => failure
  | n + 1 => do
    let x ← item
    if ← accept separator then return x :: (← separated separator item n) else return [x]

/-- Items for as long as the next token begins one. -/
def whileNext (begins : Token → Bool) (item : Reader α) : Nat → Reader (List α)
  | 0 => failure
  | n + 1 => do
    if (← peek?).any begins then return (← item) :: (← whileNext begins item n) else return []

/-- All that a reader gives for a list of tokens, of which none may be left. -/
def run? (p : Reader α) (tokens : List Token) : Option α :=
  match StateT.run p tokens with
  | some (x, []) => some x
  | _ => none

end Reader

/-- The readers of what is nested in a rule of the grammar, and a bound on the length of lists. -/
structure Grammar where
  bound : Nat
  expression : Reader Expr
  /-- Operands down to the operators on bits. -/
  operand : Reader Expr
  /-- Operands down to `or`. -/
  disjunction : Reader Expr
  /-- Targets with commas between them. -/
  targets : Reader Expr

end ApiAccord.Script
