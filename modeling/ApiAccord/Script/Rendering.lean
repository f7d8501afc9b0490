import ApiAccord.Script.Tree
import ApiAccord.Value.Display

/-!
# Expressions as text

`Expr.text?` writes an expression in one standard way, with the brackets that it needs.  There is no
text for a template that cannot be quoted, and none for numbers with too many digits.
-/

namespace ApiAccord.Script

/-! ### Precedence -/

/-- How tightly a form of expression binds.  A form that binds less tightly than its place needs
brackets. -/
abbrev Precedence := Nat

namespace Precedence

def naming : Precedence := 1
def tuple : Precedence := 2
def yield : Precedence := 3
def test : Precedence := 4
def or : Precedence := 5
def and : Precedence := 6
def not : Precedence := 7
def comparison : Precedence := 8
def operand : Precedence := 9
def factor : Precedence := 15
def power : Precedence := 16
def await : Precedence := 17
def atom : Precedence := 18

/-- The next tighter precedence. -/
def next (p : Precedence) : Precedence := min (p + 1) atom

end Precedence

/-- Puts a text in brackets if it stands in a place that binds tighter than `own`. -/
def bracketIf (own place : Precedence) (s : String) : String :=
  if own < place then "(" ++ s ++ ")" else s

namespace BinaryOp

def text : BinaryOp → String
  | add => "+"
  | subtract => "-"
  | multiply => "*"
  | matrixMultiply => "@"
  | divide => "/"
  | modulo => "%"
  | power => "**"
  | leftShift => "<<"
  | rightShift => ">>"
  | bitOr => "|"
  | bitXor => "^"
  | bitAnd => "&"
  | floorDivide => "//"

def precedence : BinaryOp → Precedence
  | bitOr => 9
  | bitXor => 10
  | bitAnd => 11
  | leftShift | rightShift => 12
  | add | subtract => 13
  | multiply | matrixMultiply | divide | modulo | floorDivide => 14
  | power => .power

end BinaryOp

namespace UnaryOp

def text : UnaryOp → String
  | invert => "~"
  | not => "not "
  | plus => "+"
  | minus => "-"

def precedence : UnaryOp → Precedence
  | not => .not
  | _ => .factor

end UnaryOp

namespace BoolOp

def text : BoolOp → String
  | and => "and"
  | or => "or"

def precedence : BoolOp → Precedence
  | and => .and
  | or => .or

end BoolOp

def CompareOp.text : CompareOp → String
  | equal => "=="
  | notEqual => "!="
  | less => "<"
  | lessEqual => "<="
  | greater => ">"
  | greaterEqual => ">="
  | is => "is"
  | isNot => "is not"
  | .in => "in"
  | notIn => "not in"

/-! ### Quoted texts -/

namespace Codes

/-- A code point as it stands between quotation marks. -/
def escape (quote : Char) (n : Nat) : List Char :=
  if n.isValidChar then Text.quoteChar quote (Char.ofNat n) else '\\' :: 'u' :: Text.hexPadded 4 n

/-- A text between quotation marks: single ones, unless it holds single ones and no double ones. -/
def quoted (codes : Codes) : List Char :=
  let quote := if codes.contains '\''.toNat && !codes.contains '"'.toNat then '"' else '\''
  quote :: codes.flatMap (escape quote) ++ [quote]

/-- The code points with backslashes and unprintable ones escaped, and line feeds and tabs as well
if `layout` holds. -/
def escaped (layout : Bool) (codes : Codes) : List Char :=
  codes.flatMap fun n =>
    if !layout && (n == 10 || n == 9) then [Char.ofNat n] else escape '\\' n

end Codes

/-- The marks that a text may be quoted with, the preferred ones first. -/
def allQuotes : List (List Char) :=
  [['\''], ['"'], ['"', '"', '"'], ['\'', '\'', '\'']]

/-- A text to stand between quotation marks with as few escapes as possible, and the marks that it
may stand between. -/
def quoting (quotes : List (List Char)) (layout : Bool) (codes : Codes) :
    List Char × List (List Char) :=
  let text := codes.escaped layout
  let possible := quotes.filter fun q =>
    (q.length == 3 || !text.contains '\n') && !Text.Chars.occursIn q text
  match possible with
  | [] =>
    let text := codes.quoted
    let mark := text.headD '\''
    (text.tail.dropLast, [(quotes.find? (·.contains mark)).getD [mark]])
  | _ =>
    match text.getLast? with
    | none => (text, possible)
    | some last =>
      let (same, other) := possible.partition fun q => q.head? == some last
      if other.isEmpty then (text.dropLast ++ ['\\', last], same) else (text, other ++ same)

/-- A text in quotation marks with as few escapes as possible. -/
def plainlyQuoted (codes : Codes) : String :=
  let (text, quotes) := quoting allQuotes false codes
  let quote := quotes.headD []
  String.ofList (quote ++ text ++ quote)

/-- The parts of a template between quotation marks that suit all of them.  The literal parts are
flagged. -/
def quotedParts (parts : List (Codes × Bool)) : String :=
  match go allQuotes parts with
  | some (text, quotes) =>
    let quote := quotes.headD []
    String.ofList (quote ++ text ++ quote)
  | none =>
    let text := parts.flatMap fun (codes, _) =>
      (Codes.quoted ('"'.toNat :: codes)).drop 2 |>.dropLast
    String.ofList (['\'', '\'', '\''] ++ text ++ ['\'', '\'', '\''])
where
  go (quotes : List (List Char)) :
      List (Codes × Bool) → Option (List Char × List (List Char))
    | [] => some ([], quotes)
    | (codes, literal) :: rest => do
      let (text, possible) := quoting quotes literal codes
      if !possible.any quotes.contains then none
      let (more, quotes) ← go possible rest
      return (text ++ more, quotes)

/-! ### Constants -/

/-- Numbers as they are displayed, but infinity as a number that is too large. -/
def numberLayout : Decimal.Layout := { displayLayout with infinity := "1e309" }

/-- A constant.  If `plain` holds, a text is quoted with as few escapes as possible. -/
def Constant.text? (plain : Bool) : Constant → Option String
  | .none => some "None"
  | .bool b => some (if b then "True" else "False")
  | .ellipsis => some "..."
  | .int n =>
    let s := toString n
    if Text.maxDigits < s.length then Option.none else some s
  | .float x => some (numberLayout.render x)
  | .imaginary x =>
    let s := numberLayout.render x
    let s := if Text.endsWith ".0" s then String.ofList (s.toList.take (s.length - 2)) else s
    some (s ++ "j")
  | .text codes marked =>
    let s := if plain then plainlyQuoted codes else String.ofList codes.quoted
    some (if marked then "u" ++ s else s)
  | .bytes data => some (Text.quotedBytes data)

/-- Whether an attribute of the constant needs a space before its point. -/
def Constant.isInteger : Constant → Bool
  | .int _ | .bool _ => true
  | _ => false

def Expr.isInteger : Expr → Bool
  | .constant c => c.isInteger
  | _ => false

/-! ### Expressions -/

/-- Items with commas between them, and after a single one. -/
def commaItems : List String → String
  | [s] => s ++ ","
  | ss => ", ".intercalate ss

mutual

/-- The text of an expression in a place of some precedence.  If `plain` holds, backslashes are
avoided in texts. -/
def Expr.render : Expr → Bool → Precedence → Option String
  | .name id, _, _ => some id
  | .constant c, plain, _ => c.text? plain
  | .template parts, plain, _ => do
    let parts ← Expr.renderParts parts
    return "f" ++ (if plain then plainlyQuoted (parts.flatMap (·.1)) else quotedParts parts)
  | .formatted .., _, _ => none
  | .tuple items, plain, p => do
    let text := commaItems (← Expr.renderAll items plain .test)
    return if items.isEmpty then "()" else bracketIf .tuple p text
  | .list items, plain, _ => do
    return "[" ++ ", ".intercalate (← Expr.renderAll items plain .test) ++ "]"
  | .set items, plain, _ => do
    return "\x7b" ++ ", ".intercalate (← Expr.renderAll items plain .test) ++ "\x7d"
  | .dict entries, plain, _ => do
    return "\x7b" ++ ", ".intercalate (← Expr.renderEntries entries plain) ++ "\x7d"
  | .boolean op operands, plain, p => do
    let texts ← Expr.renderOperands operands plain op.precedence.next
    return bracketIf op.precedence p ((" " ++ op.text ++ " ").intercalate texts)
  | .named target value, plain, p => do
    return bracketIf .naming p (target ++ " := " ++ (← value.render plain .atom))
  | .binary left op right, plain, p => do
    let (own, tight) := (op.precedence, op.precedence.next)
    let (l, r) := if op == .power then (tight, own) else (own, tight)
    return bracketIf own p
      ((← left.render plain l) ++ " " ++ op.text ++ " " ++ (← right.render plain r))
  | .unary op operand, plain, p => do
    return bracketIf op.precedence p (op.text ++ (← operand.render plain op.precedence))
  | .lambda parameters body, plain, p => do
    let ps ← Expr.renderParameters parameters plain
    let ps := if ps.isEmpty then "" else " " ++ ", ".intercalate ps
    return bracketIf .test p ("lambda" ++ ps ++ ": " ++ (← body.render plain .test))
  | .conditional test whenTrue whenFalse, plain, p => do
    return bracketIf .test p ((← whenTrue.render plain .or) ++ " if " ++
      (← test.render plain .or) ++ " else " ++ (← whenFalse.render plain .test))
  | .comprehension kind element clauses, plain, _ => do
    let text := (← element.render plain .test) ++ String.join (← Expr.renderClauses clauses plain)
    return match kind with
      | .list => "[" ++ text ++ "]"
      | .set => "\x7b" ++ text ++ "\x7d"
      | .generator => "(" ++ text ++ ")"
  | .dictComprehension key value clauses, plain, _ => do
    return "\x7b" ++ (← key.render plain .test) ++ ": " ++ (← value.render plain .test) ++
      String.join (← Expr.renderClauses clauses plain) ++ "\x7d"
  | .await value, plain, p => do
    return bracketIf .await p ("await " ++ (← value.render plain .atom))
  | .yield none, _, p => some (bracketIf .yield p "yield")
  | .yield (some value), plain, p => do
    return bracketIf .yield p ("yield " ++ (← value.render plain .atom))
  | .yieldFrom value, plain, p => do
    return bracketIf .yield p ("yield from " ++ (← value.render plain .atom))
  | .compare left comparisons, plain, p => do
    return bracketIf .comparison p
      ((← left.render plain .operand) ++ String.join (← Expr.renderComparisons comparisons plain))
  | .call function arguments keywords _, plain, _ => do
    let f ← function.render plain .atom
    let args ← Expr.renderAll arguments plain .test
    return f ++ "(" ++ ", ".intercalate (args ++ (← Expr.renderKeywords keywords plain)) ++ ")"
  | .attribute value id, plain, _ => do
    return (← value.render plain .atom) ++ (if value.isInteger then " ." else ".") ++ id
  | .subscript value (.tuple (item :: items)), plain, _ => do
    let first ← item.render plain .test
    let index := commaItems (first :: (← Expr.renderAll items plain .test))
    return (← value.render plain .atom) ++ "[" ++ index ++ "]"
  | .subscript value index, plain, _ => do
    return (← value.render plain .atom) ++ "[" ++ (← index.render plain .test) ++ "]"
  | .starred value, plain, _ => do return "*" ++ (← value.render plain .operand)
  | .slice lower upper step, plain, _ => do
    let lower ← Expr.renderOptional lower plain
    let upper ← Expr.renderOptional upper plain
    let step ← match step with
      | some e => (":" ++ ·) <$> e.render plain .test
      | none => some ""
    return lower ++ ":" ++ upper ++ step

def Expr.renderOptional : Option Expr → Bool → Option String
  | none, _ => some ""
  | some e, plain => e.render plain .test

def Expr.renderAll : List Expr → Bool → Precedence → Option (List String)
  | [], _, _ => some []
  | e :: rest, plain, p => do
    return (← e.render plain p) :: (← Expr.renderAll rest plain p)

/-- The operands of `and` or `or`, each in a tighter place than the one before. -/
def Expr.renderOperands : List Expr → Bool → Precedence → Option (List String)
  | [], _, _ => some []
  | e :: rest, plain, p => do
    return (← e.render plain p) :: (← Expr.renderOperands rest plain p.next)

def Expr.renderEntries : List Entry → Bool → Option (List String)
  | [], _ => some []
  | .mk none value :: rest, plain => do
    return ("**" ++ (← value.render plain .operand)) :: (← Expr.renderEntries rest plain)
  | .mk (some key) value :: rest, plain => do
    return ((← key.render plain .test) ++ ": " ++ (← value.render plain .test)) ::
      (← Expr.renderEntries rest plain)

def Expr.renderComparisons : List Comparison → Bool → Option (List String)
  | [], _ => some []
  | .mk op right :: rest, plain => do
    return (" " ++ op.text ++ " " ++ (← right.render plain .operand)) ::
      (← Expr.renderComparisons rest plain)

def Expr.renderClauses : List Clause → Bool → Option (List String)
  | [], _ => some []
  | .mk target source conditions isAsync :: rest, plain => do
    let head := if isAsync then " async for " else " for "
    let text := head ++ (← target.render plain .tuple) ++ " in " ++ (← source.render plain .or)
    let conditions := (← Expr.renderAll conditions plain .or).map (" if " ++ ·)
    return (text ++ String.join conditions) :: (← Expr.renderClauses rest plain)

def Expr.renderKeywords : List Keyword → Bool → Option (List String)
  | [], _ => some []
  | .mk id value :: rest, plain => do
    let head := match id with
      | some n => n ++ "="
      | none => "**"
    return (head ++ (← value.render plain .test)) :: (← Expr.renderKeywords rest plain)

def Expr.renderParameters : Parameters → Bool → Option (List String)
  | .mk positionalOnly positional rest keywordOnly keywordRest, plain => do
    let only ← Expr.renderParameterList positionalOnly plain
    let positional ← Expr.renderParameterList positional plain
    let star ← match rest with
      | some p => (fun s => ["*" ++ s]) <$> Expr.renderParameter p plain
      | none => some (if keywordOnly.isEmpty then [] else ["*"])
    let named ← Expr.renderParameterList keywordOnly plain
    let last ← match keywordRest with
      | some p => (fun s => ["**" ++ s]) <$> Expr.renderParameter p plain
      | none => some []
    return only ++ (if only.isEmpty then [] else ["/"]) ++ positional ++ star ++ named ++ last

def Expr.renderParameter : Parameter → Bool → Option String
  | .mk id type? default _, plain => do
    let type ← match type? with
      | some e => (": " ++ ·) <$> e.render plain .test
      | none => some ""
    let value ← match default with
      | some e => ("=" ++ ·) <$> e.render plain .test
      | none => some ""
    return id ++ type ++ value

def Expr.renderParameterList : List Parameter → Bool → Option (List String)
  | [], _ => some []
  | p :: rest, plain => do
    return (← Expr.renderParameter p plain) :: (← Expr.renderParameterList rest plain)

/-- The parts of a template, of which the literal ones are flagged. -/
def Expr.renderParts : List Expr → Option (List (Codes × Bool))
  | [] => some []
  | .constant (.text codes _) :: rest => do
    let doubled := codes.flatMap fun n => if n == 0x7b || n == 0x7d then [n, n] else [n]
    return (doubled, true) :: (← Expr.renderParts rest)
  | e :: rest => do
    return (← Expr.renderValue e, false) :: (← Expr.renderParts rest)

/-- A value in a template, in which no backslash may stand. -/
def Expr.renderValue : Expr → Option Codes
  | .formatted value conversion format => do
    let text ← value.render true .or
    if text.toList.contains '\\' then none
    let gap := if text.toList.head? == some '\x7b' then [' '] else []
    let mark := match conversion with
      | some c => ['!', c]
      | none => []
    let tail ← Expr.renderFormat format
    return 0x7b :: Codes.ofChars (gap ++ text.toList ++ mark) ++ tail ++ [0x7d]
  | _ => none

/-- The format of a value in a template. -/
def Expr.renderFormat : Option Expr → Option Codes
  | some (.template parts) => do
    return 0x3a :: (← Expr.renderParts parts).flatMap (·.1)
  | _ => some []

end

/-- The text of an expression. -/
def Expr.text? (e : Expr) : Option String := e.render false .test

end ApiAccord.Script
