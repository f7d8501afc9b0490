import ApiAccord.Script.Lexing
import ApiAccord.Script.Reading

/-!
# String literals with values in them

In a template, an expression in braces stands for its value, with a conversion after `!` and a
format after `:`; the format is a template itself.  Braces that are doubled stand for themselves.
-/

namespace ApiAccord.Script

/-! ### Cutting up the text -/

/-- The length of the literal text before an expression or the end, and whether the text ends with
the first of two braces that stand for one.  A format ends at any brace; elsewhere a closing brace
has to be doubled. -/
def literalLength? (raw nested inName : Bool) : List Char → Option (Nat × Bool)
  | [] => some (0, false)
  | c :: rest =>
    let go (n : Nat) (r : Option (Nat × Bool)) := r.map fun (m, doubled) => (n + m, doubled)
    if inName then go 1 (literalLength? raw nested (c != '\x7d') rest)
    else if c == '\x7b' || c == '\x7d' then
      if nested then some (0, false)
      else if rest.head? == some c then some (1, true)
      else if c == '\x7d' then none
      else some (0, false)
    else if !raw && c == '\\' then
      match rest with
      | [] => some (1, false)
      | d :: more =>
        if d == '\x7b' || d == '\x7d' then go 1 (literalLength? raw nested false (d :: more))
        else go 2 (literalLength? raw nested (d == 'N' && more.head? == some '\x7b') more)
    else go 1 (literalLength? raw nested false rest)

/-- The length of an expression in braces, up to the character that ends it: a closing brace, or
what introduces a conversion, a format, or the display of the expression.  `skip` characters have
been seen, `quote` is the mark of an open string and whether it is tripled, and `brackets` are open.
-/
def valueLength? (skip : Nat) (quote : Option (Char × Bool)) (brackets : Brackets) :
    List Char → Option Nat
  | [] => none
  | c :: rest =>
    let go (skip : Nat) (quote : Option (Char × Bool)) (brackets : Brackets) :=
      (valueLength? skip quote brackets rest).map (· + 1)
    match skip with
    | skip + 1 => go skip quote brackets
    | 0 =>
      if c == '\\' then none
      else match quote with
      | some (mark, long) =>
        if c != mark then go 0 quote brackets
        else if !long then go 0 none brackets
        else if rest.take 2 == [c, c] then go 2 none brackets
        else go 0 quote brackets
      | none =>
        if c == '\'' || c == '"' then
          if rest.take 2 == [c, c] then go 2 (some (c, true)) brackets
          else go 0 (some (c, false)) brackets
        else if c == '#' then none
        else if brackets.isEmpty && ['!', ':', '\x7d', '=', '<', '>'].contains c then
          if rest.head? == some '=' && ['!', '=', '<', '>'].contains c then go 1 none brackets
          else if c == '<' || c == '>' then go 0 none brackets
          else some 0
        else match brackets.after? (String.singleton c) with
          | some brackets => go 0 none brackets
          | none => none

/-! ### Pieces -/

/-- A piece of a template. -/
inductive Piece where
  | literal (codes : Codes)
  | value (e : Expr)

/-- Joins neighbouring literals, and drops those that are empty. -/
def Piece.join : List Piece → List Expr
  | [] => []
  | ps => go [] ps
where
  flush (codes : Codes) (es : List Expr) : List Expr :=
    if codes.isEmpty then es else .constant (.text codes false) :: es
  go (codes : Codes) : List Piece → List Expr
    | [] => flush codes []
    | .literal more :: rest => go (codes ++ more) rest
    | .value e :: rest => flush codes (e :: go [] rest)

/-- An expression in braces, without its format. -/
structure ValueHead where
  value : Expr
  /-- The text of the expression, if it is to be displayed. -/
  shown : Option Codes
  conversion : Option Char
  after : Cursor

/-- Reads the expression in braces at the cursor, up to its format or the closing brace. -/
def valueHead? (g : Grammar) (c : Cursor) : Option ValueHead := do
  let start := c.skip 1
  let n ← valueLength? 0 none [] start.rest
  let text := start.rest.take n
  if text.all fun ch => isInlineBlank ch || ch == '\n' then none
  let tokens ← Tokens.ofBracketed? text start.place
  let value ← g.expression.run? tokens
  let c := start.skip n
  let (shown, c) :=
    if c.rest.head? == some '=' then
      let blanks := (c.rest.drop 1).takeWhile fun ch =>
        isInlineBlank ch || ch == '\n' || ch == '\x0b'
      let size := n + 1 + blanks.length
      (some (Codes.ofChars (start.rest.take size)), start.skip size)
    else (none, c)
  match c.rest with
  | '!' :: mark :: stop :: _ =>
    if ['s', 'r', 'a'].contains mark && (stop == '\x7d' || stop == ':') then
      return ⟨value, shown, some mark, c.skip 2⟩
    else none
  | '!' :: _ => none
  | _ => return ⟨value, shown, none, c⟩

/-- Reads a template up to its end, or up to the brace that ends a format.  Only one format may
stand inside another. -/
def pieces? (g : Grammar) (raw : Bool) : Nat → Nat → Cursor → Option (List Piece × Cursor)
  | 0, _, _ => none
  | fuel + 1, level, c => do
    let (n, doubled) ← literalLength? raw (level != 0) false c.rest
    let codes ← codes? raw (c.rest.take n)
    let after := c.skip n
    if doubled then
      let (pieces, stop) ← pieces? g raw fuel level (after.skip 1)
      return (.literal codes :: pieces, stop)
    else if after.rest.isEmpty || after.rest.head? == some '\x7d' then
      return ([.literal codes], after)
    else if 2 ≤ level then none
    else
      let head ← valueHead? g after
      let (format, close) ←
        if head.after.rest.head? == some ':' then do
          let (pieces, close) ← pieces? g raw fuel (level + 1) (head.after.skip 1)
          pure (some (Expr.template (Piece.join pieces)), close)
        else pure (none, head.after)
      if close.rest.head? != some '\x7d' then none
      let conversion :=
        if head.shown.isSome && format.isNone then head.conversion.or (some 'r')
        else head.conversion
      let (pieces, stop) ← pieces? g raw fuel level (close.skip 1)
      return (.literal codes :: .literal (head.shown.getD []) ::
        .value (.formatted head.value conversion format) :: pieces, stop)

/-! ### Literals -/

/-- The pieces of a literal that is not of bytes. -/
def literalPieces? (g : Grammar) (t : Token) (s : StringLiteral) : Option (List Piece) :=
  if s.isTemplate then
    let start : Cursor := ⟨s.body, ⟨t.place.line, t.place.column + s.mark.length + s.quotes⟩⟩
    (pieces? g s.isRaw (s.body.length + 1) 0 start).map (·.1)
  else (codes? s.isRaw s.body).map fun codes => [.literal codes]

/-- The value of literals that stand side by side: all of bytes, or none. -/
def literals? (g : Grammar) (tokens : List Token) : Option Expr := do
  let literals := tokens.map fun t => (t, StringLiteral.ofText t.text)
  if literals.all fun (_, s) => s.isBytes then
    let data ← literals.mapM fun (_, s) => bytes? s
    return .constant (.bytes data.flatten)
  else if literals.any fun (_, s) => s.isBytes then none
  else
    let pieces ← literals.mapM fun (t, s) => literalPieces? g t s
    if literals.any fun (_, s) => s.isTemplate then return .template (Piece.join pieces.flatten)
    else
      let codes := pieces.flatten.flatMap fun
        | .literal codes => codes
        | .value _ => []
      return .constant (.text codes (literals.head?.any fun (_, s) => s.marked))

end ApiAccord.Script
