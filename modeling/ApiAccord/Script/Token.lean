import ApiAccord.Text.Chars

/-!
# Tokens of Python programs

The words of a program, as `Tokens.ofText?` in `Script.Lexing` finds them: names, literals,
operators, and the marks that lines and blocks of lines leave behind.
-/

namespace ApiAccord.Script

/-- A place in source text: its line, counted from one, and the bytes before it on its line. -/
structure Place where
  line : Nat
  column : Nat
deriving DecidableEq, Repr

/-- The part of a text from one place up to another. -/
structure Span where
  start : Place
  stop : Place
deriving DecidableEq, Repr

namespace Place

/-- The place after a character. -/
def after (p : Place) (c : Char) : Place :=
  if c == '\n' then ⟨p.line + 1, 0⟩ else ⟨p.line, p.column + c.utf8Size⟩

/-- The place after a text. -/
def afterAll (p : Place) (cs : List Char) : Place := cs.foldl after p

/-- Whether a place comes before another. -/
def before (p q : Place) : Bool :=
  p.line < q.line || (p.line == q.line && p.column < q.column)

end Place

inductive TokenKind where
  | name
  | keyword
  | number
  | string
  | operator
  /-- The end of a logical line. -/
  | lineEnd
  /-- The beginning of a block. -/
  | indent
  /-- The end of a block. -/
  | dedent
deriving DecidableEq, Repr

/-- A token with its text and the place where it begins. -/
structure Token where
  kind : TokenKind
  text : String
  place : Place
deriving DecidableEq, Repr

namespace Token

/-- Whether the token is the given operator or keyword. -/
def is (t : Token) (text : String) : Bool :=
  (t.kind == .operator || t.kind == .keyword) && t.text == text

/-- The place after a token on one line. -/
def stop (t : Token) : Place := ⟨t.place.line, t.place.column + t.text.utf8ByteSize⟩

end Token

/-- The names that cannot be used as names. -/
def keywords : List String :=
  ["False", "None", "True", "and", "as", "assert", "async", "await", "break", "class", "continue",
    "def", "del", "elif", "else", "except", "finally", "for", "from", "global", "if", "import",
    "in", "is", "lambda", "nonlocal", "not", "or", "pass", "raise", "return", "try", "while",
    "with", "yield"]

/-- The operators, each before those that it begins with. -/
def operators : List String :=
  ["...", "**=", "//=", "<<=", ">>=", "!=", "%=", "&=", "**", "*=", "+=", "-=", "->", "//", "/=",
    ":=", "<<", "<=", "==", ">=", ">>", "@=", "^=", "|=", "%", "&", "(", ")", "*", "+", ",", "-",
    ".", "/", ":", ";", "<", "=", ">", "@", "[", "]", "^", "\x7b", "|", "\x7d", "~"]

end ApiAccord.Script
