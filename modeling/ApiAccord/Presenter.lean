import ApiAccord.Failure
import ApiAccord.Json.Printer
import ApiAccord.Json.Reader
import ApiAccord.ResultRecord

/-!
# Presenting results

A `Presenter` turns data, tables, results and remarks into `Writing`s: lines for the reader of the
output, lines for the person at the terminal, and texts for a file.  Data goes to the output or, if
there is one, into the file; remarks go to the terminal.
-/

namespace ApiAccord

/-- How data is shown. -/
inductive OutputFormat where
  /-- In lines, with tabs between the parts of a line. -/
  | plain
  | json
deriving DecidableEq, Repr

def OutputFormat.name : OutputFormat → String
  | .plain => "plain"
  | .json => "json"

/-- The format of a name.  Where no terminal is at hand, `auto` and `rich` are plain. -/
def OutputFormat.ofName? : String → Option OutputFormat
  | "auto" | "plain" | "rich" => some .plain
  | "json" => some .json
  | _ => none

/-- Something that is written. -/
inductive Writing where
  /-- A text for the output. -/
  | out (text : String)
  /-- A text for the terminal. -/
  | err (text : String)
  /-- The new content of a file. -/
  | replaceFile (path text : String)
  /-- A text at the end of a file. -/
  | appendFile (path text : String)
deriving DecidableEq, Repr

/-- How results are presented. -/
structure Presenter where
  format : OutputFormat
  /-- Whether remarks that are no warnings are left out. -/
  quiet : Bool
  /-- Whether traces are shown. -/
  verbose : Bool
  /-- The file that takes the data in place of the output. -/
  file : Option String
deriving DecidableEq, Repr

/-- A text that ends a line. -/
def endLine (text : String) : String := if Text.endsWith "\n" text then text else text ++ "\n"

/-- The lines of data: one for each member of a mapping, one for each element of a list. -/
def plainLines : Value → List String
  | .map ms => ms.map fun (k, v) => k.display ++ "\t" ++ v.display
  | .list items => items.map fun item =>
    match item with
    | .map ms => "\t".intercalate (ms.map fun m => m.2.display)
    | v => v.display
  | v => [v.display]

/-- A table. -/
structure Table where
  headers : List String
  rows : List (List String)
deriving DecidableEq, Repr

namespace Table

/-- A row as a mapping from the headers, as far as both go. -/
def rowRecord (headers row : List String) : Value :=
  .map (Members.ofEntries ((headers.zip row).map fun (h, c) => (.str h, .str c)))

/-- The rows as records. -/
def toValue (t : Table) : Value := .list (t.rows.map (rowRecord t.headers))

/-- The headers and rows as lines, with tabs between the cells. -/
def lines (t : Table) : List String := (t.headers :: t.rows).map fun row => "\t".intercalate row

end Table

/-- The cells of an issue in a list of issues. -/
def Issue.cells (i : Issue) : List String :=
  [i.severity.name, i.kind.name, i.message, (i.location.map Location.display).getD "-",
    let listed := ", ".intercalate i.suggestions
    if listed == "" then "-" else listed]

/-- What a presenter shows of the result of a check. -/
structure Outcome where
  /-- The result as a record. -/
  record : Value
  issues : List Issue
  passed : Bool
  summary : Summary
  recommendations : List Recommendation

def Comparison.toOutcome (stamp : Option Stamp) (c : Comparison) : Outcome :=
  ⟨c.toValue stamp, c.issues, c.compatible, c.summary, c.recommendations⟩

def Validation.toOutcome (stamp : Option Stamp) (v : Validation) : Outcome :=
  ⟨v.toValue stamp, v.errors ++ v.warnings, v.valid, v.summary, v.recommendations⟩

/-- The line that sums a result up. -/
def Outcome.verdict (o : Outcome) : String :=
  (if o.passed then "compatible" else "incompatible") ++
    s!": score {o.summary.score}, {o.summary.errorCount} error(s), " ++
    s!"{o.summary.warningCount} warning(s)"

namespace Presenter

/-! ### Remarks -/

def warning (message : String) : List Writing := [.err ("Warning: " ++ message ++ "\n")]

def error (message : String) : List Writing := [.err ("Error: " ++ message ++ "\n")]

/-- A remark on what was done. -/
def info (p : Presenter) (message : String) : List Writing :=
  if p.quiet then [] else [.err (message ++ "\n")]

/-- A remark on what to do next. -/
def suggest (p : Presenter) (message : String) : List Writing := p.info ("→ " ++ message)

/-- A remark on what happens inside. -/
def trace (p : Presenter) (message : String) : List Writing :=
  if p.verbose then [.err ("[debug] " ++ message ++ "\n")] else []

/-! ### Data -/

/-- One line of data. -/
def line (p : Presenter) (text : String) : Writing :=
  match p.file with
  | some path => .appendFile path (endLine text)
  | none => .out (text ++ "\n")

/-- A value as JSON; what JSON cannot hold becomes a text. -/
def json (v : Value) : Except Failure String :=
  match Json.printAll? v with
  | some s => .ok s
  | none => .error (.malformed .noItems)

/-- The text of data for the JSON format.  A text that is JSON already is laid out anew. -/
def jsonText : Value → Except Failure String
  | .scalar (.str s) =>
    match Json.read s with
    | .ok v => json v
    | .error ⟨.longInteger, _⟩ => .error (.malformed .badNumber)
    | .error _ => .ok s
  | v => json v

/-- The text of data for a file. -/
def fileText : Value → Except Failure String
  | .map ms => json (.map ms)
  | .list items => json (.list items)
  | v => .ok v.display

/-- Shows data; a file is written anew. -/
def data (p : Presenter) (v : Value) : Except Failure (List Writing) :=
  match p.file, p.format with
  | some path, _ => do return [.replaceFile path (endLine (← fileText v))]
  | none, .json => do return [p.line (← jsonText v)]
  | none, .plain => .ok ((plainLines v).map p.line)

/-- Shows a table. -/
def table (p : Presenter) (t : Table) : Except Failure (List Writing) :=
  match p.format with
  | .json => do return [p.line (← json t.toValue)]
  | .plain => .ok (t.lines.map p.line)

/-- Shows the result of a check: its issues, the verdict, and what to do about it. -/
def outcome (p : Presenter) (o : Outcome) : Except Failure (List Writing) :=
  if p.format == .json || p.file.isSome then p.data o.record
  else
    .ok (o.issues.map (fun i => p.line ("\t".intercalate i.cells)) ++ [p.line o.verdict] ++
      o.recommendations.flatMap fun r =>
        p.suggest (r.priority.name.toUpper ++ ": " ++ r.text ++ ". " ++ r.action))

end Presenter

end ApiAccord
