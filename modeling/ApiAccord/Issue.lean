import ApiAccord.Checked

/-!
# Issues

An `Issue` is one finding of a check: its kind, its severity, a message, and where it was found.
-/

namespace ApiAccord

/-- How bad an issue is.  Only errors make two sides incompatible. -/
inductive Severity where
  | error
  | warning
deriving DecidableEq, Repr, Inhabited

/-- What an issue is about. -/
inductive IssueKind where
  | endpointMissing
  | endpointExtra
  | methodMismatch
  | invalidMethod
  | schemaMissing
  | parameterMissingType
  | parameterMissing
  | parameterTypeMismatch
  | parameterExtra
  | specStructure
  | custom
deriving DecidableEq, Repr, Inhabited

namespace Severity

def name : Severity → String
  | .error => "error"
  | .warning => "warning"

def all : List Severity := [.error, .warning]

def check : Value → Checked Severity := Field.choice (all.map fun s => (s.name, s))

end Severity

namespace IssueKind

def name : IssueKind → String
  | .endpointMissing => "endpoint_missing"
  | .endpointExtra => "endpoint_extra"
  | .methodMismatch => "method_mismatch"
  | .invalidMethod => "invalid_method"
  | .schemaMissing => "schema_missing"
  | .parameterMissingType => "parameter_missing_type"
  | .parameterMissing => "parameter_missing"
  | .parameterTypeMismatch => "parameter_type_mismatch"
  | .parameterExtra => "parameter_extra"
  | .specStructure => "spec_structure"
  | .custom => "custom"

/-- All kinds, in the order in which they are listed. -/
def all : List IssueKind :=
  [.endpointMissing, .endpointExtra, .methodMismatch, .invalidMethod, .schemaMissing,
    .parameterMissingType, .parameterMissing, .parameterTypeMismatch, .parameterExtra,
    .specStructure, .custom]

def check : Value → Checked IssueKind := Field.choice (all.map fun k => (k.name, k))

/-- The severity of a kind where nothing else is said. -/
def defaultSeverity : IssueKind → Severity
  | .endpointMissing | .methodMismatch | .invalidMethod | .specStructure => .error
  | .endpointExtra | .schemaMissing | .parameterMissingType | .parameterMissing
  | .parameterTypeMismatch | .parameterExtra | .custom => .warning

end IssueKind

/-- Where an issue was found. -/
structure Location where
  side : Option String
  file : Option String
  line : Option Int
deriving DecidableEq, Repr

namespace Location

/-- A location known by its side only. -/
def ofSide (side : String) : Location := ⟨some side, none, none⟩

/-- The parts that are known, separated by colons. -/
def display (l : Location) : String :=
  let named (part : Option String) : List String := (part.filter (· != "")).toList
  let line := match l.line with
    | some n => [s!"line {n}"]
    | none => []
  match named l.side ++ named l.file ++ line with
  | [] => "-"
  | parts => ":".intercalate parts

/-- Reads a location from a record. -/
def check (v : Value) : Checked Location :=
  (Record.members "SourceLocation" v).andThen fun ms =>
    Location.mk <$> Record.field ms ["side"] none (Field.orNull Field.text) <*>
      Record.field ms ["file"] none (Field.orNull Field.text) <*>
      Record.field ms ["line"] none (Field.orNull Field.whole)

end Location

/-- One finding. -/
structure Issue where
  kind : IssueKind
  severity : Severity
  message : String
  location : Option Location
  suggestion : Option String
  suggestions : List String
  rule : String
  path : Option String
  method : Option String
deriving DecidableEq, Repr

/-- Reads an issue from a record. -/
def Issue.check (v : Value) : Checked Issue :=
  (Record.members "DiffIssue" v).andThen fun ms =>
    Issue.mk <$> Record.required ms ["type"] IssueKind.check <*>
      Record.required ms ["severity"] Severity.check <*>
      Record.required ms ["message"] Field.text <*>
      Record.field ms ["location"] none (Field.orNull Location.check) <*>
      Record.field ms ["suggestion"] none (Field.orNull Field.text) <*>
      Record.field ms ["suggestions"] [] (Field.tupleOf Field.text) <*>
      Record.required ms ["rule"] Field.text <*>
      Record.field ms ["path"] none (Field.orNull Field.text) <*>
      Record.field ms ["method"] none (Field.orNull Field.text)

end ApiAccord
