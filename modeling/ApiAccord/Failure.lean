import ApiAccord.Checked

/-!
# Failures

The causes for which loading, resolving, converting or configuring fails, each with its wording and
the code with which a command ends because of it.
-/

namespace ApiAccord

/-- Why a document could not be loaded. -/
inductive LoadError where
  | fileNotFound (path : String)
  | addressNotFound (url : String)
  | emptyFile (path : String)
  | emptyInput
  | unreadableFile (path reason : String)
  | badStatus (status : Int) (url : String)
  | unreachable (url reason : String)
  /-- The text was to be JSON and is not. -/
  | badJson (reason : String)
  /-- The text is neither JSON nor YAML; `json` says why it is not JSON, if that was tried. -/
  | unparsable (json : Option String)
  /-- The document is a value of another kind than a mapping. -/
  | notMapping (kind : String)
  /-- The document names the version of no known family. -/
  | noVersion
deriving DecidableEq, Repr

namespace LoadError

def message : LoadError → String
  | .fileNotFound path => "Specification file not found: " ++ path
  | .addressNotFound url => "Specification not found at " ++ url
  | .emptyFile path => "Spec file is empty: " ++ path
  | .emptyInput => "No input received from stdin"
  | .unreadableFile path reason => "Failed to read spec file " ++ path ++ ": " ++ reason
  | .badStatus status url => s!"HTTP {status} fetching spec from {url}"
  | .unreachable url reason => "Failed to fetch spec from " ++ url ++ ": " ++ reason
  | .badJson reason => "Invalid JSON: " ++ reason
  | .unparsable json =>
    "Failed to parse spec as JSON or YAML" ++
      (match json with
        | some reason => "\n  JSON error: " ++ reason
        | none => "") ++ "\n  YAML error:"
  | .notMapping kind => "Spec must be a JSON/YAML object (got " ++ kind ++ ")"
  | .noVersion => "Invalid specification format: missing 'openapi' or 'swagger' field"

def exitCode : LoadError → Nat
  | .fileNotFound _ | .addressNotFound _ => 4
  | _ => 7

end LoadError

/-- Why a document could not be had: an error of loading, or a text that breaks the reader. -/
inductive LoadFailure where
  | load (e : LoadError)
  | malformed (m : Malformed)
deriving DecidableEq, Repr

/-- Why a reference could not be resolved. -/
inductive RefError where
  | circular (ref : String)
  | externalNotAllowed (ref : String)
  | unloadable (ref : String) (e : LoadError)
  | badFragment (ref fragment : String)
  | missingKey (ref segment : String)
  | badIndex (ref segment : String)
  | notContainer (ref kind : String)
deriving DecidableEq, Repr

namespace RefError

/-- The reference that could not be resolved. -/
def ref : RefError → String
  | .circular ref | .externalNotAllowed ref | .unloadable ref _ | .badFragment ref _
  | .missingKey ref _ | .badIndex ref _ | .notContainer ref _ => ref

def message : RefError → String
  | .circular ref => "Circular $ref detected: " ++ ref
  | .externalNotAllowed ref =>
    "External $ref not allowed: " ++ ref ++
      ". Enable external reference resolution to follow it."
  | .unloadable ref e => "Cannot resolve $ref '" ++ ref ++ "': " ++ e.message
  | .badFragment ref fragment =>
    "Cannot resolve $ref '" ++ ref ++ "': unsupported fragment '#" ++ fragment ++ "'"
  | .missingKey ref segment =>
    "Cannot resolve $ref '" ++ ref ++ "': key '" ++ segment ++ "' not found at path"
  | .badIndex ref segment =>
    "Cannot resolve $ref '" ++ ref ++ "': invalid array index '" ++ segment ++ "'"
  | .notContainer ref kind =>
    "Cannot resolve $ref '" ++ ref ++ "': cannot navigate into " ++ kind

end RefError

/-- Why a document could not be converted. -/
inductive ConversionError where
  | notSwagger (version : String)
  | unsupportedTarget (version : String)
  | invalidResult (e : RefError)
deriving DecidableEq, Repr

def ConversionError.message : ConversionError → String
  | .notSwagger version =>
    "Expected a Swagger 2.x document, got swagger=" ++
      (if version == "" then "missing" else version)
  | .unsupportedTarget version => "Unsupported target OpenAPI version: " ++ version
  | .invalidResult e => "Converted document is invalid: " ++ e.message

/-- Why the configuration could not be read or changed. -/
inductive ConfigError where
  /-- The file at `path` is not what it should be. -/
  | badFile (what path reason : String)
  | invalid (origin : String) (record : String) (faults : List Fault)
  | unknownKey (key : String)
  | badFlag (name quoted : String)
deriving DecidableEq, Repr

namespace ConfigError

def message : ConfigError → String
  | .badFile what path reason => "Invalid " ++ what ++ " at " ++ path ++ ": " ++ reason
  | .invalid origin record faults =>
    "Invalid configuration (" ++ origin ++ "): " ++ toString faults.length ++ " validation error" ++
      (if faults.length == 1 then "" else "s") ++ " for " ++ record
  | .unknownKey key => "Unknown config key '" ++ key ++ "'"
  | .badFlag name quoted => "Invalid boolean for " ++ name ++ ": " ++ quoted

end ConfigError

/-- Why a pattern for file names is none. -/
inductive PatternFlaw where
  /-- Nothing is left of the pattern. -/
  | empty
  /-- A backslash at the end of a segment escapes nothing. -/
  | openEscape
  /-- A range of characters ends before it begins. -/
  | backwardRange
deriving DecidableEq, Repr

/-- What stands in the way of reading or writing a file. -/
inductive FileProblem where
  /-- The folder that the file should be in is not there. -/
  | missing
  /-- There is a file where a folder should be made. -/
  | occupied
  /-- There is a file where a folder is gone through. -/
  | notFolder
  /-- There is a folder where a file should be. -/
  | isFolder
  /-- The bytes of the file are no text. -/
  | notText
deriving DecidableEq, Repr

/-- Why an operation failed. -/
inductive Failure where
  | load (e : LoadError)
  | ref (e : RefError)
  | conversion (e : ConversionError)
  | config (e : ConfigError)
  | usage (message : String)
  /-- A record of the given name has faults. -/
  | invalid (record : String) (faults : List Fault)
  | malformed (m : Malformed)
  /-- The spec store cannot be built as configured. -/
  | badStore (message : String)
  /-- The home directory of a user is not known. -/
  | unknownHome
  | badPattern (flaw : PatternFlaw)
  | file (problem : FileProblem)
deriving DecidableEq, Repr

namespace Failure

/-- The message and exit code of a failure that a command reports; others are unexpected. -/
def report? : Failure → Option (String × Nat)
  | .load e => some (e.message, e.exitCode)
  | .ref e => some (e.message, 6)
  | .conversion e => some (e.message, 9)
  | .config e => some (e.message, 1)
  | .usage message => some (message, 2)
  | .invalid _ _ | .malformed _ | .badStore _ | .unknownHome | .badPattern _
  | .file _ => none

/-- What went wrong, for the log of an unexpected failure. -/
def cause : Failure → String
  | .load e => e.message
  | .ref e => e.message
  | .conversion e => e.message
  | .config e => e.message
  | .usage message => message
  | .invalid record faults => s!"{faults.length} fault(s) in a record of the kind {record}"
  | .malformed .noMembers => "A part of the document has no members where some are needed."
  | .malformed .noItems => "A part of the document has no items, or cannot serve as text or key."
  | .malformed .badNumber => "A number, day or text in the document denotes no value."
  | .malformed .emptyNumber => "A number in the document has no digits."
  | .malformed .hugeNumber => "A number in the document is too large."
  | .malformed .unknownWord => "A truth value in the document is spelled in an unknown word."
  | .malformed .badMoment => "A moment in the document is not one."
  | .malformed .endless => "A part of the document contains itself."
  | .badStore message => message
  | .unknownHome => "The home directory of a user is not known."
  | .badPattern .empty => "A pattern for file names is empty."
  | .badPattern .openEscape => "A pattern for file names ends in a backslash."
  | .badPattern .backwardRange => "A range in a pattern for file names ends before it begins."
  | .file .missing => "The folder of a file is not there."
  | .file .occupied => "A file is where a folder should be made."
  | .file .notFolder => "A file is where a folder should be."
  | .file .isFolder => "A folder is where a file should be."
  | .file .notText => "The bytes of a file are no text."

def ofLoad : LoadFailure → Failure
  | .load e => .load e
  | .malformed m => .malformed m

/-- Lifts a reading of a document. -/
def liftShape {α : Type} : Except Malformed α → Except Failure α
  | .ok a => .ok a
  | .error m => .error (.malformed m)

/-- Lifts a checked record. -/
def liftRecord {α : Type} (record : String) : Checked α → Except Failure α
  | .ok a => .ok a
  | .faults fs => .error (.invalid record fs)

end Failure

end ApiAccord
