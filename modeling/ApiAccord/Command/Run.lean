import ApiAccord.Command.Console
import ApiAccord.Command.Views
import ApiAccord.Document.Swagger
import ApiAccord.Inspection
import ApiAccord.Yaml.Printer

/-!
# Running commands

`Command.run` does what a command asks for and gives the exit code: eight if a check found errors,
else zero.  `Invocation.run` starts with a workspace and ends with what was written, also where the
command failed: failures that are to be expected are reported with a code of their own, others leave
a log.
-/

namespace ApiAccord

/-! ### Single commands -/

namespace Console

/-- The exit code of a check. -/
def verdict (passed : Bool) : Nat := if passed then 0 else 8

/-- Shows the result of a check. -/
def showValidation (v : Validation) : Task Console Nat := do
  let stamp ← Task.look (·.occasion.stamp)
  present (·.outcome (v.toOutcome (some stamp)))
  return verdict v.valid

/-- Shows the result of a comparison. -/
def showComparison (c : Comparison) : Task Console Nat := do
  let stamp ← Task.look (·.occasion.stamp)
  present (·.outcome (c.toOutcome (some stamp)))
  return verdict c.compatible

/-- The settings for a command, with the store that they ask for. -/
def start (overrides : Value) : Task Console Settings := do
  let s ← settings overrides
  openStore s.store
  return s

def validateSpec (source : String) : Task Console Nat := do
  let s ← start (.map [])
  showValidation (← inLibrary (Library.validate s s.check (.location source)))

/-- A converted document as a text. -/
def convertedText (yaml : Bool) (doc : Value) (converted : Members) : Except Failure String :=
  if yaml then
    let groups := Swagger.inheritedBodies ((doc.members?).getD [])
    if (Value.map converted).writable then .ok (Yaml.print (.ofGroups 1 groups) converted)
    else .error (.malformed .badNumber)
  else (Json.print? (.map converted)).elim (.error (.malformed .noItems)) .ok

def convertSpec (source version : String) (checked yaml : Bool) : Task Console Nat := do
  let _ ← settings (.map [])
  let doc ← inFiles (Library.document source)
  match ← Task.ofExcept (Document.detectFormat doc) with
  | (.openapi, found) =>
    Task.fail (.usage (source ++ " is already OpenAPI " ++ found ++
      "; only Swagger 2.0 can be converted"))
  | (.swagger, _) =>
    let ws ← Task.look (·.library.workspace)
    let converted ← Task.ofExcept (
      if checked then Swagger.convertChecked ws.here.text doc version
      else Swagger.convert doc version)
    let text ← Task.ofExcept (convertedText yaml doc converted)
    present fun p => .ok [p.line text]
    return 0

/-- Shows a part of a specification. -/
def showSpec (spec : Spec) : SpecView → Task Console Unit
  | .paths => present (·.table spec.operationTable)
  | .schemas =>
    if spec.schemas.isEmpty then remark (·.info "No schemas defined in this spec.")
    else do
      let t ← Task.ofExcept (Failure.liftShape spec.schemaTable)
      present (·.table t)
  | .security =>
    if spec.securitySchemes.isEmpty then remark (·.info "No security schemes defined.")
    else present (·.table spec.securityTable)
  | .info => present (·.data spec.overview)

def inspectSpec (source view : String) : Task Console Nat := do
  match SpecView.ofName? view with
  | none =>
    let names := ", ".intercalate (SpecView.all.map SpecView.name)
    Task.fail (.usage ("--show must be one of: " ++ names))
  | some view =>
    let s ← start (.map [])
    let spec ← inLibrary (Library.load s.loading (.location source))
    showSpec spec view
    return 0

def check (source spec : String) (a : Adjustment) (request : ScanRequest) : Task Console Nat := do
  let s ← start a.toValue
  let c ← code s request source
  showValidation (← inLibrary
    (Library.inspectCode s .patterns s.check "code" c (.location spec)))

def diff (frontend backend : String) (spec : Option String) (a : Adjustment)
    (request : ScanRequest) : Task Console Nat := do
  if frontend == "-" && backend == "-" then
    Task.fail (.usage "Only one side can be read from stdin")
  let s ← start a.toValue
  let front ← code s request frontend
  let back ← code s request backend
  let result ← inLibrary (Library.inspectSides s .patterns s.check front back
    (spec.map SpecSource.location))
  let degraded := result.info.degradedSides
  if !degraded.isEmpty then
    remark (·.info ("Analysis degraded for: " ++ ", ".intercalate degraded))
  showComparison result

def extract (source : String) (a : Adjustment) (request : ScanRequest) : Task Console Nat := do
  let s ← start a.toValue
  let c ← code s request source
  let side ← Task.ofNoted (Side.ofCode ⟨.patterns, s.extraction⟩ source c)
  if side.degraded then
    remark (·.info "Some input could not be analysed; results may be incomplete.")
  if side.features.isEmpty then remark (·.info "No features found.")
  else present (·.table side.features.table)
  return 0

def showSettings (effective : Bool) : Task Console Nat := do
  let s ← if effective then settings (.map []) else inFiles Settings.load
  let folder ← inFiles Settings.folder
  remark (·.info ("Config directory: " ++ folder.text))
  present (·.data s.toValue)
  return 0

def setSetting (key value : String) : Task Console Nat := do
  let _ ← inFiles (Settings.assign key value)
  remark (·.info ("Set " ++ key ++ " = " ++ value))
  return 0

def settingsPath : Task Console Nat := do
  let file ← inFiles Settings.file
  present fun p => .ok [p.line file.text]
  return 0

def storeStats : Task Console Nat := do
  let s ← settings (.map [])
  openDiskStore s.store
  let store ← Task.look (·.library.store)
  present (·.data (.ofNamed ((store.map Store.stats).getD [])))
  return 0

def clearStore : Task Console Nat := do
  let s ← settings (.map [])
  openDiskStore s.store
  inLibrary (Task.change Library.forget)
  remark (·.info "Spec cache cleared.")
  return 0

end Console

/-- Runs a command. -/
def Command.run : Command → Task Console Nat
  | .validateSpec source => Console.validateSpec source
  | .convertSpec source version checked yaml => Console.convertSpec source version checked yaml
  | .inspectSpec source view => Console.inspectSpec source view
  | .check code spec a request => Console.check code spec a request
  | .diff frontend backend spec a request => Console.diff frontend backend spec a request
  | .extract source a request => Console.extract source a request
  | .showSettings effective => Console.showSettings effective
  | .setSetting key value => Console.setSetting key value
  | .settingsPath => Console.settingsPath
  | .storeStats => Console.storeStats
  | .clearStore => Console.clearStore

/-! ### Command lines -/

/-- How a command line ended. -/
structure Ending where
  exitCode : Nat
  /-- The texts for the output and the terminal, in order. -/
  written : List Writing
  notices : List String
  workspace : Workspace

/-- Leaves a log of an unexpected failure. -/
def Console.leaveLog (f : Failure) : Task Console Unit := do
  let tag ← Task.look (·.occasion.tag)
  let folder ← inFiles do
    let base ← Workspace.makeFolder (← Task.look Workspace.cacheFolder)
    Workspace.makeFolder (base.child "logs")
  let log := folder.child ("crash-" ++ tag ++ ".log")
  inFiles (Workspace.writeFile log (f.cause ++ "\n"))
  remark fun _ => Presenter.error ("Unexpected error. Debug log: " ++ log.text)

/-- Reports a failure, and gives the exit code that it calls for. -/
def Console.report (f : Failure) : Task Console Nat :=
  match f.report? with
  | some (message, exitCode) => do
    remark fun _ => Presenter.error message
    return exitCode
  | none => do
    leaveLog f
    return 1

namespace Invocation

/-- The console at the start. -/
def console (i : Invocation) (occasion : Occasion) (ws : Workspace) : Console where
  library := ⟨ws, none⟩
  presenter := ⟨i.format.getD .plain, i.quiet, i.verbose, i.file⟩
  format := i.format
  occasion := occasion
  written := []

/-- Runs a command, and reports its failure if it fails. -/
def run (i : Invocation) (occasion : Occasion) (ws : Workspace) : Ending :=
  let (n, c) := i.command.run.run (i.console occasion ws)
  match n.outcome with
  | .ok exitCode => ⟨exitCode, c.written, n.notices, c.leave⟩
  | .error f =>
    let (m, c) := (Console.report f).run c
    ⟨m.outcome.toOption.getD 1, c.written, n.notices ++ m.notices, c.leave⟩

end Invocation

/-- The name and version of the program. -/
def versionText : String := Workspace.programName ++ " 0.3.0"

/-- What a user can ask for. -/
def helpText : String := "\n".intercalate [
  "Usage: " ++ Workspace.programName ++ " [OPTIONS] COMMAND [ARGS]...",
  "",
  "Checks that code and OpenAPI documents speak of the same interface.",
  "",
  "Options:",
  "  --version  --json  --plain  --no-color  --quiet, -q  --verbose, -v  --output, -o FILE",
  "",
  "Commands:",
  "  check CODE --spec SPEC              code against a specification",
  "  diff --frontend CODE --backend CODE one side's code against the other's",
  "  extract SOURCE                      what code shows of an interface",
  "  spec validate SOURCE                the structure and references of a document",
  "  spec convert SOURCE                 a Swagger 2.0 document as OpenAPI 3",
  "  spec inspect SOURCE [--show VIEW]   paths, schemas, security or info",
  "  config show | set KEY VALUE | path  settings",
  "  cache stats | clear                 the store of loaded documents"]

/-- Does what a request asks for. -/
def Request.run (occasion : Occasion) (ws : Workspace) : Request → Ending
  | .version => ⟨0, [.out (versionText ++ "\n")], [], ws⟩
  | .help => ⟨0, [.out (helpText ++ "\n")], [], ws⟩
  | .invoke invocation => invocation.run occasion ws

end ApiAccord
