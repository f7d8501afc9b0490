import ApiAccord.Command.Arguments
import ApiAccord.Presenter
import ApiAccord.Value.Basic

/-!
# Requests

`Request.ofWords` reads a command line: options that hold for all commands, the name of a command,
and what belongs to that command.  Specifications, settings and the store on disk have commands
under a common name.
-/

namespace ApiAccord

/-- The settings that a command overrides. -/
structure Adjustment where
  rules : List String
  withoutWarnings : Bool
  ignoreMinor : Bool
  strictMethods : Bool
deriving DecidableEq, Repr

/-- Which files below a folder are scanned, and how. -/
structure ScanRequest where
  wanted : List String
  unwanted : List String
  /-- Whether Python files are read as programs. -/
  syntaxTree : Bool
deriving DecidableEq, Repr

/-- What is to be done.  A source is a path, an address, or a hyphen for the input. -/
inductive Command where
  | validateSpec (source : String)
  | convertSpec (source version : String) (checked yaml : Bool)
  | inspectSpec (source view : String)
  | check (code spec : String) (adjustment : Adjustment) (scan : ScanRequest)
  | diff (frontend backend : String) (spec : Option String) (adjustment : Adjustment)
      (scan : ScanRequest)
  | extract (source : String) (adjustment : Adjustment) (scan : ScanRequest)
  | showSettings (effective : Bool)
  | setSetting (key value : String)
  | settingsPath
  | storeStats
  | clearStore
deriving DecidableEq, Repr

/-- A command with the options that hold for all commands. -/
structure Invocation where
  /-- The format, if one was asked for. -/
  format : Option OutputFormat
  quiet : Bool
  verbose : Bool
  /-- The file that takes the data in place of the output. -/
  file : Option String
  command : Command
deriving DecidableEq, Repr

/-- What a command line asks for. -/
inductive Request where
  | version
  | help
  | invoke (invocation : Invocation)
deriving DecidableEq, Repr

namespace Adjustment

def ofArguments (a : Arguments) : Adjustment where
  rules := a.values "--rule"
  withoutWarnings := a.has "--no-warnings"
  ignoreMinor := a.has "--ignore-minor"
  strictMethods := a.has "--strict-methods"

/-- A section of settings with some members, unless there are none. -/
def unlessNone (name : String) (members : List (String × Value)) : List (String × Value) :=
  if members.isEmpty then [] else [(name, .ofNamed members)]

/-- The overridden settings as a record. -/
def toValue (a : Adjustment) : Value :=
  .ofNamed (unlessNone "check" (
      (if a.rules.isEmpty then [] else [("custom_rules", .list (a.rules.map .str))]) ++
      (if a.withoutWarnings then [("include_warnings", .bool false)] else []) ++
      (if a.ignoreMinor then [("ignore_minor_differences", .bool true)] else [])) ++
    unlessNone "extractor"
      (if a.strictMethods then [("strict_method_detection", .bool true)] else []))

end Adjustment

def ScanRequest.ofArguments (a : Arguments) : ScanRequest where
  wanted := a.values "--include"
  unwanted := a.values "--exclude"
  syntaxTree := !a.has "--no-ast"

namespace Request

/-! ### Switches -/

def helpSwitch : Switch := .flag "--help" []

def generalSwitches : List Switch :=
  [.flag "--version" [], .flag "--json" [], .flag "--plain" [], .flag "--no-color" [],
    .flag "--quiet" ["-q"], .flag "--verbose" ["-v"], .value "--output" ["-o"]]

def adjustmentSwitches : List Switch :=
  [.value "--rule" ["-r"], .flag "--no-warnings" [], .flag "--ignore-minor" [],
    .flag "--strict-methods" []]

def pathSwitches : List Switch := [.value "--include" [], .value "--exclude" []]

def treeSwitch : Switch := .flag "--no-ast" []

/-! ### Commands -/

/-- Reads the words after a name.  `--help` goes before all that is wrong with the options and
operands given. -/
def reading (switches : List Switch) (mixed : Bool) (words : List String)
    (next : Arguments → Except UsageFault (Option Command)) :
    Except UsageFault (Option Command) := do
  let a ← Arguments.read (helpSwitch :: switches) mixed words
  if a.has helpSwitch.name then return none else next a

/-- Reads the words after the name of a command. -/
def withOperand (switches : List Switch) (operand : String) (words : List String)
    (next : Arguments → String → Except UsageFault Command) : Except UsageFault (Option Command) :=
  reading switches true words fun a => do
    match ← a.operandsFor [operand] with
    | [text] => some <$> next a text
    | _ => throw (.missingOperand operand)

/-- Reads the words after the name of a command without operands. -/
def withoutOperands (switches : List Switch) (words : List String)
    (next : Arguments → Except UsageFault Command) : Except UsageFault (Option Command) :=
  reading switches true words fun a => do
    let _ ← a.operandsFor []
    some <$> next a

/-- Reads the name of a command and goes on with the words after it. -/
def named (a : Arguments) (next : String → List String → Except UsageFault (Option Command)) :
    Except UsageFault (Option Command) :=
  match a.operands with
  | name :: rest => next name rest
  | [] => .error .noCommand

def ofSpecWords (words : List String) : Except UsageFault (Option Command) :=
  reading [] false words fun a => named a fun
    | "validate", rest => withOperand [] "source" rest fun _ source => return .validateSpec source
    | "convert", rest =>
      let switches := [.value "--target-version" ["-t"], .flag "--validate" [], .flag "--yaml" []]
      withOperand switches "source" rest fun a source =>
        return .convertSpec source ((a.value? "--target-version").getD "3.0") (a.has "--validate")
          (a.has "--yaml")
    | "inspect", rest => withOperand [.value "--show" []] "source" rest fun a source =>
        return .inspectSpec source ((a.value? "--show").getD "paths")
    | name, _ => throw (.unknownCommand name)

def ofConfigWords (words : List String) : Except UsageFault (Option Command) :=
  reading [] false words fun a => named a fun
    | "show", rest => withoutOperands [.flag "--effective" []] rest fun a =>
        return .showSettings (a.has "--effective")
    | "set", rest => reading [] true rest fun a => do
        match ← a.operandsFor ["key", "value"] with
        | [key, value] => return some (.setSetting key value)
        | _ => throw (.missingOperand "key")
    | "path", rest => withoutOperands [] rest fun _ => return .settingsPath
    | name, _ => throw (.unknownCommand name)

def ofCacheWords (words : List String) : Except UsageFault (Option Command) :=
  reading [] false words fun a => named a fun
    | "stats", rest => withoutOperands [] rest fun _ => return .storeStats
    | "clear", rest => withoutOperands [] rest fun _ => return .clearStore
    | name, _ => throw (.unknownCommand name)

/-- Reads the name of a command and all that follows; nothing comes of it if help is asked for. -/
def commandOf (name : String) (words : List String) : Except UsageFault (Option Command) :=
  match name with
  | "spec" => ofSpecWords words
  | "config" => ofConfigWords words
  | "cache" => ofCacheWords words
  | "check" =>
    let switches :=
      .value "--spec" ["-s"] :: treeSwitch :: adjustmentSwitches ++ pathSwitches
    withOperand switches "code" words fun a code =>
      return .check code (← a.required "--spec") (.ofArguments a) (.ofArguments a)
  | "diff" =>
    let switches := [.value "--frontend" ["-f"], .value "--backend" ["-b"],
      .value "--spec" ["-s"], treeSwitch] ++ adjustmentSwitches
    withoutOperands switches words fun a =>
      return .diff (← a.required "--frontend") (← a.required "--backend") (a.value? "--spec")
        (.ofArguments a) (.ofArguments a)
  | "extract" =>
    let switches := .flag "--strict-methods" [] :: treeSwitch :: pathSwitches
    withOperand switches "source" words fun a source =>
      return .extract source (.ofArguments a) (.ofArguments a)
  | name => throw (.unknownCommand name)

/-! ### Command lines -/

/-- The format that was asked for; JSON goes first. -/
def formatOf? (a : Arguments) : Option OutputFormat :=
  if a.has "--json" then some .json else if a.has "--plain" then some .plain else none

/-- The request for a command. -/
def ofCommand (a : Arguments) : Option Command → Request
  | none => .help
  | some command => .invoke {
      format := formatOf? a
      quiet := a.has "--quiet"
      verbose := a.has "--verbose"
      file := (a.value? "--output").filter (· != "")
      command := command }

/-- Reads a command line.  What is asked for first, version or help, is given. -/
def ofWords (words : List String) : Except UsageFault Request := do
  let a ← Arguments.read (helpSwitch :: generalSwitches) false words
  match a.options.find? fun o => o.1 == "--version" || o.1 == "--help" with
  | some ("--version", _) => return .version
  | some _ => return .help
  | none =>
    match a.operands with
    | name :: rest => return ofCommand a (← commandOf name rest)
    | [] => throw .noCommand

end Request

end ApiAccord
