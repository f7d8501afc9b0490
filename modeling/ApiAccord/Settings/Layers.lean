import ApiAccord.Json.Printer
import ApiAccord.Noted
import ApiAccord.Workspace

/-!
# Layers of settings

Settings come from a file of the user, a file of the project, variables of the environment and the
command, each of which overrides the one before, member by member.  `Settings.resolve` merges all
layers and checks the result; `Settings.assign` changes one member in the user's file.
-/

namespace ApiAccord

namespace Workspace

/-! ### Folders -/

/-- The name under which the program keeps its files. -/
def programName : String := "specmatch"

/-- Whether the system has separate base folders for settings and for what can be had again. -/
def hasBaseFolders (ws : Workspace) : Bool := ws.system == "Linux" || Text.endsWith "BSD" ws.system

/-- The base folder that a variable names, or a folder of the home directory. -/
def baseFolder (ws : Workspace) (name default : String) : Path :=
  match ws.lookUp name with
  | none | some "" => ws.home.child default
  | some text => .ofText text

/-- The folder that holds all of the program's files where there are no base folders. -/
def ownFolder (ws : Workspace) : Path := ws.home.child ("." ++ programName)

def settingsFolder (ws : Workspace) : Path :=
  if ws.hasBaseFolders then (ws.baseFolder "XDG_CONFIG_HOME" ".config").child programName
  else ws.ownFolder

/-- The folder for what can be had again. -/
def cacheFolder (ws : Workspace) : Path :=
  if ws.hasBaseFolders then (ws.baseFolder "XDG_CACHE_HOME" ".cache").child programName
  else ws.ownFolder.child "cache"

/-- Makes a folder and those above it. -/
def makeFolder (p : Path) : Task Workspace Path where
  run ws :=
    match ws.files.makeFolders (if p.isAbsolute then [] else ws.here.steps) p.steps with
    | .ok (_, files) => (pure p, { ws with files := files })
    | .error problem => (.fail (.file problem), ws)

/-- Writes a file. -/
def writeFile (p : Path) (text : String) : Task Workspace Unit where
  run ws :=
    match ws.files.target ws.here.steps p with
    | .ok place => (pure (), ws.writeAt place (Text.Utf8.encode text))
    | .error problem => (.fail (.file problem), ws)

/-- Writes a text at the end of a file. -/
def appendFile (p : Path) (text : String) : Task Workspace Unit where
  run ws :=
    match ws.files.target ws.here.steps p with
    | .ok place =>
      let before := ((ws.files.content? place).map (·.bytes)).getD []
      (pure (), ws.writeAt place (before ++ Text.Utf8.encode text))
    | .error problem => (.fail (.file problem), ws)

end Workspace

namespace Settings

/-- The folder of the user's file, which is made if it is not there. -/
def folder : Task Workspace Path := do
  let p ← Task.look Workspace.settingsFolder
  Workspace.makeFolder p

/-- The user's file. -/
def file : Task Workspace Path := (·.child "config.json") <$> folder

/-! ### Reading files -/

/-- The members of the record in a file. -/
def readMembers (what : String) (path : Path) (content : FileContent) : Except Failure Members :=
  match Text.Utf8.read content.bytes with
  | .error _ => .error (.file .notText)
  | .ok text =>
    match Json.read text with
    | .ok (.map ms) => .ok ms
    | .ok _ => .error (.config (.badFile what path.text "expected a JSON object"))
    | .error ⟨.longInteger, _⟩ => .error (.malformed .badNumber)
    | .error f => .error (.config (.badFile what path.text (f.message text)))

/-- The settings that a record gives. -/
def ofMembers (origin : String) (ms : Members) : Except Failure Settings :=
  match Settings.ofValue (.map ms) with
  | .ok s => .ok s
  | .faults fs => .error (.config (.invalid origin "GlobalConfig" fs))

/-- The members of the record of settings. -/
def members (s : Settings) : Members := (s.toValue.members?).getD []

/-- The settings in the user's file. -/
def load : Task Workspace Settings := do
  let path ← file
  match ← Task.look (·.fileAt? path) with
  | none => return .default
  | some content =>
    let ms ← Task.ofExcept (readMembers "global config" path content)
    Task.ofExcept (ofMembers path.text ms)

/-- The text of the user's file. -/
def fileText (s : Settings) : String :=
  Json.toAscii ((Json.print? s.toValue).getD "") ++ "\n"

/-- Writes the user's file. -/
def save (s : Settings) : Task Workspace Unit := do
  let path ← file
  Workspace.writeFile path s.fileText

/-- The members in the file of the project, if there is one. -/
def projectMembers : Task Workspace (Option Members) := do
  let path := (← Task.look (·.here)).child (Workspace.programName ++ ".json")
  match ← Task.look (·.fileAt? path) with
  | none => return none
  | some content => some <$> Task.ofExcept (readMembers "project config" path content)

/-! ### Changing one member -/

/-- Puts a value in the place of the member that a path of names leads to, if it is there. -/
def replaceAt? (v : Value) : List String → Members → Option Members
  | [], _ => none
  | [name], ms => if ms.has name then some (Members.insert (.str name) v ms) else none
  | name :: rest, ms =>
    match ms.get? name with
    | some (.map inner) => do
      let inner ← replaceAt? v rest inner
      return Members.insert (.str name) (.map inner) ms
    | _ => none

/-- The value that a text stands for: that which it writes in JSON, else the text itself. -/
def valueOfText (text : String) : Except Failure Value :=
  match Json.read text with
  | .ok v => .ok v
  | .error ⟨.longInteger, _⟩ => .error (.malformed .badNumber)
  | .error _ => .ok (.str text)

/-- Changes the member under a dotted key in the user's file. -/
def assign (key text : String) : Task Workspace Settings := do
  let current ← load
  let steps := Text.splitOn '.' key
  let unknown := Failure.config (.unknownKey key)
  let _ ← Task.ofExcept ((replaceAt? .null steps current.members).elim (.error unknown) .ok)
  let v ← Task.ofExcept (valueOfText text)
  let ms ← Task.ofExcept ((replaceAt? v steps current.members).elim (.error unknown) .ok)
  let s ← Task.ofExcept (ofMembers (key ++ "=" ++ text) ms)
  save s
  return s

/-! ### Variables -/

def trueWords : List String := ["1", "true", "yes", "on"]
def falseWords : List String := ["0", "false", "no", "off"]

/-- The truth value that a variable gives, if it is set and not blank. -/
def flag (ws : Workspace) (name : String) : Except Failure (Option Bool) :=
  match ws.lookUp name with
  | none => .ok none
  | some text =>
    let word := Text.lower (Text.trim text)
    if word == "" then .ok none
    else if trueWords.contains word then .ok (some true)
    else if falseWords.contains word then .ok (some false)
    else .error (.config (.badFlag name (Text.quoted text)))

/-- The custom rules that a variable lists. -/
def listedRules (text : String) : List String :=
  ((Text.splitOn ',' text).map Text.trim).filter (· != "")

/-- A section with one member, if there is a value for it. -/
def single (section_ name : String) (v : Option Value) : Members :=
  match v with
  | some v => [(.str section_, .ofNamed [(name, v)])]
  | none => []

/-! ### Merging -/

mutual

/-- Puts the members of another mapping over those of a mapping. -/
def mergeMembers (base : Members) : List (Scalar × Value) → Members
  | [] => base
  | (k, v) :: rest =>
    mergeMembers (Members.insert k (mergeValue (Members.lookup k base) v) base) rest

/-- The value that takes the place of an old one: mappings are merged, all else is replaced. -/
def mergeValue (old : Option Value) : Value → Value
  | .map ms =>
    match old with
    | some (.map base) => .map (mergeMembers base ms)
    | _ => .map ms
  | v => v

end

/-- The members that the variables of the environment give. -/
def variableMembers (ws : Workspace) : Except Failure Members := do
  let rules := (ws.lookUp "SPECMATCH_RULES").map fun text =>
    Value.list ((listedRules text).map .str)
  let warnings ← flag ws "SPECMATCH_INCLUDE_WARNINGS"
  let strict ← flag ws "SPECMATCH_STRICT_METHODS"
  let unstored ← flag ws "SPECMATCH_NO_CACHE"
  return [
    single "check" "custom_rules" rules,
    single "check" "include_warnings" (warnings.map .bool),
    single "extractor" "strict_method_detection" (strict.map .bool),
    single "cache" "enabled" (unstored.map fun b => .bool (!b))].foldl mergeMembers []

/-- The settings of all layers.  `overrides` and `format` come from the command. -/
def resolve (format : Option String) (overrides : Value) : Task Workspace Settings := do
  let user ← load
  let project ← projectMembers
  let ofEnvironment ← Task.ofExcept (← Task.look variableMembers)
  let command ←
    if overrides.truthy then Task.ofExcept (Failure.liftShape overrides.members) else pure []
  let shown := single "output" "format" (format.map .str)
  Task.ofExcept (ofMembers "merged"
    ([project.getD [], ofEnvironment, command, shown].foldl mergeMembers user.members))

end Settings

end ApiAccord
