import ApiAccord.Command.Occasion
import ApiAccord.Command.Request
import ApiAccord.Library
import ApiAccord.Scan
import ApiAccord.Settings.Layers

/-!
# The console

A `Console` is what a command works on: a library, the presenter of its results, and all that has
been written so far.  Data for a file are written at once; so a command that fails later has still
written them.
-/

namespace ApiAccord

/-- What a command works on. -/
structure Console where
  library : Library
  presenter : Presenter
  /-- The format that the command line asks for. -/
  format : Option OutputFormat
  occasion : Occasion
  /-- The texts for the output and the terminal, in order. -/
  written : List Writing

namespace Console

/-- Does a task with the library. -/
def inLibrary {α : Type} (t : Task Library α) : Task Console α :=
  t.onPart (·.library) fun lib c => { c with library := lib }

/-- Does a task in the workspace. -/
def inFiles {α : Type} (t : Task Workspace α) : Task Console α := inLibrary (Library.inWorkspace t)

/-! ### Writing -/

/-- Writes one thing. -/
def write : Writing → Task Console Unit
  | .replaceFile path text => inFiles (Workspace.writeFile (.ofText path) text)
  | .appendFile path text => inFiles (Workspace.appendFile (.ofText path) text)
  | w => Task.change fun c => { c with written := c.written ++ [w] }

/-- Writes one thing after the other. -/
def writeAll : List Writing → Task Console Unit
  | [] => pure ()
  | w :: rest => do
    write w
    writeAll rest

/-- Presents something. -/
def present (f : Presenter → Except Failure (List Writing)) : Task Console Unit := do
  let p ← Task.look (·.presenter)
  writeAll (← Task.ofExcept (f p))

/-- Presents a remark. -/
def remark (f : Presenter → List Writing) : Task Console Unit := present fun p => .ok (f p)

/-! ### Settings -/

/-- The settings for a command.  Where no format is asked for, that of the settings is used. -/
def settings (overrides : Value) : Task Console Settings := do
  let asked ← Task.look (·.format)
  let s ← inFiles (Settings.resolve (asked.map OutputFormat.name) overrides)
  if asked.isNone && s.format != "auto" then
    match OutputFormat.ofName? s.format with
    | some format =>
      Task.change fun c => { c with presenter := { c.presenter with format := format } }
    | none => Task.fail (.usage ("Unknown output format in config: " ++ s.format))
  return s

/-! ### The store -/

/-- The directory of the store on disk, in the folder for what can be had again, which is made if it
is not there. -/
def storeDirectory : Task Workspace String := do
  let folder ← Workspace.makeFolder (← Task.look Workspace.cacheFolder)
  return (folder.child "specs").text

/-- Opens the store that the settings ask for. -/
def openStore (s : StoreSettings) : Task Console Unit := do
  let directory ← if s.backend == "disk" then some <$> inFiles storeDirectory else pure none
  let entries ← inFiles (Task.look fun ws => (directory.map ws.storeEntries).getD [])
  let store ← Task.ofExcept (Store.ofSettings s directory entries)
  inLibrary (Task.change fun lib => { lib with store := store })

/-- Opens the store on disk, whatever store is in use. -/
def openDiskStore (s : StoreSettings) : Task Console Unit :=
  openStore { s with enabled := true, backend := "disk" }

/-- The workspace at the end, in which a store on disk has left its entries. -/
def leave (c : Console) : Workspace :=
  match c.library.store with
  | some (.disk directory _ entries) => c.library.workspace.keepStore directory entries
  | _ => c.library.workspace

/-! ### Code -/

/-- The code at a source: what is typed in, or what a scan finds. -/
def code (s : Settings) (request : ScanRequest) (source : String) : Task Console Code := do
  if source == "-" then
    let text ← inFiles (Task.take Library.readInput)
    return .source (.str text)
  else
    let ws ← Task.look (·.library.workspace)
    let path := Path.ofText source
    if !ws.exists_ path then
      Task.fail (.usage ("No such file or directory: " ++ source))
    let scan ← Task.ofNoted (ws.scan ⟨s.extraction, request.syntaxTree⟩ request.wanted
      request.unwanted path)
    remark (·.trace s!"Scanned {scan.files.length} file(s) under {source}")
    return scan.toCode

end Console

end ApiAccord
