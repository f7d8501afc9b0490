import ApiAccord.Command.Run

/-!
# The program

Reads the files that a command line can be about, does what it asks for, and writes what has
changed.  All that is decided is decided by `Request.ofWords` and `Request.run`.
-/

namespace ApiAccord.Main

/-- The place of a file or folder with an absolute path. -/
def placeOf (path : String) : FilePlace := ((Path.ofText path).resolve ⟨"/", []⟩).steps

/-- Puts a file into a tree. -/
def takeFile (entry : IO.FS.DirEntry) (tree : FileTree) : IO FileTree := do
  let data ← entry.path.metadata
  let bytes ← IO.FS.readBinFile entry.path
  let modified := data.modified.sec * 1000000000 + data.modified.nsec.toNat
  return tree.write (placeOf entry.path.toString) ⟨bytes.toList, modified⟩

/-- Puts a folder and what is below it into a tree.  What cannot be read is left out. -/
partial def takeFolder (entries : Array IO.FS.DirEntry) (tree : FileTree) : IO FileTree := do
  let mut tree := tree
  for entry in entries do
    if ← entry.path.isDir then
      if !Selector.barren.contains entry.fileName then
        tree := tree.makeFolder (placeOf entry.path.toString)
        tree ← (do takeFolder (← entry.path.readDir) tree) <|> pure tree
    else tree ← takeFile entry tree <|> pure tree
  return tree

/-- The folders that a command line can be about: the working directory, those of the program's own
files, and those of the paths among the words. -/
def foldersFor (ws : Workspace) (words : List String) : List Path :=
  let named := words.map fun word => ws.resolve (.ofText word)
  let outside := named.filter fun p => !ws.here.steps.isPrefixOf p.steps && 1 < p.steps.length
  [ws.here, ws.settingsFolder, ws.cacheFolder] ++ outside.map (·.parent)

/-- The workspace with all files in some folders. -/
def fill (ws : Workspace) : List Path → IO Workspace
  | [] => return ws
  | folder :: rest => do
    let place := ws.resolve folder
    let path := (← IO.currentDir) / place.text
    let files ←
      if ← path.isDir then
        (do takeFolder (← path.readDir) (ws.files.makeFolder place.steps)) <|> pure ws.files
      else pure ws.files
    fill { ws with files := files } rest

/-- The variables that matter, as far as they are set. -/
def environment : IO (List (String × String)) := do
  let names := ["XDG_CONFIG_HOME", "XDG_CACHE_HOME", "SPECMATCH_RULES",
    "SPECMATCH_INCLUDE_WARNINGS", "SPECMATCH_STRICT_METHODS", "SPECMATCH_NO_CACHE"]
  let found ← names.mapM fun name => do return (name, ← IO.getEnv name)
  return found.filterMap fun (name, value) => value.map fun v => (name, v)

/-- The seconds since the beginning of 1970, as far as the system can tell. -/
def seconds : IO Nat := do
  let clock := (← IO.currentDir) / "/proc/self"
  (do return (← clock.metadata).modified.sec.toNat) <|> pure 0

/-- What is typed in, if a word asks for it. -/
def typed (words : List String) : IO String := do
  if words.contains "-" then
    let bytes ← (← IO.getStdin).readBinToEnd
    return Text.Utf8.readLoosely bytes.toList
  return ""

/-- Writes the files of a tree that another one does not have. -/
def writeChanges (before after : FileTree) : IO Unit := do
  for (place, content) in after.files do
    let known := (before.content? place).map (·.bytes)
    if known != some content.bytes then
      let path := (← IO.currentDir) / (Path.ofRootSteps place).text
      if let some folder := path.parent then IO.FS.createDirAll folder
      IO.FS.writeBinFile path ⟨content.bytes.toArray⟩

/-- Writes a text where it belongs. -/
def show_ : Writing → IO Unit
  | .out text => do (← IO.getStdout).putStr text
  | .err text => do (← IO.getStderr).putStr text
  | .replaceFile _ _ | .appendFile _ _ => return ()

/-- Does what a request asks for. -/
def serve (request : Request) (words : List String) : IO UInt32 := do
  let here := Path.ofText (← IO.currentDir).toString
  let now ← seconds
  let bare : Workspace := {
    files := .empty
    here := here
    home := .ofText ((← IO.getEnv "HOME").getD "/")
    pages := []
    environment := ← environment
    system := "Linux"
    input := ← typed words
    clock := now * 1000000000
    stores := [] }
  let ws ← fill bare (foldersFor bare words)
  let ending := request.run (.ofSeconds now) ws
  writeChanges ws.files ending.workspace.files
  for notice in ending.notices do
    (← IO.getStderr).putStrLn ("WARNING  " ++ notice)
  for writing in ending.written do
    show_ writing
  return ending.exitCode.toUInt32

end ApiAccord.Main

/-- Runs the command line. -/
def main (words : List String) : IO UInt32 := do
  match ApiAccord.Request.ofWords words with
  | .ok request => ApiAccord.Main.serve request words
  | .error fault =>
    IO.eprintln ("Error: " ++ fault.message)
    return 2
