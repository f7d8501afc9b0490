import ApiAccord.Document.Reading
import ApiAccord.Document.Reference
import ApiAccord.Files.Tree
import ApiAccord.Spec.Basic
import ApiAccord.Store.Basic
import ApiAccord.Text.Case
import ApiAccord.Text.Utf8

/-!
# Workspaces

A `Workspace` is all that can be seen and changed while working: files, the pages of the net, the
variables of the environment, the text that is typed in, and the stores that were left on disk.

`Workspace.document` reads the document at a location, and `Workspace.shelf` gathers all documents
that references from a document can lead to.
-/

namespace ApiAccord

/-- What an address answers. -/
structure Page where
  status : Int
  text : String
  contentType : String

/-- A stored specification, with what it was made from. -/
structure StoredSpec where
  spec : Spec
  /-- The state of the file when it was loaded. -/
  fingerprint : Fingerprint
  /-- The options with which it was loaded. -/
  stamp : Bool × Bool × Bool

/-- The world around the program. -/
structure Workspace where
  files : FileTree
  /-- The working directory. -/
  here : Path
  /-- The home directory. -/
  home : Path
  pages : List (String × Page)
  environment : List (String × String)
  /-- The name of the operating system. -/
  system : String
  /-- The text that can still be read from the input. -/
  input : String
  /-- The time of the next writing, in billionths of a second. -/
  clock : Int
  /-- The stores on disk, by directory. -/
  stores : List (String × Entries StoredSpec)

namespace Workspace

/-! ### Files -/

/-- The file that a path leads to. -/
def fileAt? (ws : Workspace) (p : Path) : Option FileContent := ws.files.fileAt? ws.here.steps p

def hasFolder (ws : Workspace) (p : Path) : Bool := (ws.files.folderAt? ws.here.steps p).isSome

/-- Whether anything is where a path leads. -/
def exists_ (ws : Workspace) (p : Path) : Bool := (ws.fileAt? p).isSome || ws.hasFolder p

/-- The absolute path without dots. -/
def resolve (ws : Workspace) (p : Path) : Path := p.resolve ws.here

/-- The state of what a path leads to, if there is something.  Folders are all alike. -/
def fingerprint? (ws : Workspace) (p : Path) : Option Fingerprint :=
  match ws.fileAt? p with
  | some c => some c.fingerprint
  | none => if ws.hasFolder p then some ⟨0, 0⟩ else none

/-- Writes a file at a place. -/
def writeAt (ws : Workspace) (place : FilePlace) (bytes : List UInt8) : Workspace :=
  { ws with files := ws.files.write place ⟨bytes, ws.clock⟩, clock := ws.clock + 1 }

/-- The value of a variable. -/
def lookUp (ws : Workspace) (name : String) : Option String := ws.environment.lookup name

/-- The entries that a store in a directory left behind. -/
def storeEntries (ws : Workspace) (directory : String) : Entries StoredSpec :=
  (ws.stores.lookup directory).getD []

/-- Leaves the entries of a store in a directory behind. -/
def keepStore (ws : Workspace) (directory : String) (entries : Entries StoredSpec) : Workspace :=
  { ws with stores := ws.stores.filter (·.1 != directory) ++ [(directory, entries)] }

/-! ### Documents -/

/-- What the end of a file name says about the form of the text. -/
def hintOfSuffix (suffix : String) : Document.Hint :=
  match Text.lower suffix with
  | ".json" => .json
  | ".yaml" | ".yml" => .yaml
  | _ => .none

/-- What a content type says about the form of the text. -/
def hintOfContentType (contentType : String) : Document.Hint :=
  if Text.occursIn "json" contentType then .json
  else if Text.occursIn "yaml" contentType || Text.occursIn "yml" contentType then .yaml
  else .none

/-- The document of a page. -/
def pageDocument (ws : Workspace) (url : String) : Except LoadFailure Value :=
  match ws.pages.lookup url with
  | none => .error (.load (.unreachable url "no route to host"))
  | some page =>
    if 200 ≤ page.status && page.status < 300 then
      Document.ofText (hintOfContentType page.contentType) page.text
    else if page.status == 404 then .error (.load (.addressNotFound url))
    else .error (.load (.badStatus page.status url))

/-- The document in a file. -/
def fileDocument (ws : Workspace) (location : String) : Except LoadFailure Value :=
  let path := Path.ofText location
  match ws.fileAt? path with
  | none => .error (.load (.fileNotFound location))
  | some content =>
    match Text.Utf8.read content.bytes with
    | .error fault => .error (.load (.unreadableFile path.text fault.message))
    | .ok text =>
      if Text.isBlankText text then .error (.load (.emptyFile location))
      else Document.ofText (hintOfSuffix path.suffix) text

/-- The document at an address or in a file. -/
def document (ws : Workspace) (location : String) : Except LoadFailure Value :=
  if Document.isAddress location then ws.pageDocument location else ws.fileDocument location

/-! ### The documents that references lead to -/

/-- The locations that the references in a document at `base` name. -/
def locationsFrom (o : ResolveOptions) (base : Option String) (doc : Value) : List String :=
  (Reference.refTexts doc).filterMap fun ref =>
    match Reference.split o base ref with
    | .ok t => t.location
    | .error _ => none

/-- Loads the documents at the wanted locations, then those that these refer to, and so on for a
number of rounds. -/
def gather (ws : Workspace) (o : ResolveOptions) :
    Nat → List (String × Except LoadFailure Value) → List String →
      List (String × Except LoadFailure Value)
  | 0, known, _ => known
  | rounds + 1, known, wanted =>
    let new := wanted.eraseDups.filter fun l => (known.lookup l).isNone
    let loaded := new.map fun l => (l, ws.document l)
    if new.isEmpty then known
    else ws.gather o rounds (known ++ loaded) (loaded.flatMap fun (l, result) =>
      match result with
      | .ok doc => locationsFrom o (some l) doc
      | .error _ => [])

/-- The locations that the pages of the net name. -/
def pageLocations (ws : Workspace) (o : ResolveOptions) : List String :=
  ws.pages.flatMap fun (url, _) =>
    match ws.pageDocument url with
    | .ok doc => locationsFrom o (some url) doc
    | .error _ => []

/-- Enough rounds to gather all documents from the wanted locations on.  Each round but the last
finds a document that was not known before: a page, a file under its plain path, or one at a
location that is among the wanted ones or named by a page. -/
def rounds (ws : Workspace) (o : ResolveOptions) (wanted : List String) : Nat :=
  ws.pages.length + ws.files.files.length + (ws.pageLocations o).length + wanted.length + 1

/-- All documents that references from a document at `base` can lead to. -/
def shelf (ws : Workspace) (o : ResolveOptions) (base : Option String) (doc : Value) : Shelf :=
  let wanted := locationsFrom o (Reference.plainBase o base) doc
  ⟨if o.external then ws.gather o (ws.rounds o wanted) [] wanted else [], .fileNotFound⟩

end Workspace

end ApiAccord
