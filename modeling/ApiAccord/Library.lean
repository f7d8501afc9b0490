import ApiAccord.Document.Structure
import ApiAccord.Noted
import ApiAccord.Spec.Loading
import ApiAccord.Workspace

/-!
# Loading specifications

A `Library` is a workspace with a store of the specifications loaded so far.  `Library.load` takes a
specification from the store if its file and the options are as they were, and else loads it anew.
`Library.validate` checks a document by itself.
-/

namespace ApiAccord

/-- Where a specification comes from. -/
inductive SpecSource where
  | document (doc : Value)
  /-- A path, an address, or a hyphen for the input. -/
  | location (text : String)

/-- The source that a value stands for: a mapping is a document, all else names a location. -/
def SpecSource.ofValue : Value → SpecSource
  | .map ms => .document (.map ms)
  | v => .location v.display

/-- A workspace with a store. -/
structure Library where
  workspace : Workspace
  /-- The store, unless storing is off. -/
  store : Option (Store StoredSpec)

namespace Library

/-- The specification that a document at `base` declares. -/
def specOf (ws : Workspace) (o : LoadOptions) (base : Option String) (doc : Value) : Noted Spec :=
  Spec.ofAnyDocument o ws.here.text ws.shelf base doc

/-- What can still be read from the input, which is used up by that. -/
def readInput (ws : Workspace) : String × Workspace := (ws.input, { ws with input := "" })

/-- The document that is typed in. -/
def inputDocument (text : String) : Except LoadFailure Value :=
  if Text.isBlankText text then .error (.load .emptyInput) else Document.ofText .none text

/-- The document at a location, or from the input. -/
def document (location : String) : Task Workspace Value := do
  if location == "-" then
    let text ← Task.take readInput
    Task.ofExcept ((inputDocument text).mapError Failure.ofLoad)
  else
    let result ← Task.look (·.document location)
    Task.ofExcept (result.mapError Failure.ofLoad)

/-- Does a task in the workspace of a library. -/
def inWorkspace {α : Type} (t : Task Workspace α) : Task Library α :=
  t.onPart (·.workspace) fun ws lib => { lib with workspace := ws }

/-- Looks a specification up in the store. -/
def lookUp (lib : Library) (key : String) : Option StoredSpec × Library :=
  match lib.store with
  | some s =>
    let (found, s) := s.get key
    (found, { lib with store := some s })
  | none => (none, lib)

/-- Keeps a specification in the store. -/
def keep (lib : Library) (key : String) (entry : StoredSpec) : Library :=
  { lib with store := lib.store.map (·.set key entry) }

/-- Whether a stored specification is what loading would give. -/
def isCurrent (o : LoadOptions) (fingerprint : Fingerprint) (entry : StoredSpec) : Bool :=
  entry.fingerprint == fingerprint && entry.stamp == o.stamp

/-- The stored specification of a file, if it may be used. -/
def stored? (o : LoadOptions) (key : String) (fingerprint : Option Fingerprint) :
    Task Library (Option Spec) :=
  match fingerprint with
  | some f => do
    if o.fresh then return none
    let found ← Task.take (lookUp · key)
    return (found.filter (isCurrent o f)).map (·.spec)
  | none => return none

/-- Reads the specification in a file, and keeps it if the file has a state. -/
def readFile (o : LoadOptions) (key : String) (path : Path) (fingerprint : Option Fingerprint) :
    Task Library Spec := do
  let ws ← Task.look (·.workspace)
  let doc ← inWorkspace (document path.text)
  let spec ← Task.ofNoted (specOf ws o (some key) doc)
  match fingerprint with
  | some f => Task.change fun lib => lib.keep key ⟨spec, f, o.stamp⟩
  | none => pure ()
  return spec

/-- Loads the specification in a file, by way of the store. -/
def loadFile (o : LoadOptions) (location : String) : Task Library Spec := do
  let ws ← Task.look (·.workspace)
  match (Path.ofText location).expandHome? ws.home with
  | none => Task.fail .unknownHome
  | some path =>
    let key := (ws.resolve path).text
    let fingerprint := ws.fingerprint? path
    match ← stored? o key fingerprint with
    | some spec => return spec
    | none => readFile o key path fingerprint

/-- Loads a specification.  Only files are stored. -/
def load (o : LoadOptions) : SpecSource → Task Library Spec
  | .document doc => do
    let ws ← Task.look (·.workspace)
    Task.ofNoted (specOf ws o none doc)
  | .location location =>
    if location == "-" || Document.isAddress location then do
      let doc ← inWorkspace (document location)
      let ws ← Task.look (·.workspace)
      Task.ofNoted (specOf ws o (if location == "-" then none else some location) doc)
    else loadFile o location

/-- Validates the structure of a document.  One that comes from a location and is well-formed is
also loaded, which brings faults of its references to light. -/
def validate (s : Settings) (o : CheckOptions) : SpecSource → Task Library Validation
  | .document doc => Task.ofExcept (Failure.liftShape (checkStructure o doc))
  | .location location => do
    let doc ← inWorkspace (document location)
    let result ← Task.ofExcept (Failure.liftShape (checkStructure o doc))
    if result.valid then
      let source := if location == "-" then .document doc else .location location
      let _ ← load { s.loading with fresh := true } source
    return result

/-- Drops everything from the store. -/
def forget (lib : Library) : Library := { lib with store := lib.store.map Store.clear }

/-- What can be said about the store. -/
def stats (lib : Library) : Value :=
  match lib.store with
  | none => .ofNamed [("enabled", .bool false)]
  | some s => .ofNamed (("enabled", .bool true) :: s.stats)

end Library

end ApiAccord
