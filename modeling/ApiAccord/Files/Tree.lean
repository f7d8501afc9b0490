import ApiAccord.Failure
import ApiAccord.Files.Path

/-!
# Files

A `FileTree` holds files with their contents, and folders.  A folder is there if it was made, or if
something is in it.  `FileTree.locate?` finds out where a path leads: a step is taken only inside of
a folder, and two dots lead back to the folder above.
-/

namespace ApiAccord

/-- The content of a file, and when it was last written, in billionths of a second. -/
structure FileContent where
  bytes : List UInt8
  modified : Int
deriving DecidableEq, Repr

/-- What tells two states of a file apart: when it was written, and its size. -/
structure Fingerprint where
  modified : Int
  size : Nat
deriving DecidableEq, Repr

def FileContent.fingerprint (c : FileContent) : Fingerprint := ⟨c.modified, c.bytes.length⟩

/-- The place of a file or folder: the steps to it from the root. -/
abbrev FilePlace := List String

/-- Files and folders. -/
structure FileTree where
  files : List (FilePlace × FileContent)
  /-- The folders that were made; those above a file are there without being named. -/
  folders : List FilePlace

namespace FileTree

def empty : FileTree := ⟨[], []⟩

/-- The content of the file at a place. -/
def content? (t : FileTree) (place : FilePlace) : Option FileContent := t.files.lookup place

def hasFile (t : FileTree) (place : FilePlace) : Bool := (t.content? place).isSome

/-- Whether a folder is at a place. -/
def hasFolder (t : FileTree) (place : FilePlace) : Bool :=
  place.isEmpty || t.folders.any (place.isPrefixOf ·) ||
    t.files.any fun f => place.isPrefixOf f.1 && place.length < f.1.length

/-- Takes steps from a place; each but the first is taken from a folder. -/
def walk? (t : FileTree) (place : FilePlace) : List String → Option FilePlace
  | [] => some place
  | step :: rest =>
    if t.hasFolder place then
      t.walk? (if step == ".." then place.dropLast else place ++ [step]) rest
    else none

/-- The place that a path leads to, seen from the folder `here`, whether or not something is there.
-/
def locate? (t : FileTree) (here : FilePlace) (p : Path) : Option FilePlace :=
  t.walk? (if p.isAbsolute then [] else here) p.steps

/-- The file that a path leads to. -/
def fileAt? (t : FileTree) (here : FilePlace) (p : Path) : Option FileContent :=
  (t.locate? here p).bind t.content?

/-- The folder that a path leads to. -/
def folderAt? (t : FileTree) (here : FilePlace) (p : Path) : Option FilePlace :=
  (t.locate? here p).filter t.hasFolder

/-- Writes a file. -/
def write (t : FileTree) (place : FilePlace) (content : FileContent) : FileTree :=
  { t with files := t.files.filter (·.1 != place) ++ [(place, content)] }

/-- Removes a file; its folder stays. -/
def remove (t : FileTree) (place : FilePlace) : FileTree :=
  ⟨t.files.filter (·.1 != place), t.folders ++ [place.dropLast]⟩

/-- Makes a folder and those above it. -/
def makeFolder (t : FileTree) (place : FilePlace) : FileTree :=
  if t.hasFolder place then t else { t with folders := t.folders ++ [place] }

/-- Makes the folders that steps from a place go through, as far as they are not there, and gives
the place of the last one. -/
def makeFolders (t : FileTree) (place : FilePlace) :
    List String → Except FileProblem (FilePlace × FileTree)
  | [] => .ok (place, t)
  | step :: rest =>
    if step == ".." then t.makeFolders place.dropLast rest
    else
      let next := place ++ [step]
      if t.hasFile next then .error (if rest.isEmpty then .occupied else .notFolder)
      else (t.makeFolder next).makeFolders next rest

/-- Where a file can be written to which a path leads. -/
def target (t : FileTree) (here : FilePlace) (p : Path) : Except FileProblem FilePlace :=
  match t.locate? here p with
  | none => .error .missing
  | some place =>
    if t.hasFolder place then .error .isFolder
    else if t.hasFolder place.dropLast then .ok place
    else if t.hasFile place.dropLast then .error .notFolder
    else .error .missing

/-- The files below a place, with the steps to them from there. -/
def below (t : FileTree) (place : FilePlace) : List (List String × FileContent) :=
  t.files.filterMap fun f =>
    if place.isPrefixOf f.1 && place.length < f.1.length then
      some (f.1.drop place.length, f.2)
    else none

end FileTree

end ApiAccord
