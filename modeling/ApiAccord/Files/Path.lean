import ApiAccord.Document.Address

/-!
# Paths

A `Path` is the name of a file as it is written, in steps.  Empty steps and single dots mean nothing
and are left out; two dots stay, since where they lead depends on the files that there are.
-/

namespace ApiAccord

/-- A path in steps. -/
structure Path where
  /-- What stands before the first step: nothing for a relative path, else one or two slashes. -/
  root : String
  steps : List String
deriving DecidableEq, Repr

namespace Path

/-- The number of slashes that a text begins with. -/
def leadingSlashes (text : String) : Nat := (text.toList.takeWhile (· == '/')).length

/-- The path that a text writes.  Two leading slashes are kept, more count as one. -/
def ofText (text : String) : Path :=
  let root := match leadingSlashes text with
    | 0 => ""
    | 2 => "//"
    | _ => "/"
  ⟨root, Document.pathSteps text⟩

/-- The path of steps from the root. -/
def ofRootSteps (steps : List String) : Path := ⟨"/", steps⟩

def isAbsolute (p : Path) : Bool := p.root != ""

/-- The path as a text. -/
def text (p : Path) : String :=
  if p.root == "" && p.steps.isEmpty then "." else p.root ++ "/".intercalate p.steps

/-- The path one step further. -/
def child (p : Path) (step : String) : Path := { p with steps := p.steps ++ [step] }

/-- The path without its last step. -/
def parent (p : Path) : Path := { p with steps := p.steps.dropLast }

/-- The last step. -/
def name (p : Path) : String := (p.steps.getLast?).getD ""

/-- The end of the last step from its last dot, if there is something before and after the dot. -/
def suffix (p : Path) : String :=
  let cs := p.name.toList.reverse
  let last := cs.takeWhile (· != '.')
  let before := (cs.dropWhile (· != '.')).drop 1
  if last.isEmpty || before.isEmpty then "" else String.ofList ('.' :: last.reverse)

/-- Puts the directory `home` in place of a leading tilde.  The homes of others are not known. -/
def expandHome? (p home : Path) : Option Path :=
  match p.root, p.steps with
  | "", step :: rest =>
    if step == "~" then some { home with steps := home.steps ++ rest }
    else if Text.startsWith "~" step then none
    else some p
  | _, _ => some p

/-- The absolute path without dots, seen from the directory `here`. -/
def resolve (p here : Path) : Path :=
  ofRootSteps (Document.takeSteps (if p.isAbsolute then [] else here.steps) p.steps)

end Path

end ApiAccord
