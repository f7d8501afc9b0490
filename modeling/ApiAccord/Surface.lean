import ApiAccord.EndpointPath
import ApiAccord.Feature.Basic
import ApiAccord.Issue
import ApiAccord.Spec.Basic

/-!
# Surfaces

A `Surface` is the view of one side that a comparison works on: its distinct endpoint paths with the
methods tied to each, its type names and its parameters.  It is built from the features of code, or
from a specification.
-/

namespace ApiAccord

/-- One distinct path of a surface. -/
structure SurfaceEndpoint where
  /-- The normalized path. -/
  path : String
  /-- The methods tied to the path, in the order in which they were first seen. -/
  methods : List String
  /-- Where the path was first seen; nothing for a specification. -/
  location : Option Location
  /-- The first line that each method was seen on. -/
  methodLines : List (String × Option Int)
  /-- The forms of the path before normalization. -/
  spellings : List String
deriving DecidableEq, Repr

/-- Sets the line of a method: in place if the method has one, else at the end. -/
def setLine (method : String) (line : Option Int) :
    List (String × Option Int) → List (String × Option Int)
  | [] => [(method, line)]
  | (m, l) :: rest =>
    if m == method then (m, line) :: rest else (m, l) :: setLine method line rest

namespace SurfaceEndpoint

/-- The methods that count as regular. -/
def regularMethods (e : SurfaceEndpoint) : List String := e.methods.filter HttpMethod.isRegular

/-- Ties a method to the endpoint, unless it is already. -/
def addMethod (e : SurfaceEndpoint) (method : String) (line : Option Int) : SurfaceEndpoint :=
  if e.methods.contains method then e
  else { e with
    methods := e.methods ++ [method]
    methodLines := setLine method line e.methodLines }

/-- Notes a form of the path, unless it is already. -/
def addSpelling (e : SurfaceEndpoint) (spelling : String) : SurfaceEndpoint :=
  if e.spellings.contains spelling then e else { e with spellings := e.spellings ++ [spelling] }

end SurfaceEndpoint

/-- The comparable view of one side. -/
structure Surface where
  label : String
  endpoints : List SurfaceEndpoint
  schemas : List SchemaFeature
  parameters : List ParameterFeature
  /-- The specification that the surface was built from, if it was. -/
  spec : Option Spec

/-- One sighting of a path: how it is written, where, and the methods seen with it. -/
structure Sighting where
  spelling : String
  location : Option Location
  methods : List (String × Option Int)

/-- The normalized path that was seen. -/
def Sighting.path (s : Sighting) : String := EndpointPath.normalize s.spelling

/-- Adds what a sighting shows to an endpoint. -/
def SurfaceEndpoint.absorb (e : SurfaceEndpoint) (s : Sighting) : SurfaceEndpoint :=
  s.methods.foldl (fun e m => e.addMethod m.1 m.2) (e.addSpelling s.spelling)

/-- Adds a sighting to the endpoint with its path, or to a new one at the end. -/
def addSighting (s : Sighting) : List SurfaceEndpoint → List SurfaceEndpoint
  | [] => [(SurfaceEndpoint.mk s.path [] s.location [] []).absorb s]
  | e :: rest => if e.path == s.path then e.absorb s :: rest else e :: addSighting s rest

/-- The endpoints that sightings show, in order of first sighting. -/
def endpointsOf (sightings : List Sighting) : List SurfaceEndpoint :=
  sightings.foldl (fun es s => addSighting s es) []

/-- Method features by the file and the line that they are on. -/
abbrev MethodIndex := List ((Option String × Int) × List MethodFeature)

namespace MethodIndex

/-- Enters a method feature after those on the same line. -/
def enter (m : MethodFeature) : MethodIndex → MethodIndex
  | [] => [((m.file, m.line), [m])]
  | (key, ms) :: rest =>
    if key == (m.file, m.line) then (key, ms ++ [m]) :: rest else (key, ms) :: enter m rest

def ofMethods (ms : List MethodFeature) : MethodIndex := ms.foldl (fun index m => enter m index) []

/-- The method features on a line of a file. -/
def onLine (index : MethodIndex) (file : Option String) (line : Int) : List MethodFeature :=
  (index.lookup (file, line)).getD []

end MethodIndex

namespace Surface

/-- Method features below an endpoint's line belong to it when this rule found them. -/
def trailingRule : String := "config-method"

/-- The methods that belong to an endpoint feature: those of its line, and below it, within the
window, those of configuration fields. -/
def methodsNear (index : MethodIndex) (window : Int) (e : EndpointFeature) : List MethodFeature :=
  (List.range (window + 1).toNat).flatMap fun (offset : Nat) =>
    (index.onLine e.file (e.line + offset)).filter fun m =>
      offset == 0 || m.rule == some trailingRule

/-- The sighting that an endpoint feature is. -/
def sighting (label : String) (index : MethodIndex) (window : Int) (e : EndpointFeature) :
    Sighting where
  spelling := e.path
  location := some ⟨some label, e.file, some e.line⟩
  methods := (methodsNear index window e).map fun m => (m.method, some m.line)

/-- The surface of code with the given features. -/
def ofFeatures (label : String) (features : FeatureSet) (window : Int) : Surface where
  label := label
  endpoints :=
    let index := MethodIndex.ofMethods features.methods
    endpointsOf (features.endpoints.map (sighting label index window))
  schemas := features.schemas
  parameters := features.parameters
  spec := none

/-- How far below an endpoint a configuration field may name its method. -/
def defaultWindow : Int := 3

/-- The surface of a specification. -/
def ofSpec (label : String) (spec : Spec) : Surface where
  label := label
  endpoints := endpointsOf (spec.operations.map fun op =>
    ⟨op.path, none, [(op.method.token, none)]⟩)
  schemas := []
  parameters := []
  spec := some spec

def isSpec (s : Surface) : Bool := s.spec.isSome

def paths (s : Surface) : List String := s.endpoints.map (·.path)

/-- The first endpoint equivalent to a path. -/
def find (s : Surface) (path : String) : Option SurfaceEndpoint :=
  s.endpoints.find? fun e => EndpointPath.equivalent e.path path

/-- The names of the parameters that a side declares. -/
def parameterNames (s : Surface) : List String :=
  match s.spec with
  | some spec => (spec.operations.flatMap fun op => op.parameters.map (·.name)).eraseDups
  | none => (s.parameters.map (·.name)).eraseDups

end Surface

end ApiAccord
