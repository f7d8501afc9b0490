/-!
# Code features

What source text shows of an interface: the paths it names, the methods it uses, the types it
declares and the parameters of its functions.  A `FeatureSet` holds what was found on one side, in
the order in which it was found.
-/

namespace ApiAccord

/-- An endpoint path found in source text. -/
structure EndpointFeature where
  path : String
  line : Int
  rawMatch : String
  /-- The name of the rule that found it. -/
  rule : Option String
  file : Option String
deriving DecidableEq, Repr

/-- An upper-case word used as an HTTP method.  It need not be one. -/
structure MethodFeature where
  method : String
  line : Int
  rawMatch : String
  /-- The name of the rule that found it. -/
  rule : Option String
  file : Option String
deriving DecidableEq, Repr

/-- A declared type name. -/
structure SchemaFeature where
  name : String
  line : Int
  file : Option String
deriving DecidableEq, Repr

/-- A declared parameter, with its type if one is given. -/
structure ParameterFeature where
  name : String
  type : Option String
  line : Int
  file : Option String
deriving DecidableEq, Repr

/-- Everything found on one side. -/
structure FeatureSet where
  endpoints : List EndpointFeature
  methods : List MethodFeature
  schemas : List SchemaFeature
  parameters : List ParameterFeature
deriving DecidableEq, Repr

namespace FeatureSet

/-- The set without features. -/
def empty : FeatureSet := ⟨[], [], [], []⟩

instance : Append FeatureSet where
  append a b :=
    ⟨a.endpoints ++ b.endpoints, a.methods ++ b.methods, a.schemas ++ b.schemas,
      a.parameters ++ b.parameters⟩

def isEmpty (fs : FeatureSet) : Bool :=
  fs.endpoints.isEmpty && fs.methods.isEmpty && fs.schemas.isEmpty && fs.parameters.isEmpty

/-- The features of several sets, in order. -/
def merge (sets : List FeatureSet) : FeatureSet := sets.foldl (· ++ ·) empty

/-- The same features, said to come from a file. -/
def inFile (file : String) (fs : FeatureSet) : FeatureSet where
  endpoints := fs.endpoints.map fun f => { f with file := some file }
  methods := fs.methods.map fun f => { f with file := some file }
  schemas := fs.schemas.map fun f => { f with file := some file }
  parameters := fs.parameters.map fun f => { f with file := some file }

end FeatureSet

/-- Parameters that belong to a framework and not to the interface. -/
def plumbingParameters : List String :=
  ["self", "cls", "req", "res", "next", "request", "response", "ctx", "context", "event", "e",
    "err", "error"]

end ApiAccord
