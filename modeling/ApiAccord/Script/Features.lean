import ApiAccord.Feature.Basic
import ApiAccord.Script.Rendering
import ApiAccord.Script.Site
import ApiAccord.Script.Statement
import ApiAccord.Text.Case

/-!
# Features of Python programs

Finds the interface of a program in its syntax tree: routes that decorators of functions declare,
paths that calls of an HTTP client name, classes, and the parameters of functions.
-/

namespace ApiAccord.Script

/-- Why the features of a text cannot be told. -/
inductive Refusal where
  /-- The text is no program. -/
  | badSyntax
  /-- A text in the program, or the type of a parameter, cannot be written out. -/
  | unwritable
deriving DecidableEq, Repr

/-! ### Source text -/

/-- The lines of a text, each with what ends it. -/
def sourceLines : List Char → List (List Char)
  | [] => []
  | '\r' :: '\n' :: rest => ['\r', '\n'] :: sourceLines rest
  | c :: rest =>
    if c == '\r' || c == '\n' then [c] :: sourceLines rest
    else match sourceLines rest with
      | [] => [[c]]
      | line :: lines => (c :: line) :: lines

/-- The characters within the first `n` bytes. -/
def takeBytes (n : Nat) : List Char → List Char
  | [] => []
  | c :: rest => if n < c.utf8Size then [] else c :: takeBytes (n - c.utf8Size) rest

/-- The characters after the first `n` bytes. -/
def dropBytes (n : Nat) : List Char → List Char
  | [] => []
  | c :: rest => if n < c.utf8Size then c :: rest else dropBytes (n - c.utf8Size) rest

/-- The part of a text that a span covers. -/
def Span.cut (s : Span) (lines : Array (List Char)) : String :=
  let line (n : Nat) : List Char := (lines[n - 1]?).getD []
  String.ofList <|
    if s.start.line == s.stop.line then
      dropBytes s.start.column (takeBytes s.stop.column (line s.start.line))
    else
      let between := (List.range (s.stop.line - s.start.line - 1)).flatMap fun i =>
        line (s.start.line + 1 + i)
      dropBytes s.start.column (line s.start.line) ++ between ++
        takeBytes s.stop.column (line s.stop.line)

/-! ### Paths -/

def slash : Nat := '/'.toNat

/-- Writes every two slashes that stand together as one, from left to right. -/
def halveSlashes (path : Codes) : Codes := Text.Chars.replacePair slash slash [slash] path

/-- Writes two slashes as one, again and again until no two stand together. -/
def collapseSlashes (path : Codes) : Codes :=
  if _ : Text.Chars.occursIn [slash, slash] path then collapseSlashes (halveSlashes path) else path
termination_by path.length
decreasing_by exact Text.Chars.length_replacePair_lt (by decide) (Text.Chars.occursIn_iff.1 ‹_›)

/-- A path below the path of a router, if that is not empty. -/
def joinPaths (router path : Codes) : Codes :=
  if router.isEmpty then path
  else (router.reverse.dropWhile (· == slash)).reverse ++ slash :: path.dropWhile (· == slash)

/-- The path of a route below the path of its router. -/
def routePath (router path : Codes) : Codes := collapseSlashes (joinPaths router path)

/-- Whether a path begins with a slash. -/
def isRooted (path : Codes) : Bool := path.head? == some slash

/-! ### Routers -/

/-- The text that an expression writes out. -/
def Expr.codes? : Expr → Option Codes
  | .constant (.text codes _) => some codes
  | _ => none

/-- The paths of routers by their names. -/
abbrev Routers := List (String × Codes)

/-- The path that an argument gives to a router, the first if several do. -/
def routerPath? (keywords : List Keyword) : Option Codes :=
  keywords.findSome? fun k =>
    if k.name == some "prefix" || k.name == some "url_prefix" then k.value.codes? else none

/-- The router that a site creates, with its path. -/
def Site.createdRouter? : Site → Option (String × Codes)
  | .assign [.name id] (.call (.name maker) _ keywords _)
  | .assign [.name id] (.call (.attribute _ maker) _ keywords _) =>
    if ["APIRouter", "Router", "Blueprint"].contains maker then
      (routerPath? keywords).map fun path => (id, path)
    else none
  | _ => none

/-- The router that a site includes in another, with the path that it gets there. -/
def Site.includedRouter? : Site → Option (String × Codes)
  | .expression (.call (.attribute _ attr) (.name id :: _) keywords _) =>
    if attr == "include_router" || attr == "register_blueprint" then
      (routerPath? keywords).map fun path => (id, path)
    else none
  | _ => none

/-- The paths of the routers of a program.  What is said last about a router holds, and the path
under which it is included goes before its own. -/
def Routers.ofSites (sites : List Site) : Routers :=
  (sites.filterMap Site.includedRouter?).reverse ++ (sites.filterMap Site.createdRouter?).reverse

/-- The path of the router that an expression names. -/
def Routers.pathOf (routers : Routers) : Expr → Codes
  | .name id => (routers.lookup id).getD []
  | _ => []

/-! ### Routes -/

/-- The attributes that stand for the methods of HTTP. -/
def verbNames : List String := ["get", "post", "put", "patch", "delete", "head", "options"]

/-- A path with the methods that are used for it. -/
structure Route where
  path : Codes
  methods : List Codes
  span : Span
  /-- How the route was found. -/
  rule : String

/-- The methods that a decorator lists.  Of several lists the last counts. -/
def listedMethods (keywords : List Keyword) : List Codes :=
  keywords.foldl (fun methods k =>
    match k.name, k.value with
    | some "methods", .list items
    | some "methods", .tuple items
    | some "methods", .set items =>
      items.filterMap fun e => e.codes?.filter fun codes => !codes.isEmpty
    | _, _ => methods) [Codes.ofChars "get".toList]

/-- The route that a decorator declares. -/
def Call.declared? (routers : Routers) (c : Call) : Option Route :=
  match c.function, c.arguments.head?.bind Expr.codes? with
  | .attribute router attr, some path =>
    let route (methods : List Codes) : Option Route :=
      some ⟨routePath (routers.pathOf router) path, methods, c.span, "decorator"⟩
    if verbNames.contains attr then route [Codes.ofChars attr.toList]
    else if attr == "route" || attr == "api_route" then route (listedMethods c.keywords)
    else none
  | _, _ => none

/-- The route that a call of an HTTP client uses. -/
def Call.used? (c : Call) : Option Route :=
  let route (path method : Codes) : Option Route :=
    if isRooted path then some ⟨path, [method], c.span, "client-call"⟩ else none
  match c.function, c.arguments with
  | .attribute _ attr, first :: rest =>
    if verbNames.contains attr then
      first.codes?.bind fun path => route path (Codes.ofChars attr.toList)
    else if attr == "request" then do
      let verb ← first.codes?
      let path ← rest.head?.bind Expr.codes?
      let name ← verb.text?
      if verbNames.contains (Text.lower name) then route path verb else none
    else none
  | _, _ => none

/-- The route at a site. -/
def Site.route? (routers : Routers) : Site → Option Route
  | .decorator c => (c.declared? routers).or c.used?
  | .call c => c.used?
  | _ => none

/-- The routes of a program from its beginning to its end.  Of two that begin at one place, one that
is declared comes before one that is used, and one that is nested less deeply before the other. -/
def routes (sites : List Site) : List Route :=
  let found := sites.filterMap (Site.route? (Routers.ofSites sites))
  let (declared, used) := found.partition fun r => r.rule == "decorator"
  (declared ++ used).mergeSort fun a b => !b.span.start.before a.span.start

/-! ### Features -/

/-- The text of code points, which may have none. -/
def Codes.textOrRefuse (codes : Codes) : Except Refusal String :=
  match codes.text? with
  | some s => .ok s
  | none => .error .unwritable

def endpointFeature (lines : Array (List Char)) (r : Route) : Except Refusal EndpointFeature := do
  return ⟨← r.path.textOrRefuse, r.span.start.line, r.span.cut lines, some r.rule, none⟩

def methodFeatures (lines : Array (List Char)) (r : Route) : Except Refusal (List MethodFeature) :=
  r.methods.mapM fun codes => do
    let name ← codes.textOrRefuse
    return ⟨Text.upper name, r.span.start.line, r.span.cut lines, some r.rule, none⟩

def Site.schema? : Site → Option SchemaFeature
  | .class name line => some ⟨name, line, none⟩
  | _ => none

def parameterFeature (p : Parameter) : Except Refusal ParameterFeature :=
  match p.type? with
  | none => .ok ⟨p.name, none, p.line, none⟩
  | some e =>
    match e.text? with
    | some type => .ok ⟨p.name, some type, p.line, none⟩
    | none => .error .unwritable

/-- The parameters of the function at a site, less those that belong to a framework. -/
def Site.parameters : Site → List Parameter
  | .function ps => ps.all.filter fun p => !plumbingParameters.contains p.name
  | _ => []

/-- The features of a program, each kind from the beginning to the end. -/
def featuresOf (program : Program) (lines : Array (List Char)) : Except Refusal FeatureSet := do
  let sites := Program.sites program
  let routes := routes sites
  let endpoints ← routes.mapM (endpointFeature lines)
  let methods ← routes.mapM (methodFeatures lines)
  let schemas := sites.filterMap Site.schema?
  let parameters ← (sites.flatMap Site.parameters).mapM parameterFeature
  return ⟨endpoints, methods.flatten, schemas.mergeSort fun a b => a.line ≤ b.line,
    parameters.mergeSort fun a b => a.line ≤ b.line⟩

/-- The features of a text. -/
def features (text : String) : Except Refusal FeatureSet :=
  match Program.ofText? text.toList with
  | none => .error .badSyntax
  | some program => featuresOf program (sourceLines text.toList).toArray

end ApiAccord.Script
