import ApiAccord.Pattern.Basic

/-!
# Rules for source text

The patterns by which features are recognised in source text of any language: quoted paths, calls,
annotations, configuration fields, type declarations, and parameter lists.  Group 1 of a pattern is
what the rule finds; where there is a group 2, it is a type or a name beside it.
-/

namespace ApiAccord.Rules

open Pattern

/-! ### Parts -/

def anyQuote : Pattern := oneOf "'\"`"

def quote : Pattern := oneOf "'\""

/-- A class of the characters of identifiers, the dollar sign included. -/
def nameRest : Pattern := .char (.either .word (.one '$'))

def nameStart : Pattern := .char (.either .letter (.anyOf "_$"))

/-- A declared name. -/
def declaredName : Pattern := group 1 (nameStart ++ .star nameRest)

/-- The methods of HTTP that interfaces use. -/
def verbs : List String := ["GET", "POST", "PUT", "DELETE", "PATCH", "HEAD", "OPTIONS"]

def verb : Pattern := firstOf (verbs.map text)

def verbAnyCase : Pattern := firstOf (verbs.map anyCaseText)

/-- A path between quotes of any kind, on one line. -/
def quotedPath : Pattern :=
  anyQuote ++ group 1 (upTo 1 512 (.char (.noneOf "'\"`\n"))) ++ anyQuote

/-- A path between single or double quotes, on one line. -/
def plainQuotedPath : Pattern :=
  quote ++ group 1 (upTo 1 512 (.char (.noneOf "'\"\n"))) ++ quote

def openCall : Pattern := blanks ++ oneOf "(" ++ blanks

/-! ### Endpoints -/

/-- A quoted text that begins with one of the given texts. -/
def quotedLiteral (heads : List String) : Pattern :=
  anyQuote ++
    group 1 (firstOf (heads.map text) ++
      upTo 0 512 (.char (.not (.either (.anyOf "'\"`") .blank)))) ++
    anyQuote

/-- `.name('/path'` -/
def callRoute : Pattern := oneOf "." ++ aWord ++ openCall ++ quotedPath

/-- `route('/path'` -/
def routeCall : Pattern := .wordEdge ++ text "route" ++ openCall ++ quotedPath

/-- `path: '/x'` or `url: '/x'` -/
def configPath : Pattern :=
  .wordEdge ++ firstOf [text "path", text "url"] ++ blanks ++ oneOf ":" ++ blanks ++ quotedPath

/-- `@GetMapping("/x")`, with `value=` or `path=` and a brace before the path if so written. -/
def mappingMark : Pattern :=
  oneOf "@" ++ firstOf (["Request", "Get", "Post", "Put", "Delete", "Patch"].map text) ++
    text "Mapping" ++ openCall ++
    opt (firstOf [text "value", text "path"] ++ blanks ++ oneOf "=" ++ blanks) ++
    opt (oneOf "\x7b") ++ blanks ++ plainQuotedPath

/-- `@Get('/x')` -/
def verbAnnotation : Pattern :=
  oneOf "@" ++
    firstOf (["Get", "Post", "Put", "Delete", "Patch", "Head", "Options", "All",
      "Controller"].map text) ++
    openCall ++ plainQuotedPath

/-- The rules for endpoints with their names; `heads` are the texts with which a quoted literal
begins. -/
def endpointRules (heads : List String) : List (String × List Pattern) :=
  let heads := heads.filter (· != "")
  (if heads.isEmpty then [] else [("quoted-literal", [quotedLiteral heads])]) ++
    [("call-route", [callRoute]), ("route-call", [routeCall]), ("config-path", [configPath]),
      ("annotation", [mappingMark, verbAnnotation])]

/-! ### Methods -/

/-- `.get(` -/
def verbCall : Pattern := oneOf "." ++ group 1 verbAnyCase ++ blanks ++ oneOf "("

/-- `.anything(` -/
def anyCall : Pattern := oneOf "." ++ group 1 aWord ++ blanks ++ oneOf "("

/-- `@GET`, `@PostMapping` -/
def methodMark : Pattern :=
  oneOf "@" ++ group 1 verbAnyCase ++ opt (anyCaseText "Mapping") ++ .wordEdge

/-- `RequestMethod.PUT` -/
def requestMethod : Pattern :=
  .wordEdge ++ text "RequestMethod." ++ group 1 verb ++ .wordEdge

/-- `method: 'POST'` -/
def configMethod : Pattern :=
  .wordEdge ++ anyCaseText "method" ++ blanks ++ oneOf ":" ++ blanks ++ anyQuote ++
    group 1 verbAnyCase ++ anyQuote

/-- `methods=["GET"]`, up to 256 characters between the brackets. -/
def methodList : Pattern :=
  .wordEdge ++ text "methods" ++ blanks ++ oneOf "=" ++ blanks ++ oneOf "[(" ++
    group 1 (upTo 0 256 (.char (.noneOf "])"))) ++ oneOf "])"

/-- `'GET'` within such a list. -/
def quotedVerb : Pattern := quote ++ group 1 verbAnyCase ++ quote

/-! ### Types -/

def interfaceDeclaration : Pattern :=
  .wordEdge ++ text "interface" ++ someBlanks ++ declaredName

/-- `type Name<T> =` -/
def typeAlias : Pattern :=
  .wordEdge ++ text "type" ++ someBlanks ++ declaredName ++
    opt (blanks ++ oneOf "<" ++ upTo 0 128 (.char (.noneOf "<=>\n")) ++ oneOf ">") ++
    blanks ++ oneOf "="

/-- `type Name struct` -/
def structDeclaration : Pattern :=
  .wordEdge ++ text "type" ++ someBlanks ++
    group 1 (.char (.either .letter (.one '_')) ++ .star (.char .word)) ++
    someBlanks ++ text "struct" ++ .wordEdge

def classDeclaration : Pattern := .wordEdge ++ text "class" ++ someBlanks ++ declaredName

def schemaRules : List Pattern :=
  [interfaceDeclaration, typeAlias, structDeclaration, classDeclaration]

/-! ### Parameters -/

/-- What stands between parentheses without others inside. -/
def parameterList : Pattern := group 1 (upTo 0 1024 (.char (.noneOf "()")))

/-- `def name(…)`, `function* name<T>(…)` -/
def functionSignature : Pattern :=
  .wordEdge ++ firstOf [text "def", text "function"] ++ blanks ++ opt (oneOf "*") ++ blanks ++
    .star nameRest ++ blanks ++
    opt (oneOf "<" ++ upTo 0 128 (.char (.noneOf "<>()\n")) ++ oneOf ">") ++
    blanks ++ oneOf "(" ++ parameterList ++ oneOf ")"

/-- `(…) =>`, `(…): Type =>` -/
def arrowSignature : Pattern :=
  oneOf "(" ++ parameterList ++ oneOf ")" ++ blanks ++
    opt (oneOf ":" ++ blanks ++ lazyUpTo 1 128 (.char (.noneOf "=;\x7b\x7d()\n"))) ++
    blanks ++ text "=>"

def signatureRules : List Pattern := [functionSignature, arrowSignature]

/-- One parameter: modifiers, dots or stars, the name, and a type after a colon. -/
def parameterDeclaration : Pattern :=
  .textStart ++
    .star (firstOf (["public", "private", "protected", "readonly"].map text) ++ someBlanks) ++
    opt (.alt (text "...") (upTo 1 2 (oneOf "*"))) ++
    declaredName ++ opt (oneOf "?") ++ blanks ++
    opt (oneOf ":" ++ blanks ++ group 2 (plus (.char .any))) ++ .textEnd

/-- `@PathVariable("x") final Type name,` with the type as group 1 and the name as group 2. -/
def annotatedParameter : Pattern :=
  oneOf "@" ++
    firstOf (["PathVariable", "RequestParam", "RequestHeader", "RequestBody"].map text) ++
    opt (blanks ++ oneOf "(" ++ upTo 0 256 (.char (.noneOf "()")) ++ oneOf ")") ++
    someBlanks ++ opt (text "final" ++ someBlanks) ++
    group 1 (lazyUpTo 1 128 (.char (.either .word (.anyOf ".<>[]?, ")))) ++
    someBlanks ++ group 2 aWord ++ blanks ++ oneOf ",)"

/-- `req.params.id`, `request.body.name` -/
def requestMember : Pattern :=
  .wordEdge ++ text "req" ++ opt (text "uest") ++ oneOf "." ++
    firstOf [text "params", text "query", text "body"] ++ oneOf "." ++ declaredName

/-- `request.args.get('name'` -/
def requestLookup : Pattern :=
  .wordEdge ++ text "request." ++
    firstOf [text "args", text "form", text "values", text "query_params"] ++ text ".get(" ++
    blanks ++ quote ++ group 1 aWord ++ quote

def accessorRules : List Pattern := [requestMember, requestLookup]

end ApiAccord.Rules
