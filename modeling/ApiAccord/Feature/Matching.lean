import ApiAccord.Feature.Basic
import ApiAccord.Feature.Rules
import ApiAccord.Text.Basic
import ApiAccord.Text.Case
import ApiAccord.Text.LineIndex

/-!
# Features by pattern

`FeatureSet.ofPatterns` finds the features of source text in any language by running the patterns of
`ApiAccord.Rules` over it.  Each finding is anchored at an offset of the text, from which its line
is computed, and findings that agree in text and offset count once.
-/

namespace ApiAccord

/-- How features are looked for. -/
structure ExtractionConfig where
  /-- Quoted texts that begin with one of these are endpoints. -/
  apiPrefixes : List String
  /-- Longer texts are not analysed. -/
  maxInputChars : Int
  /-- Whether only the methods of HTTP are taken for methods of a call. -/
  strictMethods : Bool
deriving Repr

namespace Matching

/-- Keeps the first of several findings with the same key. -/
def dedupBy {α κ : Type} [BEq κ] (key : α → κ) : (seen : List κ) → List α → List α
  | _, [] => []
  | seen, x :: xs =>
    if seen.contains (key x) then dedupBy key seen xs else x :: dedupBy key (key x :: seen) xs

/-! ### Endpoints -/

/-- A path, the offset and text of the match that showed it. -/
structure Site where
  value : String
  offset : Nat
  raw : String

/-- The paths that one pattern shows: those that begin with a slash. -/
def endpointSites (text : Array Char) (p : Pattern) : List Site :=
  (p.allMatches text).filterMap fun m => do
    let value := Text.trim (← m.groupText? text 1)
    if Text.startsWith "/" value then some ⟨value, m.start, m.text text⟩ else none

/-- The endpoints that one rule finds. -/
def endpointsBy (text : Array Char) (index : Text.LineIndex) (rule : String × List Pattern) :
    List EndpointFeature :=
  let sites := rule.2.flatMap (endpointSites text)
  (dedupBy (fun s => (s.value, s.offset)) [] sites).map fun s =>
    ⟨s.value, index.lineOf s.offset, s.raw, some rule.1, none⟩

/-- The endpoints of a text. -/
def endpoints (cfg : ExtractionConfig) (text : Array Char) : List EndpointFeature :=
  let index := Text.LineIndex.ofText text.toList
  (Rules.endpointRules cfg.apiPrefixes).flatMap (endpointsBy text index)

/-! ### Methods -/

/-- A word used as a method, with the rule that found it. -/
structure Candidate where
  rule : String
  token : String
  offset : Nat
  raw : String

/-- The words that a pattern shows, at the offsets of its matches. -/
def candidatesOf (rule : String) (text : Array Char) (p : Pattern) : List Candidate :=
  (p.allMatches text).filterMap fun m => do
    let token ← m.groupText? text 1
    return ⟨rule, token, m.start, m.text text⟩

/-- The quoted methods in the lists that a text assigns to `methods`. -/
def listedMethods (text : Array Char) : List Candidate :=
  (Rules.methodList.allMatches text).flatMap fun m =>
    match m.group? 1 with
    | none => []
    | some (start, stop) =>
      (candidatesOf "config-method" (text.extract start stop) Rules.quotedVerb).map fun c =>
        { c with offset := start + c.offset, raw := m.text text }

/-- Everything in a text that may be a method. -/
def candidates (cfg : ExtractionConfig) (text : Array Char) : List Candidate :=
  candidatesOf "verb-call" text Rules.verbCall ++
    (if cfg.strictMethods then [] else candidatesOf "any-call" text Rules.anyCall) ++
    candidatesOf "annotation" text Rules.methodMark ++
    candidatesOf "annotation" text Rules.requestMethod ++
    candidatesOf "config-method" text Rules.configMethod ++ listedMethods text

/-- The methods of a text. -/
def methods (cfg : ExtractionConfig) (text : Array Char) : List MethodFeature :=
  let index := Text.LineIndex.ofText text.toList
  let found := (candidates cfg text).map fun c => { c with token := Text.upper c.token }
  (dedupBy (fun c => (c.token, c.offset)) [] found).map fun c =>
    ⟨c.token, index.lineOf c.offset, c.raw, some c.rule, none⟩

/-! ### Types -/

/-- The names that a pattern shows, with their offsets. -/
def namesBy (text : Array Char) (p : Pattern) : List (String × Nat) :=
  (p.allMatches text).filterMap fun m => do
    let (start, _) ← m.group? 1
    return (← m.groupText? text 1, start)

/-- The type names that a text declares. -/
def schemas (text : Array Char) : List SchemaFeature :=
  let index := Text.LineIndex.ofText text.toList
  (dedupBy id [] (Rules.schemaRules.flatMap (namesBy text))).map fun (name, offset) =>
    ⟨name, index.lineOf offset, none⟩

/-! ### Parameters -/

def opensBracket (c : Char) : Bool := c == '<' || c == '[' || c == '\x7b' || c == '('
def closesBracket (c : Char) : Bool := c == '>' || c == ']' || c == '\x7d' || c == ')'

/-- The bracket depth after a character; a closing bracket too many is passed over. -/
def depthAfter (depth : Nat) (c : Char) : Nat :=
  if opensBracket c then depth + 1
  else if closesBracket c then depth - 1
  else depth

/-- The piece of a parameter list, given backwards, that begins at `start`; nothing if it is
blank. -/
def piece? (reversed : List Char) (start : Nat) : Option (List Char × Nat) :=
  let cs := reversed.reverse
  let blanks := (cs.takeWhile Text.isBlank).length
  let trimmed := Text.Chars.trimBy Text.isBlank cs
  if trimmed.isEmpty then none else some (trimmed, start + blanks)

/-- Splits what is left of a parameter list, of which `reversed` was read since the comma before
`start`. -/
def splitFrom (depth start : Nat) (reversed : List Char) : List Char → List (List Char × Nat)
  | [] => if depth == 0 then (piece? reversed start).toList else []
  | c :: rest =>
    if c == ',' && depth == 0 then
      (piece? reversed start).toList ++ splitFrom 0 (start + reversed.length + 1) [] rest
    else splitFrom (depthAfter depth c) start (c :: reversed) rest

/-- Splits a parameter list at the commas outside of brackets, into trimmed pieces with their
offsets. -/
def splitParameters (params : List Char) (base : Nat) : List (List Char × Nat) :=
  splitFrom 0 base [] params

/-- What stands before the first equals sign outside of brackets that is not part of an arrow. -/
def beforeDefault? (depth : Nat) : List Char → Option (List Char)
  | [] => none
  | c :: rest =>
    if c == '=' && depth == 0 && rest.head? != some '>' then some []
    else (beforeDefault? (depthAfter depth c) rest).map (c :: ·)

/-- A parameter without its default value. -/
def dropDefault (piece : List Char) : List Char :=
  match beforeDefault? 0 piece with
  | some cs => Text.Chars.dropEndWhile Text.isBlank cs
  | none => piece

/-- A declared parameter with its offset. -/
structure Declared where
  name : String
  type : Option String
  offset : Nat

/-- The type, trimmed, unless nothing is left of it. -/
def typeOf (type : Option String) : Option String :=
  match type.map Text.trim with
  | some "" => none
  | t => t

/-- The parameters of the signatures that a pattern matches. -/
def signatureParameters (text : Array Char) (p : Pattern) : List Declared :=
  (p.allMatches text).flatMap fun m =>
    match m.group? 1 with
    | none => []
    | some (start, stop) =>
      (splitParameters (text.extract start stop).toList start).filterMap fun (piece, offset) => do
        let decl := (dropDefault piece).toArray
        let m ← Rules.parameterDeclaration.matchAt decl 0
        return ⟨← m.groupText? decl 1, typeOf (m.groupText? decl 2), offset⟩

/-- The parameters that carry an annotation. -/
def annotatedParameters (text : Array Char) : List Declared :=
  (Rules.annotatedParameter.allMatches text).filterMap fun m => do
    let (start, _) ← m.group? 2
    return ⟨← m.groupText? text 2, (m.groupText? text 1).map Text.trim, start⟩

/-- The parameters read from a request. -/
def accessedParameters (text : Array Char) (p : Pattern) : List Declared :=
  (namesBy text p).map fun (name, offset) => ⟨name, none, offset⟩

/-- The parameters of a text. -/
def parameters (text : Array Char) : List ParameterFeature :=
  let index := Text.LineIndex.ofText text.toList
  let found := Rules.signatureRules.flatMap (signatureParameters text) ++
    annotatedParameters text ++ Rules.accessorRules.flatMap (accessedParameters text)
  let named := found.filter fun d => !plumbingParameters.contains d.name
  (dedupBy (fun d => (d.name, d.offset)) [] named).map fun d =>
    ⟨d.name, d.type, index.lineOf d.offset, none⟩

end Matching

/-- The features that the patterns find in a text. -/
def FeatureSet.ofPatterns (cfg : ExtractionConfig) (text : Array Char) : FeatureSet :=
  ⟨Matching.endpoints cfg text, Matching.methods cfg text, Matching.schemas text,
    Matching.parameters text⟩

end ApiAccord
