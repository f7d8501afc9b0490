import ApiAccord.Yaml.Tag
import ApiAccord.Yaml.TokenStream

/-!
# Nodes of YAML

A document is a tree of nodes: scalars, sequences and mappings, each with a tag, and aliases, which
stand for a node that was given a name before.  `Node.ofTokens` builds the tree of the one document
that a text may hold.
-/

namespace ApiAccord.Yaml

inductive Node where
  | scalar (tag : Tag) (text : String)
  | seq (tag : Tag) (items : List Node)
  | map (tag : Tag) (entries : List (Node × Node))
  /-- A node with a name. -/
  | anchored (name : String) (node : Node)
  | alias (name : String)
deriving Inhabited

/-! ### Reading nodes -/

/-- What is still to be read, and what was seen. -/
structure Reading where
  tokens : List Token
  /-- The heads that handles of tags stand for. -/
  handles : List (String × String)
  /-- The names given to nodes. -/
  names : List String

namespace Reading

def next (r : Reading) : Token := r.tokens.headD .streamEnd

def advance (r : Reading) : Reading := { r with tokens := r.tokens.drop 1 }

/-- The fault where no token fits. -/
def refuse {α : Type} (r : Reading) : Except Fault α :=
  match r.next with
  | .fault f => .error f
  | _ => .error .illFormed

/-- Whether the next token is one of several. -/
def sees (r : Reading) (ts : List Token) : Bool := ts.contains r.next

end Reading

/-- The node of an empty scalar. -/
def Node.empty : Node := .scalar .null ""

/-- The anchor and tag before a node. -/
structure Properties where
  anchor : Option String
  tag : Option WrittenTag

/-- Takes the properties before a node, in either order. -/
def takeProperties (r : Reading) : Properties × Reading :=
  match r.tokens with
  | .anchor a :: .tag t :: rest => (⟨some a, some t⟩, { r with tokens := rest })
  | .tag t :: .anchor a :: rest => (⟨some a, some t⟩, { r with tokens := rest })
  | .anchor a :: rest => (⟨some a, none⟩, { r with tokens := rest })
  | .tag t :: rest => (⟨none, some t⟩, { r with tokens := rest })
  | _ => (⟨none, none⟩, r)

/-- The full name of a tag; nothing for none, or for the tag that leaves the kind open. -/
def fullName (r : Reading) : Option WrittenTag → Except Fault (Option String)
  | none => .ok none
  | some t =>
    match t.handle with
    | none => .ok (some t.suffix)
    | some h =>
      match r.handles.lookup h with
      | some head => .ok (some (head ++ t.suffix))
      | none => illFormed

/-- The tag of a scalar. -/
def scalarTag (name : Option String) (text : String) (plain : Bool) : Tag :=
  match name with
  | some "!" => .ofPlain text
  | some name => .ofName name
  | none => if plain then .ofPlain text else .str

/-- The tag of a collection. -/
def collectionTag (name : Option String) (default : Tag) : Tag :=
  match name with
  | none | some "!" => default
  | some name => .ofName name

/-- Gives a node its name, if it has one. -/
def Properties.anchoring (p : Properties) (n : Node) : Node :=
  match p.anchor with
  | some a => .anchored a n
  | none => n

/-- Notes the name of a node, which must be new. -/
def noteName (p : Properties) (r : Reading) : Except Fault Reading :=
  match p.anchor with
  | none => .ok r
  | some a => if r.names.contains a then illFormed else .ok { r with names := a :: r.names }

/-- The empty scalar that properties without anything after them stand for. -/
def readEmpty (p : Properties) (name : Option String) (r : Reading) :
    Except Fault (Node × Reading) :=
  if p.anchor.isSome || p.tag.isSome then .ok (.scalar (scalarTag name "" true) "", r)
  else r.refuse

mutual

/-- Reads a node.  `block` says whether blocks may come, and `bare` whether the entries of a
sequence may come without a block of their own. -/
def readNode : Nat → (block bare : Bool) → Reading → Except Fault (Node × Reading)
  | 0, _, _, r => r.refuse
  | fuel + 1, block, bare, r => do
    if let .alias name := r.next then
      if r.names.contains name then return (.alias name, r.advance) else illFormed
    let (p, r') := takeProperties r
    let name ← fullName r p.tag
    let r ← noteName p r'
    let (node, r) ← match r.next with
      | .scalar text plain => pure (.scalar (scalarTag name text plain) text, r.advance)
      | .flowSequenceStart => do
        let (items, r) ← readFlowItems fuel true r.advance
        pure (.seq (collectionTag name .seq) items, r)
      | .flowMappingStart => do
        let (entries, r) ← readFlowEntries fuel true r.advance
        pure (.map (collectionTag name .map) entries, r)
      | .blockSequenceStart =>
        if block then do
          let (items, r) ← readBlockItems fuel r.advance
          pure (.seq (collectionTag name .seq) items, r)
        else readEmpty p name r
      | .blockMappingStart =>
        if block then do
          let (entries, r) ← readBlockEntries fuel r.advance
          pure (.map (collectionTag name .map) entries, r)
        else readEmpty p name r
      | .blockEntry =>
        if bare then do
          let (items, r) ← readBareItems fuel r
          pure (.seq (collectionTag name .seq) items, r)
        else readEmpty p name r
      | _ => readEmpty p name r
    return (p.anchoring node, r)

/-- Reads a node, or the empty scalar if one of some tokens comes first. -/
def readUnless (fuel : Nat) (stops : List Token) (block bare : Bool) (r : Reading) :
    Except Fault (Node × Reading) :=
  if r.sees stops then .ok (.empty, r)
  else match fuel with
    | 0 => r.refuse
    | fuel + 1 => readNode fuel block bare r

/-- The entries of a sequence in a block of its own. -/
def readBlockItems : Nat → Reading → Except Fault (List Node × Reading)
  | 0, r => r.refuse
  | fuel + 1, r => do
    match r.next with
    | .blockEntry =>
      let (n, r) ← readUnless fuel [.blockEntry, .blockEnd] true false r.advance
      let (ns, r) ← readBlockItems fuel r
      return (n :: ns, r)
    | .blockEnd => return ([], r.advance)
    | _ => r.refuse

/-- The entries of a sequence in the block around it. -/
def readBareItems : Nat → Reading → Except Fault (List Node × Reading)
  | 0, r => r.refuse
  | fuel + 1, r => do
    match r.next with
    | .blockEntry =>
      let (n, r) ← readUnless fuel [.blockEntry, .key, .value, .blockEnd] true false r.advance
      let (ns, r) ← readBareItems fuel r
      return (n :: ns, r)
    | _ => return ([], r)

/-- The value of an entry of a mapping, empty if no colon comes. -/
def readValue (fuel : Nat) (stops : List Token) (block : Bool) (r : Reading) :
    Except Fault (Node × Reading) :=
  match fuel with
  | 0 => r.refuse
  | fuel + 1 =>
    if r.next == .value then readUnless fuel stops block block r.advance else .ok (.empty, r)

/-- The entries of a mapping in a block. -/
def readBlockEntries : Nat → Reading → Except Fault (List (Node × Node) × Reading)
  | 0, r => r.refuse
  | fuel + 1, r => do
    let stops := [Token.key, .value, .blockEnd]
    match r.next with
    | .key =>
      let (k, r) ← readUnless fuel stops true true r.advance
      let (v, r) ← readValue fuel stops true r
      let (es, r) ← readBlockEntries fuel r
      return ((k, v) :: es, r)
    | .blockEnd => return ([], r.advance)
    | _ => r.refuse

/-- The items between square brackets; one may be an entry of a mapping by itself. -/
def readFlowItems : Nat → (first : Bool) → Reading → Except Fault (List Node × Reading)
  | 0, _, r => r.refuse
  | fuel + 1, first, r => do
    if r.next == .flowSequenceEnd then return ([], r.advance)
    let r ← if first then pure r else if r.next == .flowEntry then pure r.advance else r.refuse
    match r.next with
    | .key =>
      let stops := [Token.flowEntry, .flowSequenceEnd]
      let (k, r) ← readUnless fuel (.value :: stops) false false r.advance
      let (v, r) ← readValue fuel stops false r
      let (ns, r) ← readFlowItems fuel false r
      return (.map .map [(k, v)] :: ns, r)
    | .flowSequenceEnd => return ([], r.advance)
    | _ =>
      let (n, r) ← readNode fuel false false r
      let (ns, r) ← readFlowItems fuel false r
      return (n :: ns, r)

/-- The entries between curly brackets; a key may come without its indicator, and then has no
value. -/
def readFlowEntries : Nat → (first : Bool) → Reading →
    Except Fault (List (Node × Node) × Reading)
  | 0, _, r => r.refuse
  | fuel + 1, first, r => do
    if r.next == .flowMappingEnd then return ([], r.advance)
    let r ← if first then pure r else if r.next == .flowEntry then pure r.advance else r.refuse
    match r.next with
    | .key =>
      let stops := [Token.flowEntry, .flowMappingEnd]
      let (k, r) ← readUnless fuel (.value :: stops) false false r.advance
      let (v, r) ← readValue fuel stops false r
      let (es, r) ← readFlowEntries fuel false r
      return ((k, v) :: es, r)
    | .flowMappingEnd => return ([], r.advance)
    | _ =>
      let (k, r) ← readNode fuel false false r
      let (es, r) ← readFlowEntries fuel false r
      return ((k, .empty) :: es, r)

end

/-! ### Documents -/

/-- The handles that need no directive. -/
def defaultHandles : List (String × String) := [("!", "!"), ("!!", Tag.head)]

/-- Takes the directives before a document.  `version` says whether one gave a version. -/
def takeDirectives (version : Bool) (handles : List (String × String)) :
    List Token → Except Fault (List (String × String) × List Token)
  | .directive (.version major) :: rest =>
    if version || major != 1 then illFormed else takeDirectives true handles rest
  | .directive (.tagHead handle head) :: rest =>
    if (handles.lookup handle).isSome then illFormed
    else takeDirectives version (handles ++ [(handle, head)]) rest
  | .directive .other :: rest => takeDirectives version handles rest
  | tokens => .ok (handles ++ defaultHandles, tokens)

/-- The start of a document: whether its content may be missing, and what is to be read. -/
def startDocument (tokens : List Token) : Except Fault (Bool × Reading) :=
  match tokens with
  | .directive _ :: _ | .documentStart :: _ => do
    let (handles, rest) ← takeDirectives false [] tokens
    let r : Reading := ⟨rest, handles, []⟩
    if r.next == .documentStart then return (true, r.advance) else r.refuse
  | _ => .ok (false, ⟨tokens, defaultHandles, []⟩)

/-- Whether tokens say that the document has no content. -/
def endsContent : Token → Bool
  | .directive _ | .documentStart | .documentEnd | .streamEnd => true
  | _ => false

/-- The root of the only document of a text; nothing if there is no document. -/
def Node.ofTokens (tokens : List Token) : Except Fault (Option Node) := do
  if tokens.head? == some .streamEnd then return none
  let (explicit, r) ← startDocument tokens
  let (root, r) ← if explicit && endsContent r.next then pure (Node.empty, r)
    else readNode (4 * tokens.length + 4) true false r
  let left := r.tokens.dropWhile (· == .documentEnd)
  match left with
  | [.streamEnd] => return some root
  | _ => Reading.refuse (Reading.mk left r.handles r.names)

/-- The root of the only document of a text. -/
def Node.ofText (text : List Char) : Except Fault (Option Node) := Node.ofTokens (tokens text)

end ApiAccord.Yaml
