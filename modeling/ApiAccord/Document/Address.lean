import ApiAccord.Text.Basic
import ApiAccord.Text.Case
import ApiAccord.Value.Basic

/-!
# Addresses of documents

A document is found under the absolute path of a file or under a web address.  `absolutePath` makes
a path absolute and plain, and `joinAddress` resolves a relative address against that of the
document which contains it.
-/

namespace ApiAccord.Document

/-- Whether a location is a web address. -/
def isAddress (location : String) : Bool :=
  Text.startsWith "http://" location || Text.startsWith "https://" location

/-! ### File paths -/

/-- The steps of a path, empty ones and single dots left out. -/
def pathSteps (path : String) : List String :=
  (Text.splitOn '/' path).filter fun s => s != "" && s != "."

/-- Takes steps one after another; two dots lead back, from the root to itself. -/
def takeSteps (done : List String) : List String → List String
  | [] => done
  | s :: rest => if s == ".." then takeSteps done.dropLast rest else takeSteps (done ++ [s]) rest

/-- The plain path of these steps from the root. -/
def ofSteps (steps : List String) : String := "/" ++ "/".intercalate steps

/-- The path without dots, seen from the directory `home`. -/
def absolutePath (home path : String) : String :=
  if Text.startsWith "/" path then ofSteps (takeSteps [] (pathSteps path))
  else ofSteps (takeSteps (takeSteps [] (pathSteps home)) (pathSteps path))

/-- The directory of an absolute plain path. -/
def directory (path : String) : String := ofSteps (pathSteps path).dropLast

/-! ### Web addresses -/

/-- The parts of an address. -/
structure Address where
  scheme : String
  host : String
  path : String
  params : String
  query : String
  fragment : String

/-- Whether schemes of this name have relative addresses. -/
def hasRelative (scheme : String) : Bool :=
  ["", "ftp", "http", "gopher", "nntp", "imap", "wais", "file", "https", "shttp", "mms", "prospero",
    "rtsp", "rtsps", "rtspu", "sftp", "svn", "svn+ssh", "ws", "wss"].contains scheme

/-- Whether a path of this scheme may end in parameters after a semicolon. -/
def hasParams (scheme : String) : Bool :=
  ["", "ftp", "hdl", "prospero", "http", "imap", "https", "shttp", "rtsp", "rtsps", "rtspu", "sip",
    "sips", "mms", "sftp", "tel"].contains scheme

def isSchemeChar (c : Char) : Bool := c.isAlphanum || c == '+' || c == '-' || c == '.'

/-- Splits off the scheme, if there is one. -/
def splitScheme (default : String) (cs : List Char) : String × List Char :=
  match Text.Chars.splitAt? ':' cs with
  | (c :: scheme, some rest) =>
    if c.isAlpha && (c :: scheme).all isSchemeChar then
      ((String.ofList (c :: scheme)).map Char.toLower, rest)
    else (default, cs)
  | _ => (default, cs)

/-- Splits off the host after two slashes. -/
def splitHost : List Char → List Char × List Char
  | '/' :: '/' :: rest =>
    let ends (c : Char) : Bool := c == '/' || c == '?' || c == '#'
    (rest.takeWhile (!ends ·), rest.dropWhile (!ends ·))
  | cs => ([], cs)

/-- Splits parameters off the last segment of a path. -/
def splitParams (path : String) : String × String :=
  let cs := path.toList
  let last := (cs.reverse.takeWhile (· != '/')).reverse
  let front := cs.take (cs.length - last.length)
  match Text.Chars.splitAt? ';' last with
  | (before, some after) => (String.ofList (front ++ before), String.ofList after)
  | (_, none) => (path, "")

/-- Takes an address apart; `scheme` is the scheme of one that names none. -/
def Address.parse (scheme text : String) : Except Malformed Address :=
  let cs := (text.toList.dropWhile fun c => c.toNat ≤ 32).filter fun c =>
    c != '\t' && c != '\r' && c != '\n'
  let (scheme, rest) := splitScheme scheme cs
  let (host, rest) := splitHost rest
  if host.contains '[' != host.contains ']' then .error .badNumber
  else
    let (rest, fragment) := Text.Chars.splitAt? '#' rest
    let (path, query) := Text.Chars.splitAt? '?' rest
    let path := String.ofList path
    let (path, params) := if hasParams scheme then splitParams path else (path, "")
    .ok ⟨scheme, String.ofList host, path, params, String.ofList (query.getD []),
      String.ofList (fragment.getD [])⟩

/-- The text of an address. -/
def Address.text (a : Address) : String :=
  let path := if a.params == "" then a.path else a.path ++ ";" ++ a.params
  let located :=
    if a.host != "" || a.scheme != "" || Text.startsWith "//" path then
      "//" ++ a.host ++ (if path != "" && !Text.startsWith "/" path then "/" ++ path else path)
    else path
  (if a.scheme == "" then "" else a.scheme ++ ":") ++ located ++
    (if a.query == "" then "" else "?" ++ a.query) ++
    (if a.fragment == "" then "" else "#" ++ a.fragment)

/-- The segments of a path seen from the segments of another. -/
def joinSegments (base path : List String) : List String :=
  let base := if base.getLast? == some "" then base else base.dropLast
  let all := base ++ path
  match all with
  | [] => []
  | [s] => [s]
  | s :: rest => s :: (rest.dropLast.filter (· != "")) ++ [rest.getLastD ""]

/-- Takes segments one after another; a last step of dots leaves a directory. -/
def takeSegments (segments : List String) : List String :=
  let done := segments.foldl (fun done s =>
    if s == ".." then done.dropLast else if s == "." then done else done ++ [s]) []
  if segments.getLast? == some "." || segments.getLast? == some ".." then done ++ [""] else done

/-- Resolves a relative address against the address of the document that contains it. -/
def joinAddress (base reference : String) : Except Malformed String := do
  if base == "" then return reference
  if reference == "" then return base
  let b ← Address.parse "" base
  let r ← Address.parse b.scheme reference
  if r.scheme != b.scheme || !hasRelative r.scheme then return reference
  if r.host != "" then return r.text
  let r := { r with host := b.host }
  if r.path == "" && r.params == "" then
    return { r with
      path := b.path
      params := b.params
      query := if r.query == "" then b.query else r.query }.text
  let own := Text.splitOn '/' r.path
  let segments := if Text.startsWith "/" r.path then own
    else joinSegments (Text.splitOn '/' b.path) own
  let path := "/".intercalate (takeSegments segments)
  return { r with path := if path == "" then "/" else path }.text

end ApiAccord.Document
