import ApiAccord.Pattern.Basic
import ApiAccord.Text.Basic

/-!
# Endpoint paths

A path may have placeholder segments, written `{id}`, `:id`, `<id>`, `<int:id>` or `${id}`, each of
which stands for any one segment.  `normalize` strips what does not belong to a path, `templateKey`
forgets the names of placeholders, and `equivalent` says that one of two paths, as a template,
matches the other.
-/

namespace ApiAccord.EndpointPath

/-- Drops trailing slashes; a path of slashes alone becomes one slash. -/
def dropTrailingSlashes (cs : List Char) : List Char :=
  if cs.length ≤ 1 then cs
  else match Text.Chars.dropEndWhile (· == '/') cs with
    | [] => ['/']
    | kept => kept

/-- Drops a query, a fragment, surrounding blanks and trailing slashes, in this order. -/
def normalizeChars (cs : List Char) : List Char :=
  let withoutQuery := (Text.Chars.splitAt? '?' cs).1
  let withoutFragment := (Text.Chars.splitAt? '#' withoutQuery).1
  dropTrailingSlashes (Text.Chars.trimBy Text.isBlank withoutFragment)

/-- The path without query, fragment, surrounding blanks and trailing slashes. -/
def normalize (path : String) : String := String.ofList (normalizeChars path.toList)

/-! ### Placeholders -/

/-- A name between braces. -/
def bracedName : Pattern :=
  .text "\x7b" ++ .plus (.char (.noneOf "/\x7b\x7d")) ++ .text "\x7d"

/-- The shape of a placeholder segment. -/
def placeholder : Pattern :=
  .textStart ++
    .firstOf [
      bracedName,
      .text ":" ++ .char (.either .letter (.one '_')) ++ .star (.char .word),
      .text "<" ++ .opt (.aWord ++ .text ":") ++ .aWord ++ .text ">",
      .text "$" ++ bracedName] ++
    .textEnd

/-- Whether a segment is a placeholder. -/
def isPlaceholder (segment : List Char) : Bool :=
  (placeholder.matchAt segment.toArray 0).isSome

/-- The segments of a normalized path. -/
def segments (path : String) : List (List Char) :=
  Text.Chars.splitOn '/' (normalizeChars path.toList)

/-- Whether some segment is a placeholder. -/
def isTemplate (path : String) : Bool := (segments path).any isPlaceholder

/-- The path with each placeholder replaced by a pair of braces. -/
def templateKey (path : String) : String :=
  "/".intercalate ((segments path).map fun s =>
    if isPlaceholder s then "\x7b\x7d" else String.ofList s)

/-! ### Equivalence -/

/-- What a segment of a template matches: a placeholder any segment that is not empty, every other
one itself. -/
def segmentPattern (segment : List Char) : Pattern :=
  if isPlaceholder segment then .plus (.char (.noneOf "/")) else .text (String.ofList segment)

/-- What a path matches as a template. -/
def pathPattern (path : String) : Pattern :=
  .joinedBy (.text "/") ((segments path).map segmentPattern)

/-- Whether `template` matches the whole of `path`. -/
def covers (template path : String) : Bool :=
  (pathPattern template).matchesAll path.toList.toArray

/-- Whether the paths are the same, or one matches the other as a template. -/
def equivalent (a b : String) : Bool :=
  let a := normalize a
  let b := normalize b
  a == b || covers a b || covers b a

end ApiAccord.EndpointPath
