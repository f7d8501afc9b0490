/-!
# HTTP methods

The methods that an interface document can declare, those that count as regular in a comparison, and
the closest alternatives to a method that is not supported.
-/

namespace ApiAccord

/-- The methods that a path may declare, in the order in which they are read. -/
inductive HttpMethod where
  | get
  | post
  | put
  | patch
  | delete
  | head
  | options
  | trace
deriving DecidableEq, Repr, Inhabited

namespace HttpMethod

def all : List HttpMethod := [.get, .post, .put, .patch, .delete, .head, .options, .trace]

/-- The member of a path item that declares the method. -/
def name : HttpMethod → String
  | .get => "get"
  | .post => "post"
  | .put => "put"
  | .patch => "patch"
  | .delete => "delete"
  | .head => "head"
  | .options => "options"
  | .trace => "trace"

/-- The method as a request names it. -/
def token : HttpMethod → String
  | .get => "GET"
  | .post => "POST"
  | .put => "PUT"
  | .patch => "PATCH"
  | .delete => "DELETE"
  | .head => "HEAD"
  | .options => "OPTIONS"
  | .trace => "TRACE"

/-- The method words that count as regular; other words used as methods are invalid. -/
def regular : List String := ["GET", "POST", "PUT", "DELETE", "PATCH", "HEAD", "OPTIONS"]

def isRegular (method : String) : Bool := regular.contains method

/-- The alternatives to a method, closest first. -/
def alternatives : String → List String
  | "GET" => ["POST", "PUT"]
  | "POST" => ["PUT", "PATCH", "GET"]
  | "PUT" => ["POST", "PATCH"]
  | "PATCH" => ["PUT", "POST"]
  | "DELETE" => ["POST", "PUT"]
  | _ => []

/-- The closest alternative to a method among those available. -/
def similar (method : String) (available : List String) : Option String :=
  (alternatives method).find? available.contains

end HttpMethod

end ApiAccord
