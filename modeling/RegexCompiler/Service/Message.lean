import RegexCompiler.Endpoint
import RegexCompiler.Service.Json.Depth
import RegexCompiler.Service.Text.Encoding

/-!
# Requests and responses

The parts of a request that a service looks at, and the parts of a response that it decides.

`Request.document?` is the JSON value of the body.  A body counts only if its media type says that
it is JSON; in every other case, and if it cannot be read, there is none.  A body of too many levels
breaks its reader down.
-/

namespace RegexCompiler.Service

/-- **A request.** -/
structure Request where
  /-- The method. -/
  method : String
  /-- The target, a path or a whole address. -/
  target : String
  /-- The media type of the body, with its parameters. -/
  contentType : Option String := none
  /-- The body, as the text that its octets are in UTF-8. -/
  body : Option String := none
  /-- Where the page that sends the request comes from. -/
  origin : Option String := none
  deriving DecidableEq, Repr

/-- **A response**: a reply with what the framework adds to it. -/
structure Response extends Endpoint.Reply where
  /-- The methods that the target allows, if the response names them. -/
  allow : Option (List String) := none
  /-- The origin whose pages may read the response, if there is one. -/
  allowOrigin : Option String := none
  deriving Repr

/-! ## The body -/

/-- The blanks around a media type, those of a header: a form feed, or a space of another script, is
a character of the type. -/
def isPadding (c : Char) : Bool := c == ' ' || c == '\t'

/-- The text without the padding at its two ends. -/
def dropPadding (cs : List Char) : List Char :=
  ((cs.dropWhile isPadding).reverse.dropWhile isPadding).reverse

/-- The media type without its parameters, in lower case. -/
def mediaType (contentType : String) : List Char :=
  (dropPadding (contentType.toList.takeWhile (· ≠ ';'))).map Char.toLower

/-- Whether a media type is one of JSON: `application/json` itself, or one built on it. -/
def isJsonType (contentType : String) : Bool :=
  let type := mediaType contentType
  type == "application/json".toList ||
    "application/".toList.isPrefixOf type && "+json".toList.isSuffixOf type

/-- The levels of a body for which there is room on the stack: fewer than for a setting, as more
calls are under way. -/
def maxDepth : Nat := 976

/-- The characters of the body, whatever its media type is. -/
def Request.text? (r : Request) : Option (List Char) :=
  r.body.bind fun body => Text.decode? body.toList

/-- **The document** of a request, null if it has none; nothing if reading it breaks down. -/
def Request.document? (r : Request) : Option Json :=
  if r.contentType.any isJsonType then
    match r.text? with
    | some cs => if Json.overruns maxDepth cs then none else some ((Json.parse? cs).getD .null)
    | none => some .null
  else some .null

end RegexCompiler.Service
