import RegexCompiler.Service.Message
import RegexCompiler.Service.Sharing
import RegexCompiler.Service.Text.Capital

/-!
# The service

What a framework does around the endpoints: it finds the path that a request is for, and says which
requests it does not pass on.  There are three kinds of paths, those of the two endpoints `health`
and `compile`, and those below `static` of files; there are no files.

The modules of the service stand for a framework as it is set up here.  The endpoints do not depend
on them, and neither does what is proved of the endpoints.

Of the reasons not to serve a request the first one counts:

* its host is no host, or not a trusted one: 400;
* there is no such path: 404, also when its runs of slashes are read as single ones;
* the path does not allow the method: 405, with the methods that it allows;
* the scheme is that of a connection that stays open: 400;
* only with its runs of slashes read as single ones there is such a path: 308.

The settings may let a refusal count as a breakdown: 500.

Every path answers the method `OPTIONS` with the methods that it allows.
-/

namespace RegexCompiler.Service

/-- **The paths of the service.** -/
inductive Route where
  /-- Is the service up? -/
  | health
  /-- Compile a text. -/
  | compile
  /-- A file. -/
  | file
  deriving DecidableEq, Repr

namespace Route

/-- The directory of the files. -/
def directory : List Char := "static/".toList

/-- Whether a text is the name of a file: it starts with no slash, and holds no line feed, except
as its first character. -/
def isFileName : List Char → Bool
  | [] => false
  | c :: cs => c ≠ '/' && !cs.contains '\n'

/-- The route of a path without leading slashes. -/
def ofPath? (path : List Char) : Option Route :=
  if path == "health".toList then some health
  else if path == "compile".toList then some compile
  else if directory.isPrefixOf path && isFileName (path.drop directory.length) then some file
  else none

/-- The methods of a route, in alphabetical order. -/
def methods : Route → List String
  | health | file => ["GET", "HEAD", "OPTIONS"]
  | compile => ["OPTIONS", "POST"]

end Route

/-- The path with each run of slashes read as a single one. -/
def mergeSlashes : List Char → List Char
  | [] => []
  | c :: cs => if c = '/' ∧ cs.head? = some '/' then mergeSlashes cs else c :: mergeSlashes cs

/-! ## Refusals -/

/-- **Why a request is not served.** -/
inductive Refusal where
  /-- Its host is no host, or not a trusted one. -/
  | strangeHost
  /-- There is no such path, or no such file. -/
  | notFound
  /-- The path allows other methods. -/
  | notAllowed (methods : List String)
  /-- The connection would stay open. -/
  | staysOpen
  /-- There is such a path, with fewer slashes. -/
  | spareSlashes
  deriving DecidableEq, Repr

namespace Refusal

/-- The status of the response. -/
def status : Refusal → Nat
  | strangeHost | staysOpen => 400
  | notFound => 404
  | notAllowed _ => 405
  | spareSlashes => 308

/-- **The response** to a request that is not served. -/
def response : Refusal → Response
  | notAllowed methods => { status := 405, allow := some methods }
  | r => { status := r.status }

end Refusal

/-! ## Answers -/

/-- What a route does with a request whose method it allows. -/
def Route.handle (route : Route) (r : Request) : Except Refusal Response :=
  match route with
  | health => .ok { toReply := Endpoint.health }
  | compile => .ok { toReply := Endpoint.respond r.document? }
  | file => .error .notFound

/-- The method of a request, in capitals. -/
def Request.verb (r : Request) : String := String.ofList (Text.capitals r.method.toList)

/-- The answer of a route.  `isExact` says that the slashes of the path were read as they are, and
`isOpen` that the connection would stay open. -/
def Route.answer (route : Route) (isExact isOpen : Bool) (r : Request) : Except Refusal Response :=
  if !route.methods.contains r.verb then .error (.notAllowed route.methods)
  else if isOpen then .error .staysOpen
  else if !isExact then .error .spareSlashes
  else if r.verb = "OPTIONS" then .ok { status := 200, allow := some route.methods }
  else route.handle r

/-- The answer to a request for a path. -/
def answerPath (path : List Char) (isOpen : Bool) (r : Request) : Except Refusal Response :=
  match Route.ofPath? path with
  | some route => route.answer true isOpen r
  | none =>
    match Route.ofPath? (mergeSlashes path) with
    | some route => route.answer false isOpen r
    | none => .error .notFound

/-- The answer to a request, by the settings. -/
def answerTarget (settings : Settings) (r : Request) : Except Refusal Response :=
  let target := Target.ofText r.target
  let authority := if target.authority.isEmpty then settings.authority else target.authority
  let scheme := if target.scheme.isEmpty then settings.scheme else target.scheme
  if settings.isHost target.authority && settings.trusts authority
  then answerPath target.path (Target.isSocket scheme) r
  else .error .strangeHost

/-- **The answer** to a request, by the settings, with the response to a refusal in its place;
which origins may read it is not in it.  A response to `HEAD` has no body. -/
def answer (settings : Settings) (r : Request) : Response :=
  let response :=
    if settings.lacksSession then { toReply := Endpoint.breakdown }
    else match answerTarget settings r with
      | .ok response => response
      | .error refusal =>
        if settings.trapsRefusal (refusal.status = 400) then { toReply := Endpoint.breakdown }
        else refusal.response
  { response with body := if r.method = "HEAD" then none else response.body }

/-- **The service**: the response to a request. -/
def respond (settings : Settings) (r : Request) : Except SettingsError Response := do
  if settings.lacksSession && settings.passesBreakdowns then throw .noSession
  let path := '/' :: (Target.ofText r.target).path
  return { answer settings r with allowOrigin := ← settings.allowedOrigin path r.origin }

end RegexCompiler.Service
