import RegexCompiler.Service.Json.Description
import RegexCompiler.Json.Reader
import RegexCompiler.Service.Target

/-!
# Settings

A setting has a name and a JSON value.  There are standard settings; the environment wins over
them, in the order of its names, and what the caller gives wins over both.

* A value of the environment is read as JSON if it can be, and is a text otherwise.
* Two underscores in a name of the environment lead into an object: the value goes to the place
  below the name, and objects that are missing on the way are made.  It is an error if the way
  leads through a value that is no object.
-/

namespace RegexCompiler.Service

/-- **What may be wrong with settings.** -/
inductive SettingsError where
  /-- A name leads through a value that is no object. -/
  | notAnObject (name : String)
  /-- The trusted hosts are neither a text nor texts. -/
  | notHosts
  /-- The options of a pattern are neither an object nor pairs. -/
  | notOptions
  /-- The items of an option have no common order. -/
  | unordered (option : String)
  /-- The keys or the name of a session cannot be read, and the caller wants to know. -/
  | noSession
  deriving DecidableEq, Repr

/-- **Settings**, each name once. -/
structure Settings where
  /-- The values by their names. -/
  entries : List (String × Json)
  deriving Repr

namespace Settings

/-- The name of the setting of the allowed origins. -/
def originsKey : String := "CORS_ORIGINS"

/-- The name of the setting of the trusted hosts. -/
def hostsKey : String := "TRUSTED_HOSTS"

/-- The name of the setting of the scheme. -/
def schemeKey : String := "PREFERRED_URL_SCHEME"

/-- The name of the setting of the host. -/
def hostKey : String := "SERVER_NAME"

/-- **The standard settings.** -/
def standard : Settings where
  entries :=
    [("APPLICATION_ROOT", .str "/"), (originsKey, .str "*"), ("DEBUG", .bool false),
     ("EXPLAIN_TEMPLATE_LOADING", .bool false), ("MAX_CONTENT_LENGTH", .null),
     ("MAX_COOKIE_SIZE", .int 4093), ("MAX_FORM_MEMORY_SIZE", .int 500000),
     ("MAX_FORM_PARTS", .int 1000), ("PERMANENT_SESSION_LIFETIME", .int 2678400),
     (schemeKey, .str "http"), ("PROPAGATE_EXCEPTIONS", .null),
     ("PROVIDE_AUTOMATIC_OPTIONS", .bool true), ("SECRET_KEY", .null),
     ("SECRET_KEY_FALLBACKS", .null), ("SEND_FILE_MAX_AGE_DEFAULT", .null), (hostKey, .null),
     ("SESSION_COOKIE_DOMAIN", .null), ("SESSION_COOKIE_HTTPONLY", .bool true),
     ("SESSION_COOKIE_NAME", .str "session"), ("SESSION_COOKIE_PARTITIONED", .bool false),
     ("SESSION_COOKIE_PATH", .null), ("SESSION_COOKIE_SAMESITE", .null),
     ("SESSION_COOKIE_SECURE", .bool false), ("SESSION_REFRESH_EACH_REQUEST", .bool true),
     ("TEMPLATES_AUTO_RELOAD", .null), ("TESTING", .bool false),
     ("TRAP_BAD_REQUEST_ERRORS", .null), ("TRAP_HTTP_EXCEPTIONS", .bool false),
     (hostsKey, .null), ("USE_X_SENDFILE", .bool false)]

instance : Inhabited Settings := ⟨standard⟩

/-- The value of a setting; null is as good as none. -/
def get? (s : Settings) (name : String) : Option Json :=
  match s.entries.lookup name with
  | some .null | none => none
  | some j => some j

/-! ## The environment -/

/-- The deepest nesting of a value of the environment that is read as JSON. -/
def maxDepth : Nat := 986

/-- The value of a text in the environment. -/
def ofEnvironment (text : String) : Json :=
  match Json.parse? text.toList with
  | some j => if j.depth ≤ maxDepth then j else .str text
  | none => .str text

/-- The parts of a name between pairs of underscores. -/
def nameParts : List Char → List (List Char)
  | [] => [[]]
  | '_' :: '_' :: rest => [] :: nameParts rest
  | c :: rest =>
    match nameParts rest with
    | first :: more => (c :: first) :: more
    | [] => [[c]]

/-- The fields with `value` at the place that the names lead to. -/
def setNested (value : Json) :
    List String → List (String × Json) → Except SettingsError (List (String × Json))
  | [], fields => .ok fields
  | [name], fields => .ok (Json.setField fields name value)
  | name :: names, fields =>
    match fields.lookup name with
    | none => do
      let inner ← setNested value names []
      return Json.setField fields name (.obj inner)
    | some (.obj inner) => do
      let inner ← setNested value names inner
      return Json.setField fields name (.obj inner)
    | some _ => .error (.notAnObject name)

/-- The settings with a variable of the environment. -/
def setVariable (s : Settings) (entry : String × String) : Except SettingsError Settings := do
  let names := (nameParts entry.1.toList).map String.ofList
  return { entries := ← setNested (ofEnvironment entry.2) names s.entries }

/-- The settings with a value that the caller gives. -/
def setGiven (s : Settings) (given : String × Json) : Settings :=
  { entries := Json.setField s.entries given.1 given.2 }

/-- Whether a value can be the trusted hosts. -/
def areHosts : Option Json → Bool
  | none | some (.str _) | some (.arr _) | some (.obj _) => true
  | _ => false

/-- **The settings** from the environment and from the caller. -/
def load (environment : List (String × String)) (given : List (String × Json)) :
    Except SettingsError Settings := do
  let sorted := environment.mergeSort fun v w => v.1 ≤ w.1
  let s := given.foldl setGiven (← sorted.foldlM setVariable standard)
  if areHosts (s.get? hostsKey) then return s else throw .notHosts

/-! ## What the settings say -/

/-- The allowed origins, as they are set. -/
def origins (s : Settings) : Json := (s.entries.lookup originsKey).getD .null

/-- Whether a setting counts as true. -/
def isOn (s : Settings) (name : String) : Bool := (s.get? name).any (·.isTrue)

/-- The host that the settings name, if they do. -/
def host? (s : Settings) : Option (List Char) :=
  match s.get? hostKey with
  | some (.str name) => some name.toList
  | _ => none

/-- **The base**: the address in front of a target that names no scheme and no authority. -/
def base (s : Settings) : Address :=
  let scheme := ((s.entries.lookup schemeKey).getD .null).describe
  let host := match s.host? with
    | none | some [] => "localhost".toList
    | some name => name
  Address.ofText (scheme ++ "://".toList ++ host ++ ['/'])

/-- The scheme of a target that names none. -/
def scheme (s : Settings) : List Char := s.base.scheme

/-- The authority of a target that names none. -/
def authority (s : Settings) : List Char := (Authority.ofText s.base.authority).toText

/-- Whether a host can be one, that of the settings if they name one: otherwise that of an
authority. -/
def isHost (s : Settings) (authority : List Char) : Bool :=
  Target.isHost ((s.host?.map fun name => name.map Char.toLower).getD authority)

/-- Whether a trusted host is `host`: a leading full stop stands for any name in front. -/
def isTrustedAs (host : List Char) (trusted : Json) : Bool :=
  match trusted with
  | .str name =>
    let plainName (cs : List Char) := Authority.plainName (cutAt ':' cs).1
    match name.toList with
    | '.' :: rest => host == plainName rest || ('.' :: plainName rest).isSuffixOf host
    | cs => host == plainName cs
  | _ => false

/-- **Trust.**  Whether requests to an authority are served: if there are trusted hosts, its host
is one of them. -/
def trusts (s : Settings) (authority : List Char) : Bool :=
  match s.get? hostsKey with
  | none => true
  | some hosts =>
    let host := (cutAt ':' authority).1
    !host.isEmpty && hosts.toItems.any (isTrustedAs host)

/-- Whether a reason not to serve a request counts as a breakdown: every one, or a bad request. -/
def trapsRefusal (s : Settings) (isBadRequest : Bool) : Bool :=
  s.isOn "TRAP_HTTP_EXCEPTIONS" || isBadRequest && s.isOn "TRAP_BAD_REQUEST_ERRORS"

/-- Whether a breakdown is passed on to the caller. -/
def passesBreakdowns (s : Settings) : Bool :=
  match s.get? "PROPAGATE_EXCEPTIONS" with
  | some j => j.isTrue
  | none => s.isOn "TESTING" || s.isOn "DEBUG"

/-- Whether a value is an array or an object. -/
def hasParts : Json → Bool
  | .arr _ | .obj _ => true
  | _ => false

/-- Whether a session cannot be opened.  With a secret key there are sessions, and then further
keys are those of a list or a text, and the name of the cookie has no parts. -/
def lacksSession (s : Settings) : Bool :=
  let areKeys : Json → Bool
    | .str _ => true
    | j => hasParts j
  s.isOn "SECRET_KEY" &&
    ((s.get? "SECRET_KEY_FALLBACKS").any (fun keys => keys.isTrue && !areKeys keys) ||
      (s.get? "SESSION_COOKIE_NAME").any hasParts)

end Settings

end RegexCompiler.Service
