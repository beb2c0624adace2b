import RegexCompiler.Service.Json.Order
import RegexCompiler.Service.Settings
import RegexCompiler.Service.Text.Pattern

/-!
# Sharing with other origins

A page may read a response if the response names the origin of the page.  The options for that are
settings, and each pattern of paths may have options of its own, which win over them; a response
follows the first pattern that takes its path, and names no origin if there is none.

* A request from an origin is answered with that origin if it is allowed, or with `"*"` if every
  origin is allowed and the options ask for it.
* A request from no origin is answered, unless the options forbid it, with `"*"` if every origin is
  allowed, except with credentials, and otherwise with the least of the allowed origins that are
  texts and no patterns.

An origin is allowed if its text is the description of an item of the setting, or if an item is a
pattern that takes the front of it; case does not matter.
-/

namespace RegexCompiler.Service

/-- **How responses are shared.** -/
structure Sharing where
  /-- The allowed origins. -/
  origins : List Json
  /-- Whether a request from no origin is answered, too. -/
  isConstant : Bool := true
  /-- Whether `"*"` stands for the origin of the request, if every origin is allowed. -/
  isAnonymous : Bool := false
  /-- Whether a page may send credentials. -/
  hasCredentials : Bool := false
  deriving Repr

namespace Sharing

/-! ## Items of the setting -/

/-- The texts that stand for every origin or path. -/
def everything : List String := ["*", ".*"]

/-- Whether an item is a pattern. -/
def isPatternItem : Json → Bool
  | .str s => Text.isPattern s.toList
  | _ => false

/-- Whether an item names an origin. -/
def names (item : Json) (origin : String) : Bool :=
  match item with
  | .str s => Text.isNamedIgnoringCase s.toList origin.toList
  | item => Text.fold item.describe == Text.fold origin.toList

/-- Whether an item stands for every origin. -/
def isEverything : Json → Bool
  | .str s => everything.contains s
  | _ => false

/-- The least of some texts, in the order of their code points. -/
def least? : List String → Option String
  | [] => none
  | s :: rest => some (rest.foldl (fun least t => if t < least then t else least) s)

/-! ## Options -/

/-- The settings that are options, and the names of the options. -/
def optionKeys : List (String × String) :=
  [("CORS_METHODS", "methods"), ("CORS_EXPOSE_HEADERS", "expose_headers"),
   ("CORS_SUPPORTS_CREDENTIALS", "supports_credentials"),
   ("CORS_SEND_WILDCARD", "send_wildcard"), ("CORS_ALWAYS_SEND", "always_send"),
   ("CORS_RESOURCES", "resources")]

/-- The options that the settings give. -/
def optionsOf (s : Settings) : List (String × Json) :=
  ("origins", s.origins) ::
    optionKeys.filterMap fun k => (s.get? k.1).map (k.2, ·)

/-- The options that list words which are put in order. -/
def wordLists : List String := ["methods", "expose_headers"]

/-- The value of an option, null if it is missing. -/
def option (options : List (String × Json)) (name : String) : Json :=
  (options.lookup name).getD .null

/-- Whether an option is set, or `standard` if it is missing. -/
def isSet (options : List (String × Json)) (name : String) (standard : Bool) : Bool :=
  ((options.lookup name).map (·.isTrue)).getD standard

/-- **Sharing with options.**  The words of a list must have an order. -/
def ofOptions (options : List (String × Json)) : Except SettingsError Sharing :=
  match wordLists.find? fun name => !Json.isOrdered (option options name).toItems with
  | some name => .error (.unordered name)
  | none => .ok
    { origins := (option options "origins").toItems
      isConstant := isSet options "always_send" true
      isAnonymous := isSet options "send_wildcard" false
      hasCredentials := isSet options "supports_credentials" false }

/-! ## Paths -/

/-- A pattern of paths; an asterisk alone stands for every path. -/
def pathPattern (s : String) : String := if s = "*" then ".*" else s

/-- Whether an item names a path. -/
def takesPath (item : Json) (path : List Char) : Bool :=
  match item with
  | .str s => Text.isNamedBy s.toList path
  | _ => false

/-- The order in which patterns with options are tried, the more special ones first: single paths
come before patterns, more slashes before fewer, and longer texts before shorter ones. -/
def isTriedBefore (s t : String) : Bool :=
  let slashes (s : String) := s.toList.count '/'
  match Text.isPattern s.toList, Text.isPattern t.toList with
  | false, true => true
  | true, false => false
  | _, _ => slashes t < slashes s || slashes s == slashes t && t.length ≤ s.length

/-- The two items of a value that has two: those of an array, the keys of an object, or the
characters of a text. -/
def pair? : Json → Option (Json × Json)
  | .arr [key, value] => some (key, value)
  | .obj [f, g] => some (.str f.1, .str g.1)
  | .str s =>
    match s.toList with
    | [c, d] => some (.str (String.singleton c), .str (String.singleton d))
    | _ => none
  | _ => none

/-- The field of a pair: none if its key is no text; a key must not have items of its own. -/
def field? : Json × Json → Option (Option (String × Json))
  | (.str key, value) => some (some (key, value))
  | (.arr _, _) | (.obj _, _) => none
  | _ => some none

/-- The options of a pattern, as fields: those of an object, or pairs. -/
def ownOptions? : Json → Option (List (String × Json))
  | .obj fields => some fields
  | .arr items => do
    let fields ← items.mapM fun item => (pair? item).bind field?
    return fields.filterMap id
  | .str "" => some []
  | _ => none

/-- The patterns of paths with the options of their own, in the order in which they are tried. -/
def patterns (resources : Json) : Except SettingsError (List (Json × List (String × Json))) :=
  match resources with
  | .obj fields =>
    let sorted := (fields.map fun f => (pathPattern f.1, f.2)).mergeSort fun f g =>
      isTriedBefore f.1 g.1
    sorted.mapM fun f =>
      match ownOptions? f.2 with
      | some own => .ok (.str f.1, own)
      | none => .error .notOptions
  | j => .ok (j.toItems.map fun item =>
      match item with
      | .str s => (.str (pathPattern s), [])
      | item => (item, []))

/-- The pattern of paths if no setting gives any: it takes every path. -/
def standardPattern : Json := .str "/*"

/-- **Sharing by the settings**, for every pattern of paths. -/
def ofSettings (s : Settings) : Except SettingsError (List (Json × Sharing)) := do
  let options := optionsOf s
  let _ ← ofOptions options
  let found ← patterns ((options.lookup "resources").getD standardPattern)
  found.mapM fun p => do
    let own ← ofOptions (p.2.foldl (fun fields f => Json.setField fields f.1 f.2) options)
    return (p.1, own)

/-! ## Answers -/

/-- Whether every origin is allowed. -/
def isOpen (s : Sharing) : Bool := s.origins.any isEverything

/-- Whether an origin is allowed. -/
def allows (s : Sharing) (origin : String) : Bool :=
  s.isOpen || s.origins.any (names · origin)

/-- The allowed origins that are texts and no patterns. -/
def plainOrigins (s : Sharing) : List String :=
  (s.origins.filter (!isPatternItem ·)).filterMap Json.text?

/-- What is said to a request from no origin: nothing, if that would be the empty text. -/
def withoutOrigin (s : Sharing) : Option String :=
  if !s.isConstant then none
  else if s.isOpen then if s.hasCredentials then none else some "*"
  else (least? s.plainOrigins).filter (!·.isEmpty)

/-- **The allowed origin** that a response names. -/
def allowedOrigin (s : Sharing) (origin : Option String) : Option String :=
  match origin with
  | none | some "" => s.withoutOrigin
  | some origin =>
    if s.isOpen && s.isAnonymous then some "*"
    else if s.allows origin then some origin
    else none

end Sharing

/-- **The allowed origin** that the response to a request for a path names, by the settings. -/
def Settings.allowedOrigin (s : Settings) (path : List Char) (origin : Option String) :
    Except SettingsError (Option String) := do
  let found := (← Sharing.ofSettings s).find? fun p => Sharing.takesPath p.1 path
  return found.bind fun p => p.2.allowedOrigin origin

end RegexCompiler.Service
