import RegexCompiler.Automaton.Listing
import RegexCompiler.Automaton.Machine
import RegexCompiler.Compile
import RegexCompiler.Text.Blank

/-!
# The endpoints of the service

`health` says that the service is up.  `compileDocument` compiles the text in the field `regex` of
the document that is sent: the text is taken without the blanks at its ends, and the reply is its
automaton, or the reason why it was refused.

The service is the guest of a framework, which finds the endpoint for a request and reads the
document of the request.  What a framework has to say of a request is a `Framework`, and the reply
to a request is that of `Framework.respond`.
-/

namespace RegexCompiler.Endpoint

/-- **A reply.** -/
structure Reply where
  /-- The status code. -/
  status : Nat
  /-- The body, if it is JSON. -/
  body : Option Json := none
  deriving Repr

/-- The reply that the service is up. -/
def health : Reply := { status := 200, body := some (.obj [("status", .str "ok")]) }

/-- The reply to a breakdown that nobody has foreseen. -/
def breakdown : Reply := { status := 500 }

/-! ## Compiling -/

/-- The text to compile, with its blanks at the ends: empty if there is no field `regex`, none if
the field is no text. -/
def regexField? (document : Json) : Option String :=
  match document.field? "regex" with
  | none => some ""
  | some (.str s) => some s
  | some _ => none

/-- The body of a refusal. -/
def refusal (message : String) (kind : Kind) : Json :=
  .obj [("success", .bool false), ("error", .str message), ("kind", .str kind.name)]

/-- The body that shows an automaton. -/
def acceptance (regex : String) (a : Automaton) : Json :=
  .obj [("success", .bool true), ("regex", .str regex), ("nfa", a.machine.toJson),
    ("display", .arr (a.display.map .str))]

/-- The reply to a text that is to be compiled. -/
def compileText (text : String) : Reply :=
  let regex := String.ofList (Text.trim text.toList)
  match Compilation.ofText regex with
  | .ok { automaton, error := none } => { status := 200, body := acceptance regex automaton }
  | .ok { error := some e, .. } => { status := 400, body := refusal e.text e.kind }
  | .error f =>
    { status := 500, body := some (.obj [("success", .bool false), ("error", .str f.message)]) }

/-- **Compiling**, for a request whose document is `document`. -/
def compileDocument (document : Json) : Reply :=
  match regexField? document with
  | some text => compileText text
  | none => { status := 400, body := refusal "regex must be a string" .invalidInput }

/-- Compiling, where nothing is known of the document if reading it broke down. -/
def respond : Option Json → Reply
  | some document => compileDocument document
  | none => breakdown

/-! ## Frameworks -/

/-- **A framework**, as far as the endpoints rely on it: what it has to say of a request, whatever
requests are. -/
structure Framework (Request : Type) where
  /-- The media type of a request, without its parameters and in lower case, if it names one. -/
  mediaType? : Request → Option String
  /-- The members of the object that the body of a request is the text of, if it is: all of them and
  in their order, repeated ones too. -/
  members? : Request → Option (List (String × Json))
  /-- The document of a request, null if it has none; nothing if reading it breaks down. -/
  document? : Request → Option Json

/-- **The reply** to a request to compile. -/
def Framework.respond {Request : Type} (framework : Framework Request) (r : Request) : Reply :=
  Endpoint.respond (framework.document? r)

end RegexCompiler.Endpoint
