import RegexCompiler.Automaton.Listing
import RegexCompiler.Automaton.Machine
import RegexCompiler.Json.Writer
import RegexCompiler.Log
import RegexCompiler.Text.Lines

/-!
# Line sessions

A session compiles the lines of a text one after the other until a line says to quit.  A line
that compiles is answered by its automaton, as a listing or as JSON; a line that is refused is
answered on the side, by the warning of the log and by the error with its kind, and the session
goes on.
-/

namespace RegexCompiler.Session

/-- What a session has written. -/
structure Output where
  /-- Its answers. -/
  answers : String := ""
  /-- Its complaints. -/
  complaints : String := ""
  deriving DecidableEq, Repr

/-- One output after the other. -/
def Output.append (x y : Output) : Output where
  answers := x.answers ++ y.answers
  complaints := x.complaints ++ y.complaints

instance : Append Output := ⟨Output.append⟩

/-- How automata are shown. -/
inductive Style where
  /-- As a listing. -/
  | listing
  /-- As a machine description in JSON, in one line. -/
  | json
  deriving DecidableEq, Repr

/-- What a session says before its first answer. -/
def banner : String :=
  "Enter a regular expression with the alphabet ['a','z'] & E for empty\n" ++
  "* for Kleene Star\n" ++
  "elements with nothing between them indicates concatenation\n" ++
  "| for Union\n" ++
  "\x22:q\x22 to quit\n"

/-- The lines that end a session. -/
def quitWords : List String := [":q", "QUIT"]

/-- Whether a line ends the session. -/
def isQuit (line : List Char) : Bool := quitWords.contains (String.ofList line)

/-- An automaton in the style of the session. -/
def render (style : Style) (a : Automaton) : String :=
  match style with
  | .listing => a.listing
  | .json => a.machine.toJson.write

/-- What a session says of a refusal. -/
def complaint (e : RegexError) : String := "Error [" ++ e.kind.name ++ "]: " ++ e.text

/-- The answer to one line. -/
def reply (style : Style) (line : List Char) : Except Fault Output := do
  let regex := String.ofList line
  let c ← Compilation.ofText regex
  match c.error with
  | none => return { answers := render style c.automaton ++ "\n" }
  | some e => return { complaints := (c.record regex).text ++ "\n" ++ complaint e ++ "\n" }

/-- The lines of a text that a session answers: those before the first that says to quit. -/
def requests (text : List Char) : List (List Char) :=
  (Text.lines text).takeWhile fun line => !isQuit line

/-- **A session** over a whole text. -/
def run (style : Style) (text : List Char) : Except Fault Output := do
  let replies ← (requests text).mapM (reply style)
  return replies.foldr Output.append {}

end RegexCompiler.Session
