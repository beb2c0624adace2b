import RegexCompiler.Session

/-!
# The command line

`[OPTIONS] [SOURCE]`: options may stand before and after the source, and may be repeated; short
ones may be written together, as in `-qq`.  `--` ends the options, and `-` names the standard
input, which is also the source when none is given.

A line that cannot be understood is a `UsageError`.  The options are read first, all of them; a
call for help then wins over everything that is wrong with the source.

What a command does depends on what its line asks for, not on how the line is read: `runWith` takes
any reader of command lines, and `run` the one above.
-/

namespace RegexCompiler.CommandLine

/-- What an option switches on. -/
inductive Switch where
  /-- Automata are shown as JSON. -/
  | json
  /-- The banner is left out. -/
  | quiet
  /-- The help is shown, and nothing else is done. -/
  | help
  deriving DecidableEq, Repr

/-- The options of two dashes. -/
def longOptions : List (String × Switch) :=
  [("--json", .json), ("--quiet", .quiet), ("--help", .help)]

/-- The options of one dash, by their letter. -/
def shortOptions : List (Char × Switch) := [('q', .quiet)]

/-- What is wrong with a command line. -/
inductive UsageError where
  /-- There is no such option. -/
  | unknownOption (arg : String)
  /-- An option is given a value, but takes none. -/
  | unwantedValue (name : String)
  /-- There is more than one source. -/
  | extraArgument (arg : String)
  /-- The source cannot be read. -/
  | unreadable (path : String)
  deriving DecidableEq, Repr

/-- What is told about a usage error. -/
def UsageError.message : UsageError → String
  | unknownOption arg => "No such option: " ++ arg
  | unwantedValue name => "Option " ++ Text.quote name ++ " does not take a value."
  | extraArgument arg => "Got unexpected extra argument (" ++ arg ++ ")"
  | unreadable path => "Cannot read " ++ Text.quote path

/-- Whether an argument is an option: it starts with a dash and is more than a dash. -/
def isOption (arg : String) : Bool :=
  match arg.toList with
  | '-' :: _ :: _ => true
  | _ => false

/-- The switches of options of one dash that are written together. -/
def shortSwitches (arg : String) (letters : List Char) : Except UsageError (List Switch) :=
  letters.mapM fun c =>
    match shortOptions.lookup c with
    | some s => .ok s
    | none => .error (.unknownOption arg)

/-- The switches of an option. -/
def switches (arg : String) : Except UsageError (List Switch) :=
  let name := String.ofList (arg.toList.takeWhile (· ≠ '='))
  match longOptions.lookup name with
  | some s => if name = arg then .ok [s] else .error (.unwantedValue name)
  | none =>
    match arg.toList with
    | '-' :: '-' :: _ => .error (.unknownOption arg)
    | _ => shortSwitches arg (arg.toList.drop 1)

/-- The switches and the other arguments of a command line, in order. -/
def split : List String → Except UsageError (List Switch × List String)
  | [] => .ok ([], [])
  | arg :: rest =>
    if arg = "--" then .ok ([], rest)
    else if isOption arg then do
      let here ← switches arg
      let (more, others) ← split rest
      return (here ++ more, others)
    else do
      let (more, others) ← split rest
      return (more, arg :: others)

/-- Where the lines come from. -/
inductive Source where
  /-- The standard input. -/
  | standardInput
  /-- A file. -/
  | file (path : String)
  deriving DecidableEq, Repr

/-- The source that an argument names. -/
def Source.ofArg (arg : String) : Source := if arg = "-" then .standardInput else .file arg

/-- **What a command line asks for.** -/
inductive Invocation where
  /-- The help. -/
  | help
  /-- A session. -/
  | session (style : Session.Style) (quiet : Bool) (source : Source)
  deriving DecidableEq, Repr

/-- **Reading a command line.** -/
def parse (args : List String) : Except UsageError Invocation := do
  let (on, others) ← split args
  if on.contains .help then return .help
  let style := if on.contains .json then Session.Style.json else .listing
  let quiet := on.contains .quiet
  match others with
  | [] => return .session style quiet .standardInput
  | [arg] => return .session style quiet (.ofArg arg)
  | _ :: arg :: _ => throw (.extraArgument arg)

/-- The help. -/
def helpText : String :=
  "Usage: main [OPTIONS] [SOURCE]\n" ++
  "\n" ++
  "  Compile regular expressions read line by line from SOURCE (stdin by default).\n" ++
  "\n" ++
  "Options:\n" ++
  "  --json       Print each NFA as JSON.\n" ++
  "  -q, --quiet  Do not print the banner.\n" ++
  "  --help       Show this message and exit.\n"

/-- What is written before the first answer. -/
def greeting (quiet : Bool) : Session.Output :=
  if quiet then {} else { answers := Session.banner }

/-- How a command ends. -/
inductive Outcome where
  /-- The command line was not understood. -/
  | misused (error : UsageError)
  /-- The command ran and wrote something. -/
  | finished (output : Session.Output)
  deriving DecidableEq, Repr

/-- The code that a command exits with. -/
def Outcome.exitCode : Outcome → Nat
  | misused _ => 2
  | finished _ => 0

/-- The text of a source, if it can be read. -/
def Source.text? (read? : String → Option String) (given : String) : Source → Option String
  | .standardInput => some given
  | .file path => read? path

/-- **Running a command**, where `understand` says what a command line asks for and `read?` gives
the texts of files. -/
def runWith (understand : List String → Except UsageError Invocation) (args : List String)
    (read? : String → Option String) (standardInput : String) : Except Fault Outcome :=
  match understand args with
  | .error e => .ok (.misused e)
  | .ok .help => .ok (.finished { answers := helpText })
  | .ok (.session style quiet source) =>
    match source.text? read? standardInput, source with
    | some text, _ => do
      let output ← Session.run style text.toList
      return .finished (greeting quiet ++ output)
    | none, .file path => .ok (.misused (.unreadable path))
    | none, .standardInput => .ok (.misused (.unreadable "-"))

/-- Running a command whose command line is read by `parse`. -/
def run (args : List String) (read? : String → Option String) (standardInput : String) :
    Except Fault Outcome :=
  runWith parse args read? standardInput

end RegexCompiler.CommandLine
