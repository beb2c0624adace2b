import RegexCompiler.CommandLine

/-!
# The program

Reads the command line, then the source.  The standard input is read line by line, and every line
is answered before the next one is read; a file is read as a whole.
-/

namespace RegexCompiler.Program

/-- Writes an output to the two streams. -/
def emit (o : Session.Output) : IO Unit := do
  IO.print o.answers
  IO.eprint o.complaints
  (← IO.getStdout).flush

/-- Complains about the command line. -/
def misuse (e : CommandLine.UsageError) : IO UInt32 := do
  IO.eprintln ("Error: " ++ e.message)
  return 2

/-- Answers a text; the code to exit with. -/
def reply (style : Session.Style) (text : List Char) : IO UInt32 := do
  match Session.run style text with
  | .ok output =>
    emit output
    return 0
  | .error f =>
    IO.eprintln f.message
    return 1

/-- Answers the lines of a stream until one says to quit or the stream ends. -/
partial def converse (style : Session.Style) (stream : IO.FS.Stream) : IO UInt32 := do
  let chunk := (← stream.getLine).toList
  if chunk.isEmpty then return 0
  let code ← reply style chunk
  if code ≠ 0 || (Text.lines chunk).any Session.isQuit then return code
  converse style stream

end RegexCompiler.Program

open RegexCompiler Program in
/-- The program `[OPTIONS] [SOURCE]`. -/
def main (args : List String) : IO UInt32 := do
  match CommandLine.parse args with
  | .error e => misuse e
  | .ok .help =>
    IO.print CommandLine.helpText
    return 0
  | .ok (.session style quiet .standardInput) =>
    emit (CommandLine.greeting quiet)
    converse style (← IO.getStdin)
  | .ok (.session style quiet (.file path)) =>
    match ← (IO.FS.readFile path).toBaseIO with
    | .error _ => misuse (.unreadable path)
    | .ok text =>
      emit (CommandLine.greeting quiet)
      reply style text.toList
