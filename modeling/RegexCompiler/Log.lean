import RegexCompiler.Compile

/-!
# The log

Every compilation leaves one record: the size of the automaton if there is one, the reason if
the text was refused.  The text stands in the record in its quoted form.
-/

namespace RegexCompiler

/-- How much a record matters. -/
inductive LogLevel where
  /-- For those who follow every step. -/
  | debug
  /-- For those who look after the program. -/
  | warning
  deriving DecidableEq, Repr

/-- The name of a level. -/
def LogLevel.name : LogLevel → String
  | .debug => "DEBUG"
  | .warning => "WARNING"

/-- **Log records.** -/
structure LogRecord where
  /-- How much it matters. -/
  level : LogLevel
  /-- What it says. -/
  text : String
  deriving DecidableEq, Repr

/-- What is logged of an automaton. -/
def LogRecord.compiled (regex : String) (a : Automaton) : LogRecord where
  level := .debug
  text := "compiled " ++ Text.quote regex ++ ": " ++ Text.ofInt a.size ++ " states, " ++
    Text.ofNat a.transitions.length ++ " transitions"

/-- What is logged of a refusal. -/
def LogRecord.rejected (regex : String) (e : RegexError) : LogRecord where
  level := .warning
  text := "rejected regex " ++ Text.quote regex ++ ": " ++ e.text

/-- **The record of a compilation** of the text `regex`. -/
def Compilation.record (c : Compilation) (regex : String) : LogRecord :=
  match c.error with
  | none => .compiled regex c.automaton
  | some e => .rejected regex e

/-- The records of texts compiled one after the other. -/
def LogRecord.ofTexts (regexes : List String) : Except Fault (List LogRecord) :=
  regexes.mapM fun r => do return (← Compilation.ofText r).record r

end RegexCompiler
