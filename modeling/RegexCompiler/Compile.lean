import RegexCompiler.Expr.Build
import RegexCompiler.Expr.Scan

/-!
# From a text to an automaton

A text is first held against the alphabet: it must not be empty, and its first foreign character
refuses it, whatever else is wrong.  Then it is read as an expression, and the automaton of the
expression is built.

`compile` fails with its failure; a `Compilation` holds a refusal beside the automaton, which is
then the empty one.
-/

namespace RegexCompiler

namespace Alphabet

/-- Refuses a text that cannot be an expression because of its characters. -/
def check (cs : List Char) : Except RegexError Unit :=
  if cs.isEmpty then .error .emptyText
  else match foreign? cs with
    | some (c, i) => .error (.foreignCharacter c i)
    | none => .ok ()

end Alphabet

/-- **The automaton of a text.** -/
def compile (regex : String) : Except Failure Automaton := do
  let cs := regex.toList
  (Alphabet.check cs).mapError .refused
  let e ← Expr.parse cs
  e.build.mapError .broken

/-- What became of a text. -/
structure Compilation where
  /-- The automaton; the empty one if the text was refused. -/
  automaton : Automaton
  /-- Why the text was refused, if it was. -/
  error : Option RegexError := none
  deriving DecidableEq, Repr

/-- **Compiling a text, a refusal being a value.** -/
def Compilation.ofText (regex : String) : Except Fault Compilation :=
  match compile regex with
  | .ok a => .ok { automaton := a }
  | .error (.refused e) => .ok { automaton := .empty, error := some e }
  | .error (.broken f) => .error f

end RegexCompiler
