import RegexCompiler.Automaton.Basic
import RegexCompiler.Text.Decimal
import RegexCompiler.Text.Quoted

/-!
# Automata as text

Two forms.  The *listing* has one line per transition, `(source, symbol, target)`, with the
symbol as it is.  The *description* names every part of the automaton and quotes the symbols.
-/

namespace RegexCompiler

namespace Transition

/-- The line of a transition in a listing. -/
def line (t : Transition) : String :=
  "(" ++ Text.ofInt t.source ++ ", " ++ t.symbol ++ ", " ++ Text.ofInt t.target ++ ")"

/-- The description of a transition. -/
def describe (t : Transition) : String :=
  "Transition(state_from=" ++ Text.ofInt t.source ++ ", symbol=" ++ Text.quote t.symbol ++
    ", state_to=" ++ Text.ofInt t.target ++ ")"

end Transition

namespace Automaton

/-- The lines of a listing, without its heading. -/
def display (a : Automaton) : List String := a.transitions.map Transition.line

/-- **The listing**: a heading and the lines, separated by line feeds. -/
def listing (a : Automaton) : String := String.intercalate "\n" ("NFA:" :: a.display)

/-- The description of a final state. -/
def describeFinal : Option Int → String
  | some f => Text.ofInt f
  | none => "None"

/-- **The description**: size, final state and transitions by name. -/
def describe (a : Automaton) : String :=
  "Automaton(states=" ++ Text.ofInt a.size ++ ", final=" ++ describeFinal a.final ++
    ", transitions=[" ++ String.intercalate ", " (a.transitions.map Transition.describe) ++ "])"

end Automaton

end RegexCompiler
