import RegexCompiler.Automaton.Basic
import RegexCompiler.Json.Basic
import RegexCompiler.Text.Decimal

/-!
# Machine descriptions

What it takes to draw or to run an automaton: its states, where it starts and ends,
its transitions with a name for each, and the symbols that it reads.  The name of a transition,
`source_target_symbol_index`, holds its place in the list, so equal transitions have different
names.  The symbols are those of the transitions that are not silent, each once, in the order of
their code points.
-/

namespace RegexCompiler

/-- A transition with a name of its own. -/
structure MachineTransition where
  /-- The transition. -/
  transition : Transition
  /-- Its name. -/
  id : String
  deriving DecidableEq, Repr

/-- **Machine descriptions.** -/
structure Machine where
  /-- The states in order. -/
  states : List Int
  /-- The initial state, unless there are no states. -/
  start : Option Int
  /-- The final state, if it is set. -/
  accepting : List Int
  /-- The transitions in order. -/
  transitions : List MachineTransition
  /-- The symbols in order. -/
  symbols : List String
  deriving DecidableEq, Repr

namespace Transition

/-- The name of a transition at place `index` of a list. -/
def id (t : Transition) (index : Nat) : String :=
  Text.ofInt t.source ++ "_" ++ Text.ofInt t.target ++ "_" ++ t.symbol ++ "_" ++
    Text.ofNat index

end Transition

namespace Machine

/-- Puts a text in its place in an ascending list, unless it is there. -/
def insertSymbol (s : String) : List String → List String
  | [] => [s]
  | t :: rest => if s < t then s :: t :: rest else if s = t then t :: rest
      else t :: insertSymbol s rest

/-- The symbols of a list of transitions, `E` apart, in ascending order. -/
def symbolsOf (transitions : List Transition) : List String :=
  ((transitions.map (·.symbol)).filter (· ≠ epsilon)).foldr insertSymbol []

/-- The JSON object of one transition. -/
def transitionJson (t : MachineTransition) : Json :=
  .obj [("from", .int t.transition.source), ("to", .int t.transition.target),
    ("symbol", .str t.transition.symbol), ("id", .str t.id)]

/-- The JSON object of a description. -/
def toJson (m : Machine) : Json :=
  .obj [("states", .arr (m.states.map .int)), ("start", .ofInt? m.start),
    ("accepting", .arr (m.accepting.map .int)),
    ("transitions", .arr (m.transitions.map transitionJson)),
    ("symbols", .arr (m.symbols.map .str))]

end Machine

/-- **The machine description of an automaton.** -/
def Automaton.machine (a : Automaton) : Machine where
  states := a.states
  start := if a.isEmpty then none else some initial
  accepting := a.final.toList
  transitions := a.transitions.zipIdx.map fun p => ⟨p.1, p.1.id p.2⟩
  symbols := Machine.symbolsOf a.transitions

end RegexCompiler
