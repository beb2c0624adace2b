import RegexCompiler.Alphabet

/-!
# Automata

A nondeterministic automaton has states `0` to `size - 1`, a list of transitions in the order in
which they were added, the initial state `0`, and at most one final state.  A transition carries
a text as its symbol; the one marked `E` is silent.

The type makes no promise: sizes and states are any integers, and the ends of a transition need
not be states.
-/

namespace RegexCompiler

/-- A transition from one state to another. -/
structure Transition where
  /-- The state that it leaves. -/
  source : Int
  /-- What it reads. -/
  symbol : String
  /-- The state that it enters. -/
  target : Int
  deriving DecidableEq, Repr

namespace Transition

/-- A transition that reads nothing. -/
def silent (source target : Int) : Transition := ⟨source, epsilon, target⟩

/-- The transition with both ends moved up by `offset`. -/
def shift (offset : Int) (t : Transition) : Transition :=
  { t with source := t.source + offset, target := t.target + offset }

end Transition

/-- **Automata.** -/
structure Automaton where
  /-- The number of states. -/
  size : Int
  /-- The transitions, in the order in which they were added. -/
  transitions : List Transition := []
  /-- The final state, if it is set. -/
  final : Option Int := none
  deriving DecidableEq, Repr

namespace Automaton

/-- The automaton without states. -/
def empty : Automaton := { size := 0 }

/-- An automaton of `n` states without transitions and without a final state. -/
def sized (n : Int) : Automaton := { size := n }

/-- The automaton of one symbol. -/
def literal (symbol : String) : Automaton :=
  { size := 2, transitions := [⟨0, symbol, 1⟩], final := some 1 }

/-- The state in which every automaton starts. -/
def initial : Int := 0

/-- Whether there are no states. -/
def isEmpty (a : Automaton) : Bool := a.size == 0

/-- The states in order; none if the size is not positive. -/
def states (a : Automaton) : List Int := (List.range a.size.toNat).map Int.ofNat

/-- The automaton with one more transition, which comes last. -/
def addTransition (a : Automaton) (t : Transition) : Automaton :=
  { a with transitions := a.transitions ++ [t] }

end Automaton

end RegexCompiler
