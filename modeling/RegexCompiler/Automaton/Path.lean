import Mathlib.Computability.Language
import RegexCompiler.Automaton.Basic

/-!
# The language of an automaton

A path follows transitions from state to state and spells the symbols that it passes; silent
transitions spell nothing.  An automaton accepts the words of its paths from the initial state to
the final one.

`WellFormed` says what sizes and transitions alone do not: the final state is set, and it and all
ends of transitions are states.
-/

namespace RegexCompiler

/-- The word that a transition spells: one symbol, or none if it is silent. -/
def Transition.word (t : Transition) : List String :=
  if t.symbol = epsilon then [] else [t.symbol]

namespace Automaton

/-- **Paths.**  `Path a p w q`: from `p` one comes to `q` and spells `w`. -/
inductive Path (a : Automaton) : Int → List String → Int → Prop where
  /-- One may stay. -/
  | nil (p : Int) : Path a p [] p
  /-- One may follow a transition and go on. -/
  | cons {t : Transition} {w : List String} {q : Int} :
      t ∈ a.transitions → Path a t.target w q → Path a t.source (t.word ++ w) q

/-- **The language of an automaton**: the words from the initial state to the final one. -/
def language (a : Automaton) : Language String :=
  { w | ∃ f, a.final = some f ∧ a.Path initial w f }

/-- Whether `q` is one of the states. -/
def IsState (a : Automaton) (q : Int) : Prop := 0 ≤ q ∧ q < a.size

/-- **Well-formedness.** -/
structure WellFormed (a : Automaton) : Prop where
  /-- The final state is set, and it is a state. -/
  final_isState : ∃ f, a.final = some f ∧ a.IsState f
  /-- Transitions leave states. -/
  source_isState : ∀ t ∈ a.transitions, a.IsState t.source
  /-- Transitions enter states. -/
  target_isState : ∀ t ∈ a.transitions, a.IsState t.target

end Automaton

end RegexCompiler
