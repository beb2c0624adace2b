import RegexCompiler.Automaton.Listing
import RegexCompiler.Automaton.Machine
import RegexCompiler.Workspace.Basic

/-!
# Questions about an automaton

Every question needs a live automaton, but for two: the description, which a consumed automaton
has too, and the initial state, which is the same for all.
-/

namespace RegexCompiler

/-- What may be asked of an automaton. -/
inductive Query where
  /-- Its description; a consumed automaton has one too. -/
  | description
  /-- Its initial state, which does not depend on the automaton. -/
  | initial
  /-- Its states. -/
  | states
  /-- Its size. -/
  | size
  /-- Its final state. -/
  | final
  /-- Whether it has no states. -/
  | isEmpty
  /-- Its transitions. -/
  | transitions
  /-- The lines of its listing. -/
  | display
  /-- Its listing. -/
  | listing
  /-- Its machine description. -/
  | machine
  deriving DecidableEq, Repr

/-- What a step answers. -/
inductive Answer where
  /-- Nothing. -/
  | nothing
  /-- The automaton that was made. -/
  | made (a : Automaton)
  /-- A number, if there is one. -/
  | number (n : Option Int)
  /-- Several numbers. -/
  | numbers (ns : List Int)
  /-- A truth value. -/
  | truth (b : Bool)
  /-- Transitions. -/
  | transitions (ts : List Transition)
  /-- A text. -/
  | text (s : String)
  /-- Several texts. -/
  | texts (ss : List String)
  /-- A machine description. -/
  | machine (m : Machine)
  deriving DecidableEq, Repr

/-- **Asking** about the automaton at `h`. -/
def Query.ask (q : Query) (h : Handle) : StoreM Answer := do
  match q with
  | description => return .text ((← get).describe h)
  | initial => return .number (some Automaton.initial)
  | states => return .numbers (← StoreM.read h).states
  | size => return .number (some (← StoreM.read h).size)
  | final => return .number (← StoreM.read h).final
  | isEmpty => return .truth (← StoreM.read h).isEmpty
  | transitions => return .transitions (← StoreM.read h).transitions
  | display => return .texts (← StoreM.read h).display
  | listing => return .text (← StoreM.read h).listing
  | machine => return .machine (← StoreM.read h).machine

end RegexCompiler
