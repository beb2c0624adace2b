import RegexCompiler.Compile
import RegexCompiler.Workspace.Query

/-!
# Programs over registers

A program makes automata and asks questions, one step after the other, and goes on after a step
that fails.  Making an automaton rebinds one register to a new cell and leaves the others alone;
a step that fails rebinds nothing, but what it has consumed by then stays consumed.

* `Step.run` makes one step;
* `Workspace.run` makes a list of steps.
-/

namespace RegexCompiler

open WorkspaceM (resolve onStore)

/-- The ways of making an automaton. -/
inductive Maker where
  /-- The automaton without states. -/
  | empty
  /-- States without transitions. -/
  | sized (n : Int)
  /-- The automaton of one symbol. -/
  | literal (symbol : String)
  /-- An automaton given by its parts. -/
  | given (a : Automaton)
  /-- The automaton of a text, the empty one if the text is refused. -/
  | compile (regex : String)
  /-- The repetition of a register's automaton. -/
  | star (a : String)
  /-- The concatenation of two registers' automata. -/
  | concat (a b : String)
  /-- The union of two registers' automata. -/
  | union (a b : String)
  deriving DecidableEq, Repr

/-- A new cell with what a maker makes. -/
def Maker.make : Maker → WorkspaceM Handle
  | empty => onStore (StoreM.alloc .empty)
  | sized n => onStore (StoreM.alloc (.sized n))
  | literal s => onStore (StoreM.alloc (.literal s))
  | given a => onStore (StoreM.alloc a)
  | compile regex => onStore do
    StoreM.alloc (← StoreM.compute (Compilation.ofText regex)).automaton
  | star a => do
    let h ← resolve a
    onStore (StoreM.star h)
  | concat a b => do
    let h ← resolve a
    let k ← resolve b
    onStore (StoreM.concat h k)
  | union a b => do
    let h ← resolve a
    let k ← resolve b
    onStore (StoreM.union h k)

/-- **One step** of a program over registers. -/
inductive Step where
  /-- Makes an automaton and binds a register to it. -/
  | make (into : String) (maker : Maker)
  /-- Binds a register to what another one names. -/
  | share (a into : String)
  /-- Adds a transition to a register's automaton; answers its size. -/
  | addTransition (a : String) (t : Transition)
  /-- Asks a register's automaton. -/
  | ask (a : String) (query : Query)
  deriving DecidableEq, Repr

/-- Makes one step. -/
def Step.run : Step → WorkspaceM Answer
  | make into maker => do
    let h ← maker.make
    modify fun w => w.bind into h
    return .made (← onStore (StoreM.read h))
  | share a into => do
    let h ← resolve a
    modify fun w => w.bind into h
    return .nothing
  | addTransition a t => do
    let h ← resolve a
    onStore (StoreM.addTransition h t)
    return .number (some (← onStore (StoreM.read h)).size)
  | ask a query => do
    let h ← resolve a
    onStore (query.ask h)

namespace Workspace

/-- Makes one step on a workspace: its answer, and the workspace that it leaves. -/
def step (w : Workspace) (s : Step) : Except StepError Answer × Workspace :=
  StateT.run (ExceptT.run s.run) w

/-- **A run.**  The answers of steps made one after the other, and the workspace at the end. -/
def run (w : Workspace) : List Step → List (Except StepError Answer) × Workspace
  | [] => ([], w)
  | s :: rest =>
    let (answer, w) := w.step s
    let (answers, w) := w.run rest
    (answer :: answers, w)

end Workspace

end RegexCompiler
