import RegexCompiler.Expr.Basic
import RegexCompiler.Store

/-!
# The automaton of an expression

The nodes of an expression are visited in post-order, without recursion: a list of tasks says
what is still to do, and a stack holds the automata of the parts that are done.  Every automaton
lives in a store and is used once.

* `Task.run` works off a list of tasks;
* `Expr.build` is the automaton that is left when the whole expression is visited.
-/

namespace RegexCompiler

/-- One thing to do on the way through an expression. -/
inductive Task where
  /-- Visit an expression with all its parts. -/
  | visit (e : Expr)
  /-- Repeat the automaton on top of the stack. -/
  | star
  /-- Concatenate the two automata on top of the stack. -/
  | concat
  /-- Unite the two automata on top of the stack. -/
  | union
  deriving DecidableEq, Repr

namespace Task

/-- A bound for the number of steps that a task takes. -/
def weight : Task → Nat
  | visit e => 2 * e.size
  | star | concat | union => 1

open StoreM in
/-- **The walk.**  Works off the tasks, first one first, over the stack `built`, top first. -/
def run : List Task → (built : List Handle) → StoreM (List Handle)
  | [], built => return built
  | visit (.literal s) :: tasks, built => do run tasks ((← alloc (.literal s)) :: built)
  | visit (.star e) :: tasks, built => run (visit e :: star :: tasks) built
  | visit (.concat l r) :: tasks, built => run (visit l :: visit r :: concat :: tasks) built
  | visit (.union l r) :: tasks, built => run (visit l :: visit r :: union :: tasks) built
  | star :: tasks, a :: built => do run tasks ((← StoreM.star a) :: built)
  | concat :: tasks, b :: a :: built => do run tasks ((← StoreM.concat a b) :: built)
  | union :: tasks, b :: a :: built => do run tasks ((← StoreM.union a b) :: built)
  | _ :: _, _ => throw .starved
termination_by tasks => (tasks.map weight).foldr (· + ·) 0
decreasing_by all_goals simp [weight, Expr.size] <;> omega

end Task

namespace Expr

/-- Visits the whole expression over an empty stack; the one handle that is left names its
automaton. -/
def buildHandle (e : Expr) : StoreM Handle := do
  match ← Task.run [.visit e] [] with
  | [h] => return h
  | _ => throw .starved

/-- **The automaton of an expression**, built in a store of its own. -/
def build (e : Expr) : Except Fault Automaton :=
  (StoreM.runOn (do StoreM.read (← e.buildHandle)) {}).1

end Expr

end RegexCompiler
