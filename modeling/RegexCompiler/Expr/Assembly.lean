import RegexCompiler.Automaton.Construction
import RegexCompiler.Expr.Basic

/-!
# The automaton of an expression, by recursion

What the walk over an expression computes with a store and two stacks, said by recursion on the
expression: each node is the construction of its name, applied to the automata of its parts.
-/

namespace RegexCompiler.Expr

/-- **The automaton of an expression, by recursion.** -/
def assemble : Expr → Except Fault Automaton
  | literal s => .ok (.literal s)
  | star e => do (← e.assemble).star
  | concat l r => do
    let a ← l.assemble
    let b ← r.assemble
    a.concat b
  | union l r => do
    let a ← l.assemble
    let b ← r.assemble
    a.union b

end RegexCompiler.Expr
