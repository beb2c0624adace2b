import RegexCompiler.Text.Quoted

/-!
# Regular expressions

An expression is a tree: a literal symbol, a repetition, a concatenation or a union.  A symbol
is any text; the reader of expressions makes symbols of one character only.
-/

namespace RegexCompiler

/-- **Regular expressions** over texts as symbols. -/
inductive Expr where
  /-- One symbol. -/
  | literal (symbol : String)
  /-- Any number of repetitions. -/
  | star (inner : Expr)
  /-- One after the other. -/
  | concat (left right : Expr)
  /-- Either of the two. -/
  | union (left right : Expr)
  deriving DecidableEq, Repr

namespace Expr

/-- The number of nodes of the tree. -/
def size : Expr → Nat
  | literal _ => 1
  | star e => e.size + 1
  | concat l r | union l r => l.size + r.size + 1

/-- The tree written out: each node by its name, with its parts by theirs. -/
def describe : Expr → String
  | literal s => "Literal(symbol=" ++ Text.quote s ++ ")"
  | star e => "Star(inner=" ++ e.describe ++ ")"
  | concat l r => "Concat(left=" ++ l.describe ++ ", right=" ++ r.describe ++ ")"
  | union l r => "Union(left=" ++ l.describe ++ ", right=" ++ r.describe ++ ")"

end Expr

end RegexCompiler
