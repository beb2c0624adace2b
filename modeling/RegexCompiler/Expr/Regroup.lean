import RegexCompiler.Expr.Basic

/-!
# Regrouping concatenations

Concatenation does not care how its parts are grouped.  `regroup` groups them to the right, at
every level of an expression, so two expressions that differ in grouping only become equal.
-/

namespace RegexCompiler.Expr

/-- The concatenation of two expressions, the first of which gives its parts to the right. -/
def chain : Expr → Expr → Expr
  | concat l r, e => concat l (r.chain e)
  | e, e' => concat e e'

/-- **The expression with all concatenations grouped to the right.** -/
def regroup : Expr → Expr
  | literal s => literal s
  | star e => star e.regroup
  | concat l r => l.regroup.chain r.regroup
  | union l r => union l.regroup r.regroup

end RegexCompiler.Expr
