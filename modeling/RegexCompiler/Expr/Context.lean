import RegexCompiler.Expr.Basic

/-!
# Expressions with a hole

A context is an expression in which one part is left open.
-/

namespace RegexCompiler

/-- **Expressions with one hole.** -/
inductive Context where
  /-- The hole itself. -/
  | hole
  /-- A repetition around the hole. -/
  | star (inner : Context)
  /-- A concatenation with the hole in its first part. -/
  | concatLeft (left : Context) (right : Expr)
  /-- A concatenation with the hole in its second part. -/
  | concatRight (left : Expr) (right : Context)
  /-- A union with the hole in its first part. -/
  | unionLeft (left : Context) (right : Expr)
  /-- A union with the hole in its second part. -/
  | unionRight (left : Expr) (right : Context)
  deriving DecidableEq, Repr

/-- The expression that a context becomes when `e` is put into its hole. -/
def Context.fill (e : Expr) : Context → Expr
  | hole => e
  | star k => .star (k.fill e)
  | concatLeft k r => .concat (k.fill e) r
  | concatRight l k => .concat l (k.fill e)
  | unionLeft k r => .union (k.fill e) r
  | unionRight l k => .union l (k.fill e)

end RegexCompiler
