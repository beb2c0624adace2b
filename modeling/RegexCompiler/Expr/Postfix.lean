import RegexCompiler.Expr.Basic

/-!
# Postfix form

The nodes of an expression in post-order, left before right.  The form needs no parentheses:
`ofPostfix?` rebuilds the tree from it with one stack (`ofPostfix?_toPostfix`).
-/

namespace RegexCompiler

/-- One node of an expression in postfix form. -/
inductive PostfixItem where
  /-- A literal symbol. -/
  | literal (symbol : String)
  /-- Repeats the expression before it. -/
  | star
  /-- Joins the two expressions before it. -/
  | concat
  /-- Offers the two expressions before it. -/
  | union
  deriving DecidableEq, Repr

/-- How an item is written: a literal as its symbol, the others as `*`, `.` and `|`. -/
def PostfixItem.text : PostfixItem → String
  | literal s => s
  | star => "*"
  | concat => "."
  | union => "|"

namespace Expr

/-- The postfix form of an expression, in front of `rest`. -/
def toPostfixAppend : Expr → List PostfixItem → List PostfixItem
  | literal s, rest => .literal s :: rest
  | star e, rest => e.toPostfixAppend (.star :: rest)
  | concat l r, rest => l.toPostfixAppend (r.toPostfixAppend (.concat :: rest))
  | union l r, rest => l.toPostfixAppend (r.toPostfixAppend (.union :: rest))

/-- The postfix form of an expression. -/
def toPostfix (e : Expr) : List PostfixItem := e.toPostfixAppend []

/-- The postfix form of an expression as one text. -/
def postfixText (e : Expr) : String := String.join (e.toPostfix.map PostfixItem.text)

/-- One item of a postfix form against the stack of the expressions read so far, last first. -/
def pushPostfix? : List Expr → PostfixItem → Option (List Expr)
  | stack, .literal s => some (literal s :: stack)
  | e :: stack, .star => some (star e :: stack)
  | r :: l :: stack, .concat => some (concat l r :: stack)
  | r :: l :: stack, .union => some (union l r :: stack)
  | _, _ => none

/-- The expression with a given postfix form, if there is one. -/
def ofPostfix? (items : List PostfixItem) : Option Expr :=
  match items.foldlM pushPostfix? [] with
  | some [e] => some e
  | _ => none

/-- Reading the postfix form of `e` puts `e` on the stack and goes on behind it. -/
theorem foldlM_pushPostfix?_toPostfixAppend (e : Expr) (rest : List PostfixItem)
    (stack : List Expr) :
    (e.toPostfixAppend rest).foldlM pushPostfix? stack =
      rest.foldlM pushPostfix? (e :: stack) := by
  induction e generalizing rest stack with
  | literal s => rfl
  | star e ih => rw [toPostfixAppend, ih]; rfl
  | concat l r ihl ihr => rw [toPostfixAppend, ihl, ihr]; rfl
  | union l r ihl ihr => rw [toPostfixAppend, ihl, ihr]; rfl

/-- **The round trip.**  An expression is rebuilt from its postfix form. -/
theorem ofPostfix?_toPostfix (e : Expr) : ofPostfix? e.toPostfix = some e := by
  rw [ofPostfix?, toPostfix, foldlM_pushPostfix?_toPostfixAppend]
  rfl

end Expr

end RegexCompiler
