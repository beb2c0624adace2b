import RegexCompiler.Alphabet
import RegexCompiler.Expr.Basic

/-!
# The grammar of expressions

How a text is read, said without stacks.  There are three levels:

* a *union* is a chain, or a union, `|` and a chain;
* a *chain* is an item, or a chain and an item;
* an *item* is a symbol, a union between parentheses, or an item and `*`.

`Derives level text e` says that `text` may be read at `level` as the expression `e`.  The
levels say which operator binds tighter, and the left recursion says that both join to the left.
-/

namespace RegexCompiler

/-- The levels of the grammar. -/
inductive Level where
  /-- Alternatives. -/
  | union
  /-- Items one after the other. -/
  | chain
  /-- What an operator `*` may follow. -/
  | item
  deriving DecidableEq, Repr

/-- **Derivations.** -/
inductive Derives : Level → List Char → Expr → Prop where
  /-- A chain is a union. -/
  | single {r : List Char} {e : Expr} : Derives .chain r e → Derives .union r e
  /-- A union may go on with an alternative. -/
  | alternative {r s : List Char} {l e : Expr} :
      Derives .union r l → Derives .chain s e → Derives .union (r ++ '|' :: s) (.union l e)
  /-- An item is a chain. -/
  | link {r : List Char} {e : Expr} : Derives .item r e → Derives .chain r e
  /-- A chain may go on with an item. -/
  | next {r s : List Char} {l e : Expr} :
      Derives .chain r l → Derives .item s e → Derives .chain (r ++ s) (.concat l e)
  /-- A letter or `E` is an item. -/
  | symbol {c : Char} :
      Alphabet.isSymbol c → Derives .item [c] (.literal (String.singleton c))
  /-- A union between parentheses is an item. -/
  | group {r : List Char} {e : Expr} :
      Derives .union r e → Derives .item ('(' :: r ++ [')']) e
  /-- An item may be repeated. -/
  | star {r : List Char} {e : Expr} :
      Derives .item r e → Derives .item (r ++ ['*']) (.star e)

end RegexCompiler
