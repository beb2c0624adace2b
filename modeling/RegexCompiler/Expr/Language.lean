import Mathlib.Computability.Language
import RegexCompiler.Alphabet
import RegexCompiler.Expr.Basic

/-!
# The language of an expression

A word is a list of symbols.  The symbol `E` denotes the empty word, every other symbol the word
of that one symbol; the other expressions denote what their operators say.
-/

namespace RegexCompiler.Expr

/-- The language of one symbol. -/
def symbolLanguage (s : String) : Language String := if s = epsilon then 1 else {[s]}

/-- **The language of an expression.** -/
def language : Expr → Language String
  | literal s => symbolLanguage s
  | star e => KStar.kstar e.language
  | concat l r => l.language * r.language
  | union l r => l.language + r.language

end RegexCompiler.Expr
