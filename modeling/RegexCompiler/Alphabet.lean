/-!
# The alphabet of expressions

An expression is written with the letters `a` to `z`, the mark `E` of the empty word, and four
signs: `(`, `)`, `*` and `|`.  Every other character is *foreign*.

The one table is `Token.ofChar?`: what a character means, `none` for a foreign one.  The first
foreign character of a text (`foreign?`) and whether a text may be read at all (`isWritten`) are
taken from it.
-/

namespace RegexCompiler

/-- The mark of the empty word, in an expression and on a silent transition. -/
def epsilon : String := "E"

/-- One meaningful character of an expression. -/
inductive Token where
  /-- A letter, or the mark of the empty word. -/
  | symbol (c : Char)
  /-- `(` opens a group. -/
  | opening
  /-- `)` closes a group. -/
  | closing
  /-- `*` repeats what stands before it. -/
  | star
  /-- `|` separates two alternatives. -/
  | bar
  deriving DecidableEq, Repr

namespace Alphabet

/-- The letters of words: `a` to `z`. -/
def isLetter (c : Char) : Bool := 'a' ≤ c && c ≤ 'z'

/-- The characters that stand for an expression by themselves: a letter or `E`. -/
def isSymbol (c : Char) : Bool := isLetter c || c == 'E'

end Alphabet

/-- **The table of characters.**  What `c` means in an expression; `none` if `c` is foreign. -/
def Token.ofChar? (c : Char) : Option Token :=
  if Alphabet.isSymbol c then some (.symbol c)
  else if c = '(' then some .opening
  else if c = ')' then some .closing
  else if c = '*' then some .star
  else if c = '|' then some .bar
  else none

namespace Alphabet

/-- A character outside the alphabet and the four signs. -/
def isForeign (c : Char) : Bool := (Token.ofChar? c).isNone

/-- The first foreign character, with its position counted in characters from 0. -/
def foreign? (cs : List Char) : Option (Char × Nat) := cs.zipIdx.find? fun p => isForeign p.1

/-- The position of the first foreign character. -/
def firstForeign? (cs : List Char) : Option Nat := (foreign? cs).map (·.2)

/-- Whether a text may be read as an expression at all: it is not empty and holds no foreign
character. -/
def isWritten (cs : List Char) : Bool := !cs.isEmpty && (firstForeign? cs).isNone

end Alphabet

end RegexCompiler
