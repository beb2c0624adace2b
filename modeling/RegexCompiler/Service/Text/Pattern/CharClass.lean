import RegexCompiler.Text.Blank
import RegexCompiler.Service.Text.Fold
import RegexCompiler.Service.Text.Word

/-!
# Classes of characters

A pattern names characters by classes: ranges of code points and families, or whatever is in none
of them.  What a class holds depends on the flags: whether case matters, and whether families and
case reach beyond ASCII.
-/

namespace RegexCompiler.Text

/-- **Flags**: how a pattern is read. -/
structure Flags where
  /-- Whether case does not matter. -/
  ignoresCase : Bool := false
  /-- Whether families and case are those of ASCII. -/
  isAscii : Bool := false
  /-- Whether the edges of a text are those of its lines, too. -/
  isLinewise : Bool := false
  /-- Whether a point stands for a line feed, too. -/
  takesLineFeeds : Bool := false
  /-- Whether blanks and remarks in the pattern say nothing. -/
  isSpaced : Bool := false
  deriving DecidableEq, Repr

/-- **Families of characters.** -/
inductive Family where
  /-- Decimal digits. -/
  | digit
  /-- Blanks. -/
  | blank
  /-- The characters of words. -/
  | word
  deriving DecidableEq, Repr

/-- The blanks of ASCII in a family: it is without the separators. -/
def asciiBlanks : List Char := [' ', '\t', '\n', '\x0b', '\x0c', '\r']

/-- Whether a family holds a character. -/
def Family.holds (flags : Flags) (c : Char) : Family → Bool
  | digit => if flags.isAscii then c.isDigit else isDigit c
  | blank => if flags.isAscii then asciiBlanks.contains c else isBlank c
  | word => if flags.isAscii then c.isAlphanum || c == '_' else isWord c

/-- The letters i, with and without a dot, which are the same without regard to case. -/
def lettersI : List Char := ['i', 'I', '\u0131', '\u0130']

/-- **Sameness** of characters.  Without regard to case those are the same that fold to the same
text, and the letters i. -/
def Flags.same (flags : Flags) (c d : Char) : Bool :=
  if !flags.ignoresCase then c == d
  else if flags.isAscii then c.toLower == d.toLower
  else foldChar c == foldChar d || lettersI.contains c && lettersI.contains d

/-- **What a class is made of.** -/
inductive ClassItem where
  /-- The code points from the first to the last. -/
  | range (first last : Nat)
  /-- A family, or whatever is outside of it. -/
  | family (f : Family) (isInside : Bool)
  deriving DecidableEq, Repr

namespace ClassItem

/-- Whether a character, or one that is the same, is in an item. -/
def holds (flags : Flags) (c : Char) : ClassItem → Bool
  | range first last =>
    first ≤ c.toNat && c.toNat ≤ last ||
      flags.ignoresCase &&
        (List.range' first (last + 1 - first)).any fun n =>
          n.isValidChar && flags.same c (Char.ofNat n)
  | family f isInside => f.holds flags c == isInside

end ClassItem

/-- **A class of characters.** -/
structure CharClass where
  /-- Its items. -/
  items : List ClassItem
  /-- Whether it holds what is in none of them. -/
  isNegated : Bool := false
  deriving DecidableEq, Repr

namespace CharClass

/-- **Holding** a character. -/
def holds (k : CharClass) (flags : Flags) (c : Char) : Bool :=
  k.items.any (·.holds flags c) != k.isNegated

/-- The class of one code point. -/
def single (n : Nat) : CharClass := { items := [.range n n] }

/-- The class of a point: everything, but perhaps the line feed. -/
def point (flags : Flags) : CharClass :=
  { items := if flags.takesLineFeeds then [] else [.range 10 10], isNegated := true }

end CharClass

end RegexCompiler.Text
