import RegexCompiler.Text.Hex
import RegexCompiler.Text.Printable

/-!
# Quoted text

A text is shown between quotation marks, in one line and without invisible characters.  The
marks are single, unless the text holds a single mark and no double one.  A backslash and the
mark in use stand behind a backslash, a line feed, a carriage return and a tab are `\n`, `\r`
and `\t`, and any other character that is not printable is named by its code point: `\x` and
two digits, `\u` and four, or `\U` and eight.
-/

namespace RegexCompiler.Text

/-- The single quotation mark, U+0027. -/
def singleMark : Char := '\x27'

/-- The double quotation mark, U+0022. -/
def doubleMark : Char := '\x22'

/-- The backslash, U+005C. -/
def backslash : Char := '\x5c'

/-- The mark that a text is quoted with. -/
def quoteMark (cs : List Char) : Char :=
  if cs.contains singleMark && !cs.contains doubleMark then doubleMark else singleMark

/-- The code point of a character as an escape of the least of the three widths. -/
def escapeCode (n : Nat) : List Char :=
  if n < 0x100 then backslash :: 'x' :: hex 2 n
  else if n < 0x10000 then backslash :: 'u' :: hex 4 n
  else backslash :: 'U' :: hex 8 n

/-- How one character is written between quotation marks `mark`. -/
def escape (mark c : Char) : List Char :=
  if c = backslash ∨ c = mark then [backslash, c]
  else if c = '\n' then [backslash, 'n']
  else if c = '\r' then [backslash, 'r']
  else if c = '\t' then [backslash, 't']
  else if isPrintable c then [c]
  else escapeCode c.toNat

/-- The quoted form of a text, as characters. -/
def quoteChars (cs : List Char) : List Char :=
  let mark := quoteMark cs
  mark :: cs.flatMap (escape mark) ++ [mark]

/-- The quoted form of a text. -/
def quote (s : String) : String := String.ofList (quoteChars s.toList)

end RegexCompiler.Text
