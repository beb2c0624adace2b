import RegexCompiler.Json.Basic
import RegexCompiler.Text.Decimal
import RegexCompiler.Text.Quoted
import RegexCompiler.Text.Units

/-!
# Writing JSON

A value is written in one line of ASCII characters: after a comma and after a colon stands one
space, and nowhere else.  In a text the double quotation mark and the backslash stand behind a
backslash, five control characters have an escape of two characters, and every other character
that is not printable ASCII is written `\u` with four digits, in UTF-16 units.
-/

namespace RegexCompiler.Json

open Text (backslash doubleMark hex)

/-- A UTF-16 unit as an escape. -/
def escapeUnit (n : Nat) : List Char := backslash :: 'u' :: hex 4 n

/-- How one character is written inside a text. -/
def escapeChar (c : Char) : List Char :=
  if c = backslash ∨ c = doubleMark then [backslash, c]
  else if c = '\n' then [backslash, 'n']
  else if c = '\r' then [backslash, 'r']
  else if c = '\t' then [backslash, 't']
  else if c.toNat = 0x0C then [backslash, 'f']
  else if c.toNat = 0x08 then [backslash, 'b']
  else if 0x20 ≤ c.toNat ∧ c.toNat < 0x7F then [c]
  else (Text.units c).flatMap escapeUnit

/-- A text between double quotation marks. -/
def writeString (s : String) : List Char :=
  doubleMark :: s.toList.flatMap escapeChar ++ [doubleMark]

mutual

/-- The characters of a value. -/
def chars : Json → List Char
  | null => "null".toList
  | bool true => "true".toList
  | bool false => "false".toList
  | int n => Text.decimal n
  | real spelling => spelling.toList
  | str s => writeString s
  | arr items => '[' :: charsOfItems items ++ [']']
  | obj fields => '\x7b' :: charsOfFields fields ++ ['\x7d']

/-- The items of an array, separated by commas. -/
def charsOfItems : List Json → List Char
  | [] => []
  | [j] => j.chars
  | j :: rest => j.chars ++ ',' :: ' ' :: charsOfItems rest

/-- The fields of an object, separated by commas. -/
def charsOfFields : List (String × Json) → List Char
  | [] => []
  | [(k, j)] => writeString k ++ ':' :: ' ' :: j.chars
  | (k, j) :: rest => writeString k ++ ':' :: ' ' :: j.chars ++ ',' :: ' ' :: charsOfFields rest

end

/-- **Writing.**  The text of a value, in one line. -/
def write (j : Json) : String := String.ofList j.chars

end RegexCompiler.Json
