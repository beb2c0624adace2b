import RegexCompiler.Json.Basic
import RegexCompiler.Text.Hex
import RegexCompiler.Text.Quoted
import RegexCompiler.Text.Units

/-!
# The lexemes of JSON

Words, numbers and texts, read off the front of a list of characters.  Besides the three words of
JSON there are three special numbers: `NaN`, `Infinity` and `-Infinity`.  A whole number of more
digits than the limit allows is refused, and so is a text that holds control characters as they
are.  A half of a surrogate pair that stands alone is read as U+FFFD.

Every reader takes as much as it can: what it leaves does not go on with what it has read.
-/

namespace RegexCompiler.Json

open Text (backslash doubleMark ofHex? ofUnits)

/-! ## Words -/

/-- The rest of `cs` after `word`, if it starts so. -/
def dropWord? (word : List Char) (cs : List Char) : Option (List Char) :=
  if word.isPrefixOf cs then some (cs.drop word.length) else none

/-- The values that are words, and the special numbers. -/
def words : List (List Char × Json) :=
  [("null".toList, .null), ("true".toList, .bool true), ("false".toList, .bool false),
   ("NaN".toList, .real "NaN"), ("Infinity".toList, .real "Infinity"),
   ("-Infinity".toList, .real "-Infinity")]

/-- Reads a value that is a word. -/
def word? (cs : List Char) : Option (Json × List Char) :=
  words.findSome? fun w => (dropWord? w.1 cs).map (w.2, ·)

/-! ## Numbers -/

/-- The standard limit: the largest number of digits of a whole number. -/
def maxDigits : Nat := 4300

/-- The digits of the whole part: a single zero, or digits that start with none. -/
def wholeDigits? (cs : List Char) : Option (List Char × List Char) :=
  match cs with
  | '0' :: rest => some (['0'], rest)
  | _ =>
    let digits := cs.takeWhile Char.isDigit
    if digits.isEmpty then none else some (digits, cs.dropWhile Char.isDigit)

/-- A point with the digits after it, if there are any; otherwise nothing. -/
def fraction (cs : List Char) : List Char × List Char :=
  match cs with
  | '.' :: rest =>
    let digits := rest.takeWhile Char.isDigit
    if digits.isEmpty then ([], cs) else ('.' :: digits, rest.dropWhile Char.isDigit)
  | _ => ([], cs)

/-- The sign of an exponent, if there is one. -/
def sign (cs : List Char) : List Char × List Char :=
  match cs with
  | '+' :: rest => (['+'], rest)
  | '-' :: rest => (['-'], rest)
  | _ => ([], cs)

/-- An exponent with its sign and digits, if it has any; otherwise nothing. -/
def exponent (cs : List Char) : List Char × List Char :=
  match cs with
  | c :: rest =>
    if c = 'e' ∨ c = 'E' then
      let (mark, rest) := sign rest
      let digits := rest.takeWhile Char.isDigit
      if digits.isEmpty then ([], cs)
      else (c :: mark ++ digits, rest.dropWhile Char.isDigit)
    else ([], cs)
  | [] => ([], cs)

/-- The number with the given sign, digits and other parts. -/
def ofDigits? (limit : Nat) (negative : Bool) (digits other : List Char) : Option Json :=
  if other.isEmpty then
    if limit < digits.length then none
    else
      let n : Int := Int.ofNat (Nat.ofDigitChars 10 digits 0)
      some (.int (if negative then -n else n))
  else some (.real (String.ofList ((if negative then ['-'] else []) ++ digits ++ other)))

/-- A number without its sign. -/
def unsigned? (limit : Nat) (negative : Bool) (cs : List Char) : Option (Json × List Char) := do
  let (digits, rest) ← wholeDigits? cs
  let (point, rest) := fraction rest
  let (power, rest) := exponent rest
  let j ← ofDigits? limit negative digits (point ++ power)
  return (j, rest)

/-- A number. -/
def number? (limit : Nat) (cs : List Char) : Option (Json × List Char) :=
  match cs with
  | '-' :: rest => unsigned? limit true rest
  | _ => unsigned? limit false cs

/-! ## Texts -/

/-- The character of an escape of two characters, by its second one. -/
def unescape? (c : Char) : Option Char :=
  if c = backslash ∨ c = doubleMark ∨ c = '/' then some c
  else if c = 'n' then some '\n'
  else if c = 'r' then some '\r'
  else if c = 't' then some '\t'
  else if c = 'f' then some '\x0c'
  else if c = 'b' then some '\x08'
  else none

/-- The inside of a text up to its closing mark, and what follows the mark.  A character stands
for its code point, an escape of four digits for a UTF-16 unit. -/
def units? : List Char → Option (List Nat × List Char)
  | [] => none
  | c :: rest =>
    if c = doubleMark then some ([], rest)
    else if c.toNat < 0x20 then none
    else if c ≠ backslash then (units? rest).map fun p => (c.toNat :: p.1, p.2)
    else match rest with
      | 'u' :: h1 :: h2 :: h3 :: h4 :: rest => do
        let n ← ofHex? [h1, h2, h3, h4]
        (units? rest).map fun p => (n :: p.1, p.2)
      | d :: rest => do
        let d ← unescape? d
        (units? rest).map fun p => (d.toNat :: p.1, p.2)
      | [] => none

/-- The text up to its closing mark, and what follows the mark. -/
def string? (cs : List Char) : Option (String × List Char) :=
  (units? cs).map fun p => (String.ofList (ofUnits p.1), p.2)

end RegexCompiler.Json
