import RegexCompiler.Json.Lexeme

/-!
# Reading JSON

The grammar of JSON, held strictly: no comma stands before a closing bracket, and nothing but
blanks follows the value.  Of two equal keys the last counts.

* `value?`, `items?` and `fields?` read a value off the front of a list of characters and give the
  rest back;
* `parseWithin?` reads a whole text within a limit for the digits of whole numbers;
* `parse?` does so within the standard limit.

The three readers call each other at most twice for every character that they pass, so fuel for
twice the length of the text and one call more is always enough.
-/

namespace RegexCompiler.Json

open Text (doubleMark)

/-- The blanks between the parts of a value. -/
def isSpace (c : Char) : Bool := c == ' ' || c == '\t' || c == '\n' || c == '\r'

/-- The characters after leading blanks. -/
def skipSpace (cs : List Char) : List Char := cs.dropWhile isSpace

mutual

/-- Reads a value that starts with the first character. -/
def value? (limit : Nat) : (fuel : Nat) → List Char → Option (Json × List Char)
  | 0, _ | _, [] => none
  | fuel + 1, c :: rest =>
    if c = doubleMark then (string? rest).map fun p => (.str p.1, p.2)
    else if c = '[' then
      match skipSpace rest with
      | ']' :: rest => some (.arr [], rest)
      | rest => (items? limit fuel rest).map fun p => (.arr p.1, p.2)
    else if c = '\x7b' then
      match skipSpace rest with
      | '\x7d' :: rest => some (.obj [], rest)
      | rest => (fields? limit fuel rest).map fun p => (ofFields p.1, p.2)
    else word? (c :: rest) <|> number? limit (c :: rest)

/-- Reads the items of an array, at least one, up to the closing bracket. -/
def items? (limit : Nat) : (fuel : Nat) → List Char → Option (List Json × List Char)
  | 0, _ => none
  | fuel + 1, cs => do
    let (j, rest) ← value? limit fuel cs
    match skipSpace rest with
    | ',' :: rest => (items? limit fuel (skipSpace rest)).map fun p => (j :: p.1, p.2)
    | ']' :: rest => some ([j], rest)
    | _ => none

/-- Reads the fields of an object, at least one, up to the closing brace. -/
def fields? (limit : Nat) : (fuel : Nat) → List Char → Option (List (String × Json) × List Char)
  | 0, _ | _, [] => none
  | fuel + 1, c :: rest => do
    guard (c = doubleMark)
    let (key, rest) ← string? rest
    match skipSpace rest with
    | ':' :: rest =>
      let (j, rest) ← value? limit fuel (skipSpace rest)
      match skipSpace rest with
      | ',' :: rest =>
        (fields? limit fuel (skipSpace rest)).map fun p => ((key, j) :: p.1, p.2)
      | '\x7d' :: rest => some ([(key, j)], rest)
      | _ => none
    | _ => none

end

/-- **Reading** within a limit: the value of a text, if it is the text of one. -/
def parseWithin? (limit : Nat) (cs : List Char) : Option Json := do
  let (j, rest) ← value? limit (2 * cs.length + 1) (skipSpace cs)
  if (skipSpace rest).isEmpty then some j else none

/-- **Reading.**  The value of a text, if it is the text of one, within the standard limit. -/
def parse? (cs : List Char) : Option Json := parseWithin? maxDigits cs

end RegexCompiler.Json
