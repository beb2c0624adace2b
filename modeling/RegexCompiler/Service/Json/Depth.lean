import RegexCompiler.Json.Reader

/-!
# The depth of a text

Every level of a JSON value takes its part of the stack of whoever reads it.  A text *overruns* a
limit if its reader comes to a bracket that opens one level too many, whatever stands behind the
bracket.  The reader comes there if the text up to the bracket is one of JSON, as is seen when all
open brackets are closed behind it.
-/

namespace RegexCompiler.Json

open Text (backslash doubleMark)

/-- Where a character of a text of JSON stands. -/
inductive Mode where
  /-- Outside of quotation marks. -/
  | plain
  /-- Between quotation marks. -/
  | quoted
  /-- Behind a backslash between quotation marks. -/
  | escaped
  deriving DecidableEq, Repr

/-- Where the next character stands. -/
def Mode.next (mode : Mode) (c : Char) : Mode :=
  match mode with
  | plain => if c = doubleMark then quoted else plain
  | quoted => if c = doubleMark then plain else if c = backslash then escaped else quoted
  | escaped => quoted

/-- The brackets that close the levels that are open behind a character, the innermost one first. -/
def levels (mode : Mode) (closing : List Char) (c : Char) : List Char :=
  if mode ≠ .plain then closing
  else if c = '[' then ']' :: closing
  else if c = '\x7b' then '\x7d' :: closing
  else if closing.head? = some c then closing.tail
  else closing

/-- The text up to the first bracket that opens one level more than `limit`, with all brackets
closed behind it. -/
def crop? (limit : Nat) : Mode → List Char → List Char → Option (List Char)
  | _, _, [] => none
  | mode, closing, c :: cs =>
    let closing := levels mode closing c
    if limit < closing.length then some (c :: closing)
    else (crop? limit (mode.next c) closing cs).map (c :: ·)

/-- **Overrunning**: whether a reader with room for `limit` levels comes to one more. -/
def overruns (limit : Nat) (cs : List Char) : Bool :=
  match crop? limit .plain [] cs with
  | some front => (parse? front).isSome
  | none => false

end RegexCompiler.Json
