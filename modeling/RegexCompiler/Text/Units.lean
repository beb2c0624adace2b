/-!
# UTF-16 units

A character above U+FFFF is two UTF-16 units, the halves of a surrogate pair.  A half that
stands alone is no character; it is read as U+FFFD.
-/

namespace RegexCompiler.Text

/-- The first half of a surrogate pair. -/
def isHighHalf (n : Nat) : Bool := 0xD800 ≤ n && n < 0xDC00

/-- The second half of a surrogate pair. -/
def isLowHalf (n : Nat) : Bool := 0xDC00 ≤ n && n < 0xE000

/-- The character with code point `n`; U+FFFD for half a pair. -/
def ofCode (n : Nat) : Char :=
  if isHighHalf n || isLowHalf n then '\ufffd' else Char.ofNat n

/-- The character of a surrogate pair. -/
def ofPair (high low : Nat) : Char :=
  Char.ofNat (0x10000 + (high - 0xD800) * 0x400 + (low - 0xDC00))

/-- **The characters of a run of units.**  The two halves of a pair are one character; a number
above U+FFFF is a code point of its own. -/
def ofUnits : List Nat → List Char
  | [] => []
  | [n] => [ofCode n]
  | n :: m :: rest =>
    if isHighHalf n && isLowHalf m then ofPair n m :: ofUnits rest
    else ofCode n :: ofUnits (m :: rest)

/-- The units of one character. -/
def units (c : Char) : List Nat :=
  if c.toNat < 0x10000 then [c.toNat]
  else
    let n := c.toNat - 0x10000
    [0xD800 + n / 0x400, 0xDC00 + n % 0x400]

end RegexCompiler.Text
