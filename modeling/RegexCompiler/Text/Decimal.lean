/-!
# Decimal integers

An integer is written with the digits `0` to `9`, without leading zeros, and a `-` in front if
it is negative.
-/

namespace RegexCompiler.Text

/-- The characters of an integer in base ten. -/
def decimal : Int → List Char
  | .ofNat n => Nat.toDigits 10 n
  | .negSucc n => '-' :: Nat.toDigits 10 (n + 1)

/-- The text of an integer in base ten. -/
def ofInt (n : Int) : String := String.ofList (decimal n)

/-- The text of a natural number in base ten. -/
def ofNat (n : Nat) : String := String.ofList (Nat.toDigits 10 n)

end RegexCompiler.Text
