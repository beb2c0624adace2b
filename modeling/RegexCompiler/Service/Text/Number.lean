import RegexCompiler.Text.Decimal

/-!
# Real numbers

A real number is kept to 53 binary digits: it is `significand * 2 ^ exponent`, with an exponent
between -1074 and 971, or infinite, or no number at all.  What is written in decimal digits is read
as the nearest such number, and of two that are as near as the other as the one with an even
significand.

The text of a real number has the fewest digits by which it is read back, and of several such texts
it is the nearest.  The point stands among the digits if at most sixteen of them are in front of
it, and fewer than four zeros behind it before the first other digit; else there is an exponent.
-/

namespace RegexCompiler.Text

/-! ## Fractions -/

/-- **A fraction** that is not negative. -/
structure Fraction where
  /-- The numerator. -/
  num : Nat
  /-- The denominator. -/
  den : Nat
  deriving DecidableEq, Repr

namespace Fraction

/-- The fraction times a power. -/
def scale (r : Fraction) (base : Nat) (e : Int) : Fraction :=
  if 0 ≤ e then { r with num := r.num * Nat.pow base e.toNat }
  else { r with den := r.den * Nat.pow base (-e).toNat }

/-- The whole number below, and the nearest one: of two that are as near, the even one. -/
def round (r : Fraction) : Nat × Nat :=
  let low := r.num / r.den
  let twice := 2 * (r.num % r.den)
  (low, if twice < r.den ∨ twice = r.den ∧ low % 2 = 0 then low else low + 1)

/-- The number of digits in front of the point: zero or less, if it is less than one. -/
def point (r : Fraction) : Int :=
  let guess : Int := (Nat.toDigits 10 r.num).length - (Nat.toDigits 10 r.den).length
  let scaled := r.scale 10 (-guess)
  if scaled.num < scaled.den then guess else guess + 1

end Fraction

/-! ## Binary numbers -/

/-- **A number in binary digits.** -/
structure Binary where
  /-- The digits. -/
  significand : Nat
  /-- The power of two that they are multiplied by. -/
  exponent : Int
  deriving DecidableEq, Repr

namespace Binary

/-- The number of digits. -/
def precision : Nat := 53

/-- The least exponent. -/
def minExponent : Int := -1074

/-- The greatest exponent. -/
def maxExponent : Int := 971

/-- **The nearest number** to a fraction, unless it is infinite. -/
def nearest? (r : Fraction) : Option Binary :=
  let rough : Int := (Nat.log2 r.num : Int) - Nat.log2 r.den - precision
  let scaled := r.scale 2 (-rough)
  let fine := if scaled.num < Nat.pow 2 precision * scaled.den then rough else rough + 1
  let e := max minExponent fine
  let s := (r.scale 2 (-e)).round.2
  let b : Binary := if s = Nat.pow 2 precision then ⟨Nat.pow 2 (precision - 1), e + 1⟩ else ⟨s, e⟩
  if b.exponent ≤ maxExponent then some b else none

/-- The value. -/
def toFraction (b : Binary) : Fraction := Fraction.scale ⟨b.significand, 1⟩ 2 b.exponent

/-- The digits of a number, if `count` of them are enough to read it back, as a whole number. -/
def digits? (b : Binary) (count : Nat) : Option Nat :=
  let r := b.toFraction
  let e := (count : Int) - r.point
  let (low, near) := (r.scale 10 e).round
  [near, if near = low then low + 1 else low].find? fun d =>
    nearest? (Fraction.scale ⟨d, 1⟩ 10 (-e)) = some b

/-- The fewest digits by which a number is read back, without zeros at the end, and the number of
them in front of the point. -/
def shortest (b : Binary) : List Char × Int :=
  let found := (List.range 17).findSome? fun i => (b.digits? (i + 1)).map (i + 1, ·)
  let (count, d) := found.getD (1, 0)
  let digits := Nat.toDigits 10 d
  ((digits.reverse.dropWhile (· = '0')).reverse, digits.length + b.toFraction.point - count)

/-- An exponent with its sign, in two digits at least. -/
def exponentText (e : Int) : List Char :=
  let digits := Nat.toDigits 10 e.natAbs
  (if e < 0 then '-' else '+') :: (List.replicate (2 - digits.length) '0' ++ digits)

/-- **The text** of a number. -/
def toText (b : Binary) : List Char :=
  if b.significand = 0 then "0.0".toList
  else
    let (digits, point) := b.shortest
    let zeros (n : Int) := List.replicate n.toNat '0'
    if -4 < point ∧ point ≤ 16 then
      let whole := digits.take point.toNat ++ zeros (point - digits.length)
      let part := zeros (-point) ++ digits.drop point.toNat
      (if whole.isEmpty then ['0'] else whole) ++ '.' :: (if part.isEmpty then ['0'] else part)
    else
      let part := if digits.length = 1 then [] else '.' :: digits.drop 1
      digits.take 1 ++ part ++ 'e' :: exponentText (point - 1)

end Binary

/-! ## Real numbers -/

/-- **A real number.** -/
inductive Number where
  /-- A finite one. -/
  | finite (isNegative : Bool) (size : Binary)
  /-- An infinite one. -/
  | infinite (isNegative : Bool)
  /-- No number. -/
  | undefined
  deriving DecidableEq, Repr

namespace Number

/-- The place of the point beyond which every number is infinite, or zero on the other side. -/
def farPoint : Int := 400

/-- The number with the given digits and exponent of ten. -/
def ofDigits (isNegative : Bool) (digits : List Char) (e : Int) : Number :=
  let digits := digits.dropWhile (· = '0')
  let point := digits.length + e
  if digits.isEmpty ∨ point < -farPoint then .finite isNegative ⟨0, Binary.minExponent⟩
  else if farPoint < point then .infinite isNegative
  else
    match Binary.nearest? (Fraction.scale ⟨Nat.ofDigitChars 10 digits 0, 1⟩ 10 e) with
    | some b => .finite isNegative b
    | none => .infinite isNegative

/-- The exponent that is written after its mark. -/
def readExponent : List Char → Int
  | '-' :: digits => -(Nat.ofDigitChars 10 digits 0 : Int)
  | '+' :: digits | digits => Nat.ofDigitChars 10 digits 0

/-- The number without its sign, as it is written: digits, perhaps a point with more of them, and
perhaps an exponent. -/
def ofUnsigned (isNegative : Bool) (cs : List Char) : Number :=
  match cs with
  | 'N' :: _ => .undefined
  | 'I' :: _ => .infinite isNegative
  | cs =>
    let isMark (c : Char) := c == 'e' || c == 'E'
    let number := cs.takeWhile fun c => !isMark c
    let whole := number.takeWhile (· ≠ '.')
    let part := number.drop (whole.length + 1)
    let e := readExponent ((cs.dropWhile fun c => !isMark c).drop 1)
    ofDigits isNegative (whole ++ part) (e - part.length)

/-- **Reading** a number that is written with a point or an exponent, or as a word. -/
def ofText : List Char → Number
  | '-' :: cs => ofUnsigned true cs
  | cs => ofUnsigned false cs

/-- Whether a number is zero. -/
def isZero : Number → Bool
  | finite _ b => b.significand = 0
  | _ => false

/-- **The text** of a number. -/
def toText : Number → List Char
  | finite isNegative b => (if isNegative then ['-'] else []) ++ b.toText
  | infinite isNegative => (if isNegative then ['-'] else []) ++ "inf".toList
  | undefined => "nan".toList

end Number

end RegexCompiler.Text
