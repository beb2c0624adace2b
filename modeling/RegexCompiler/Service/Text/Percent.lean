import RegexCompiler.Service.Text.Encoding
import RegexCompiler.Text.Hex

/-!
# Percent escapes

In an address an octet may be written as a percent sign and its two hexadecimal digits.  `encode`
writes every octet so that is not of a character to keep; `decode` reads the escapes back, and
leaves a percent sign alone that two digits do not follow.
-/

namespace RegexCompiler.Text.Percent

/-- The escape of one octet. -/
def escapeOctet (n : Nat) : List Char := '%' :: (hex 2 n).map Char.toUpper

/-- **Escaping** every character that is not to be kept, octet by octet. -/
def encode (keep : Char → Bool) (cs : List Char) : List Char :=
  cs.flatMap fun c => if keep c then [c] else (octets [c]).flatMap escapeOctet

/-- The octet whose digits a text starts with. -/
def octet? : List Char → Option Nat
  | a :: b :: _ => ofHex? [a, b]
  | _ => none

/-- Reads escapes after `skip` characters that do not count any more. -/
def decodeAfter : (skip : Nat) → List Char → List Char
  | _, [] => []
  | skip + 1, _ :: cs => decodeAfter skip cs
  | 0, c :: cs =>
    if c = '%' then
      match octet? cs with
      | some n => Char.ofNat n :: decodeAfter 2 cs
      | none => c :: decodeAfter 0 cs
    else c :: decodeAfter 0 cs

/-- **Reading escapes.**  An octet outside ASCII stands for itself: it is part of no character
that an address is taken apart by. -/
def decode (cs : List Char) : List Char := decodeAfter 0 cs

end RegexCompiler.Text.Percent
