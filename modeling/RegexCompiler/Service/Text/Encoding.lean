import RegexCompiler.Text.Units

/-!
# The encoding of a document

A document of octets is in UTF-8, UTF-16 or UTF-32; which, is seen from the zeros among its first
four octets, as its first two characters are ASCII.  A byte-order mark of UTF-8 is no part of the
text.

The octets arrive as a text that was read from them as UTF-8, so `decode?` starts from that text
and goes back to the octets only if the zeros say so.
-/

namespace RegexCompiler.Text

/-- The order of the octets of a number. -/
inductive ByteOrder where
  /-- The most significant octet comes first. -/
  | big
  /-- The least significant octet comes first. -/
  | little
  deriving DecidableEq, Repr

/-- The encodings of a document. -/
inductive Encoding where
  /-- One to four octets for a character. -/
  | utf8
  /-- Two octets for a UTF-16 unit. -/
  | utf16 (order : ByteOrder)
  /-- Four octets for a character. -/
  | utf32 (order : ByteOrder)
  deriving DecidableEq, Repr

/-- The encoding of a document, from its first octets. -/
def Encoding.detect : List Nat → Encoding
  | 0 :: 0 :: _ :: _ :: _ => .utf32 .big
  | 0 :: _ :: _ :: _ :: _ => .utf16 .big
  | _ :: 0 :: 0 :: 0 :: _ => .utf32 .little
  | _ :: 0 :: _ :: _ :: _ => .utf16 .little
  | [0, _] => .utf16 .big
  | [_, 0] => .utf16 .little
  | _ => .utf8

/-- The number with the given octets, most significant first. -/
def ofOctets (octets : List Nat) : Nat := octets.foldl (fun n b => 256 * n + b) 0

/-- The number with the given octets in the given order. -/
def ByteOrder.number (order : ByteOrder) (octets : List Nat) : Nat :=
  match order with
  | .big => ofOctets octets
  | .little => ofOctets octets.reverse

/-- The numbers of two octets each, if no octet is left over. -/
def pairs? (order : ByteOrder) : List Nat → Option (List Nat)
  | [] => some []
  | a :: b :: rest => (pairs? order rest).map (order.number [a, b] :: ·)
  | _ => none

/-- The numbers of four octets each, if no octet is left over. -/
def quadruples? (order : ByteOrder) : List Nat → Option (List Nat)
  | [] => some []
  | a :: b :: c :: d :: rest => (quadruples? order rest).map (order.number [a, b, c, d] :: ·)
  | _ => none

/-- The character with code point `n`, if there may be one. -/
def codePoint? (n : Nat) : Option Char := if n < 0x110000 then some (ofCode n) else none

/-- The octets of a text in UTF-8. -/
def octets (cs : List Char) : List Nat := (cs.flatMap String.utf8EncodeChar).map UInt8.toNat

/-- **The characters of a document**, given as the text that its octets are in UTF-8; none if
they are not well formed in the encoding that they show. -/
def decode? (cs : List Char) : Option (List Char) :=
  match cs with
  | '\ufeff' :: rest => some rest
  | _ =>
    match Encoding.detect (octets (cs.take 4)) with
    | .utf8 => some cs
    | .utf16 order => (pairs? order (octets cs)).map ofUnits
    | .utf32 order => (quadruples? order (octets cs)).bind (·.mapM codePoint?)

end RegexCompiler.Text
