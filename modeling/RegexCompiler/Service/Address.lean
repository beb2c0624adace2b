import RegexCompiler.Service.Text.Compatible
import RegexCompiler.Service.Text.Percent

/-!
# Addresses

An address is a scheme and a colon, two slashes and an authority, and a path; the first two may be
missing.  A query or a fragment may follow, and neither matters here.  Blanks and controls in front
of an address do not count, and tabs and line ends count nowhere.

An authority is a host, with a user in front of an at sign and a number behind a colon.  Its plain
form is in ASCII: the host in lower case, a user in escapes, and the number without leading zeros.
-/

namespace RegexCompiler.Service

open Text (Percent.encode isAscii plain)

/-- The parts of a text before and after the first `mark`: all and none if there is no mark. -/
def cutAt (mark : Char) (cs : List Char) : List Char × List Char :=
  (cs.takeWhile (· ≠ mark), (cs.dropWhile (· ≠ mark)).drop 1)

/-- The items of a text between marks. -/
def splitAt (isMark : Char → Bool) : List Char → List (List Char)
  | [] => [[]]
  | c :: cs =>
    if isMark c then [] :: splitAt isMark cs
    else match splitAt isMark cs with
      | first :: rest => (c :: first) :: rest
      | [] => [[c]]

/-! ## Authorities -/

/-- **An authority.** -/
structure Authority where
  /-- The name of the user, empty if there is none. -/
  user : List Char := []
  /-- The word that the user gives, empty if there is none. -/
  secret : List Char := []
  /-- The host. -/
  host : List Char := []
  /-- The number behind the host, if there is one. -/
  number : Option Nat := none
  deriving DecidableEq, Repr

namespace Authority

/-- The number that digits write, none if there are no digits or anything else. -/
def readNumber (cs : List Char) : Option Nat :=
  if !cs.isEmpty && cs.all Char.isDigit then some (Nat.ofDigitChars 10 cs 0) else none

/-- The host and the number.  A host in brackets may hold colons. -/
def readHost (cs : List Char) : List Char × Option Nat :=
  if cs.contains '[' then
    let (host, rest) := cutAt ']' (cutAt '[' cs).2
    (host, readNumber (cutAt ':' rest).2)
  else
    let (host, digits) := cutAt ':' cs
    (host, readNumber digits)

/-- **Reading an authority.**  The last at sign ends the user. -/
def ofText (cs : List Char) : Authority :=
  let (place, user) := cutAt '@' cs.reverse
  let (name, secret) := cutAt ':' user.reverse
  let (host, number) := readHost place.reverse
  { user := name, secret, host, number }

/-- A host in lower case, up to a percent sign. -/
def lowerHost (cs : List Char) : List Char :=
  (cs.takeWhile (· ≠ '%')).map Char.toLower ++ cs.dropWhile (· ≠ '%')

/-- The full stops of a host: the one of ASCII, and those written with ideographs. -/
def isStop (c : Char) : Bool := c == '.' || c == '\u3002' || c == '\uff0e' || c == '\uff61'

/-- One label of a host.  If it is not in ASCII but has a form that is, it is replaced by it;
otherwise it gets the mark of a foreign label, and how the label itself is written behind the mark
does not matter, as no path of the service has it. -/
def plainLabel (cs : List Char) : List Char :=
  if cs.all isAscii then cs
  else if (plain cs).all isAscii then plain cs
  else "xn--".toList ++ cs

/-- A name of a host, label by label in ASCII. -/
def plainName (cs : List Char) : List Char :=
  if cs.all isAscii then cs else ['.'].intercalate ((splitAt isStop cs).map plainLabel)

/-- The host in its plain form. -/
def plainHost (cs : List Char) : List Char := plainName (lowerHost cs)

/-- The characters that stand for themselves in the name of a user. -/
def isUserChar (c : Char) : Bool := c.isAlphanum || "_.-~%!$&'()*+,;=".toList.contains c

/-- The user in front of the at sign, if there is one. -/
def userText (a : Authority) : List Char :=
  if a.user.isEmpty then []
  else
    let secret := if a.secret.isEmpty then [] else ':' :: Percent.encode isUserChar a.secret
    Percent.encode isUserChar a.user ++ secret ++ ['@']

/-- The number behind its colon, if there is one. -/
def numberText (a : Authority) : List Char :=
  match a.number with
  | some n => ':' :: Nat.toDigits 10 n
  | none => []

/-- **The plain form.** -/
def toText (a : Authority) : List Char :=
  let host := plainHost a.host
  a.userText ++ (if host.contains ':' then '[' :: host ++ [']'] else host) ++ a.numberText

end Authority

/-! ## Addresses -/

/-- **An address.** -/
structure Address where
  /-- The scheme in lower case, empty if there is none. -/
  scheme : List Char := []
  /-- The authority, empty if there is none. -/
  authority : List Char := []
  /-- The path. -/
  path : List Char := []
  deriving DecidableEq, Repr

namespace Address

/-- The characters of a scheme after its first one. -/
def isSchemeChar (c : Char) : Bool := c.isAlphanum || c == '+' || c == '-' || c == '.'

/-- The text without leading blanks and controls, and without tabs and line ends. -/
def clean (cs : List Char) : List Char :=
  (cs.dropWhile (· ≤ ' ')).filter fun c => c ≠ '\t' ∧ c ≠ '\n' ∧ c ≠ '\r'

/-- The scheme in lower case, and what follows its colon. -/
def readScheme (cs : List Char) : List Char × List Char :=
  match cutAt ':' cs with
  | (c :: name, rest) =>
    if cs.contains ':' && c.isAlpha && name.all isSchemeChar
    then ((c :: name).map Char.toLower, rest)
    else ([], cs)
  | ([], _) => ([], cs)

/-- Whether a character ends the authority, and so starts a path, a query or a fragment. -/
def endsAuthority (c : Char) : Bool := c == '/' || c == '?' || c == '#'

/-- The authority, and what follows it. -/
def readAuthority (cs : List Char) : List Char × List Char :=
  match cs with
  | '/' :: '/' :: rest =>
    (rest.takeWhile fun c => !endsAuthority c, rest.dropWhile fun c => !endsAuthority c)
  | _ => ([], cs)

/-- **Reading an address.** -/
def ofText (cs : List Char) : Address :=
  let (scheme, rest) := readScheme (clean cs)
  let (authority, rest) := readAuthority rest
  { scheme, authority, path := rest.takeWhile fun c => c ≠ '?' ∧ c ≠ '#' }

/-- **Writing an address**, with the authority in its plain form. -/
def toText (a : Address) : List Char :=
  let authority := (Authority.ofText a.authority).toText
  let rest := if authority.isEmpty then a.path else '/' :: '/' :: authority ++ a.path
  if a.scheme.isEmpty then rest else a.scheme ++ ':' :: rest

end Address

end RegexCompiler.Service
