import RegexCompiler.Service.Address

/-!
# Targets

The target of a request is a text that is read as an address three times: the path of one reading
is the text of the next.  The first reading gives the scheme and the authority of the request, the
second drops what it finds of the two, and the third keeps both in front of its path.  So the
authority of the innermost address is part of the path that the service looks at.
-/

namespace RegexCompiler.Service

/-- **What a request is about.** -/
structure Target where
  /-- The scheme, empty if the text names none. -/
  scheme : List Char := []
  /-- The authority in its plain form, empty if the text names none. -/
  authority : List Char := []
  /-- The path, its escapes read, without leading slashes. -/
  path : List Char := []
  deriving DecidableEq, Repr

namespace Target

/-- The path of a text that is read as an address for the third time. -/
def pathOf (cs : List Char) : List Char :=
  (Text.Percent.decode (Address.ofText cs).toText).dropWhile (· = '/')

/-- **Reading a target.** -/
def ofText (text : String) : Target :=
  let outer := Address.ofText text.toList
  { scheme := outer.scheme
    authority := (Authority.ofText outer.authority).toText
    path := pathOf (Address.ofText outer.path).path }

/-- The longest label that a host may have. -/
def maxLabel : Nat := 63

/-- Whether the part of an authority before its first colon can be a host: no label but the last is
empty, and none is too long. -/
def isHost (authority : List Char) : Bool :=
  let labels := splitAt (· = '.') (cutAt ':' authority).1
  labels.dropLast.all (!·.isEmpty) && labels.all (·.length ≤ maxLabel)

/-- The schemes of connections that stay open, on which the service does not speak. -/
def isSocket (scheme : List Char) : Bool := scheme == "ws".toList || scheme == "wss".toList

end Target

end RegexCompiler.Service
