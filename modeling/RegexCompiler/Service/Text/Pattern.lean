import RegexCompiler.Service.Text.Pattern.Reader

/-!
# Naming texts

A setting may name texts by a pattern, which takes a text if it takes the front of it.  A text
without pattern marks is no pattern and names itself alone; one with marks that cannot be read as
a pattern names no text.
-/

namespace RegexCompiler.Text

/-- The marks by which a text is taken for a pattern. -/
def patternMarks : List Char := "*\\]?$^[()".toList

/-- Whether a text is taken for a pattern. -/
def isPattern (cs : List Char) : Bool := cs.any patternMarks.contains

/-- **Naming.**  Whether `name`, a text or a pattern, names the text `cs`. -/
def isNamedBy (name cs : List Char) : Bool :=
  if isPattern name then (Pattern.ofText? {} name).any (·.takes cs) else name == cs

/-- **Naming without regard to case.** -/
def isNamedIgnoringCase (name cs : List Char) : Bool :=
  if isPattern name then (Pattern.ofText? { ignoresCase := true } name).any (·.takes cs)
  else fold name == fold cs

end RegexCompiler.Text
