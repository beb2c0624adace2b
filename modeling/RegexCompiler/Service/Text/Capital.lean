/-!
# Capital letters

The capital form of a letter may be more than one letter, and ten letters outside ASCII have a
capital form inside it: the dotless i, the long s, the sharp s and seven ligatures.  A text is
written in capitals to be compared with words of ASCII, so those ten are all that matters; every
other letter outside ASCII is left as it is.
-/

namespace RegexCompiler.Text

/-- **The table.**  The letters outside ASCII whose capital form is in ASCII. -/
def capitalForms : List (Char × String) :=
  [('\u00df', "SS"), ('\u0131', "I"), ('\u017f', "S"), ('\ufb00', "FF"), ('\ufb01', "FI"),
   ('\ufb02', "FL"), ('\ufb03', "FFI"), ('\ufb04', "FFL"), ('\ufb05', "ST"), ('\ufb06', "ST")]

/-- The capital form of one character. -/
def capitalChar (c : Char) : List Char :=
  match capitalForms.lookup c with
  | some form => form.toList
  | none => [c.toUpper]

/-- **The text in capitals.** -/
def capitals (cs : List Char) : List Char := cs.flatMap capitalChar

end RegexCompiler.Text
