/-!
# Lines

A line ends at a line feed, at a carriage return, or at a carriage return with a line feed right
after it; no other character ends a line.  The ends do not belong to the lines.  What follows the
last end is a line only if it is not empty.
-/

namespace RegexCompiler.Text

/-- **The lines of a text.** -/
def lines : List Char → List (List Char)
  | [] => []
  | '\n' :: cs => [] :: lines cs
  | '\r' :: '\n' :: cs => [] :: lines cs
  | '\r' :: cs => [] :: lines cs
  | c :: cs =>
    match lines cs with
    | [] => [[c]]
    | line :: rest => (c :: line) :: rest

/-- Only the empty text has no lines. -/
theorem lines_eq_nil_iff {cs : List Char} : lines cs = [] ↔ cs = [] := by
  constructor
  · intro h
    fun_cases lines cs with
    | case1 => rfl
    | case2 cs => simp [lines] at h
    | case3 cs => simp [lines] at h
    | case4 cs hne =>
      rw [lines] at h
      · cases h
      · exact hne
    | case5 c cs hlf hcrlf hcr hnil =>
      rw [lines] at h
      all_goals simp_all
    | case6 c cs hlf hcrlf hcr line rest hcons =>
      rw [lines] at h
      all_goals simp_all
  · rintro rfl
    rfl

end RegexCompiler.Text
