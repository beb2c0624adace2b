/-!
# Blank characters

The white space of Unicode together with the four information separators U+001C to U+001F.
`trim` removes blanks at both ends and nowhere else.
-/

namespace RegexCompiler.Text

/-- The blanks, as ranges of code points, both ends included. -/
def blankRanges : List (Nat × Nat) :=
  [(0x09, 0x0D), (0x1C, 0x20), (0x85, 0x85), (0xA0, 0xA0), (0x1680, 0x1680),
   (0x2000, 0x200A), (0x2028, 0x2029), (0x202F, 0x202F), (0x205F, 0x205F), (0x3000, 0x3000)]

/-- A blank: tab to carriage return, the separators, and every space of Unicode. -/
def isBlank (c : Char) : Bool := blankRanges.any fun r => r.1 ≤ c.toNat && c.toNat ≤ r.2

/-- The text without its leading blanks. -/
def trimLeft (cs : List Char) : List Char := cs.dropWhile isBlank

/-- The text without the blanks at its two ends. -/
def trim (cs : List Char) : List Char := (trimLeft (trimLeft cs).reverse).reverse

/-- A text that starts with no blank keeps its start. -/
theorem trimLeft_cons_of_not_blank {c : Char} (cs : List Char) (h : isBlank c = false) :
    trimLeft (c :: cs) = c :: cs := by
  rw [trimLeft, List.dropWhile_cons_of_neg]
  simp [h]

/-- Leading blanks do not matter. -/
theorem trimLeft_append_of_blank {ws : List Char} (cs : List Char)
    (h : ∀ c ∈ ws, isBlank c = true) : trimLeft (ws ++ cs) = trimLeft cs := by
  induction ws with
  | nil => rfl
  | cons w ws ih =>
    have hw : isBlank w = true := h w List.mem_cons_self
    rw [List.cons_append, trimLeft, List.dropWhile_cons_of_pos hw]
    exact ih fun c hc => h c (List.mem_cons_of_mem w hc)

end RegexCompiler.Text
