import RegexCompiler.Proofs.Text.Ends
import RegexCompiler.Proofs.Text.Printable

/-!
# Texts of one line

A text in which no line ends makes one line with an end behind it (`lines_of_isLine`), and several
of them make as many lines (`lines_unlines`).  A printable text is one line (`IsShown.isLine`), so a
quoted text stays one line, whatever is quoted, and so does what is told about a refusal.
-/

namespace RegexCompiler.Text

/-- Whether no character of a text ends a line. -/
def IsLine (cs : List Char) : Prop := ∀ c ∈ cs, c ≠ '\n' ∧ c ≠ '\r'

instance (cs : List Char) : Decidable (IsLine cs) :=
  List.decidableBAll (fun c => c ≠ '\n' ∧ c ≠ '\r') cs

namespace IsLine

variable {xs ys : List Char}

/-- Two parts without ends of lines make one line. -/
theorem append (hxs : IsLine xs) (hys : IsLine ys) : IsLine (xs ++ ys) :=
  List.forall_mem_append.mpr ⟨hxs, hys⟩

/-- A character that ends no line can be put before a line. -/
theorem cons {c : Char} (hc : c ≠ '\n' ∧ c ≠ '\r') (hxs : IsLine xs) : IsLine (c :: xs) :=
  List.forall_mem_cons.mpr ⟨hc, hxs⟩

end IsLine

/-- **A printable text is one line.** -/
theorem IsShown.isLine {xs : List Char} (hxs : IsShown xs) : IsLine xs := by
  intro c hc
  have hprintable := hxs c hc
  constructor
  · rintro rfl
    cases hprintable
  · rintro rfl
    cases hprintable

/-- A text of one line, with its end. -/
theorem lines_of_isLine {xs : List Char} (hxs : IsLine xs) : lines (xs ++ ['\n']) = [xs] := by
  induction xs with
  | nil => rfl
  | cons c xs ih =>
      obtain ⟨hc, hxs⟩ := List.forall_mem_cons.mp hxs
      rw [List.cons_append, lines_cons hc, ih hxs]

-- vertical tabs, form feeds and the separators of Unicode end no line
example : lines ['\x0b', '\x0c', '\u0085', '\u2028', '\n', 'b'] =
    [['\x0b', '\x0c', '\u0085', '\u2028'], ['b']] := by decide +kernel

/-- The last line of a text. -/
theorem getLast?_lines {xs ys : List Char} (hys : IsLine ys) :
    (lines (xs ++ '\n' :: (ys ++ ['\n']))).getLast? = some ys := by
  rw [List.append_cons, lines_append (cuts_end xs _), lines_of_isLine hys, List.getLast?_concat]

/-! ## Lines as a text -/

/-- Lines one after the other, each with its end. -/
def unlines (ls : List (List Char)) : List Char := ls.flatMap (· ++ ['\n'])

/-- Writing lines one after the other. -/
theorem unlines_append (ls ms : List (List Char)) :
    unlines (ls ++ ms) = unlines ls ++ unlines ms := List.flatMap_append

/-- **The lines of lines** that are put together. -/
theorem lines_unlines {ls : List (List Char)} (hls : ∀ l ∈ ls, IsLine l) :
    lines (unlines ls) = ls := by
  induction ls with
  | nil => rfl
  | cons l ls ih =>
      obtain ⟨hl, hls⟩ := List.forall_mem_cons.mp hls
      show lines (l ++ ['\n'] ++ unlines ls) = _
      rw [lines_append (cuts_end l _), lines_of_isLine hl, ih hls, List.singleton_append]

/-- Lines with line feeds between them and one behind them are these lines, each with its end. -/
theorem unlines_intercalate (l : List Char) (ls : List (List Char)) :
    ['\n'].intercalate (l :: ls) ++ ['\n'] = unlines (l :: ls) := by
  induction ls generalizing l with
  | nil => simp [unlines]
  | cons m ls ih =>
      rw [List.intercalate_cons_cons, List.append_assoc, ih]
      simp [unlines]

end RegexCompiler.Text
