import RegexCompiler.Text.Lines

/-!
# Ends of lines

A text can be cut between two of its lines, and then its lines are those of both halves
(`lines_append`).  A carriage return and the line feed behind it are one end, so there it cannot be
cut.

How lines are ended makes no difference: all ends may be written as line feeds (`lines_unifyEnds`),
and the last line may be ended or not (`lines_append_end`).
-/

namespace RegexCompiler.Text

/-- Whether nothing follows the last end of a line. -/
def IsWhole (cs : List Char) : Prop :=
  cs = [] ∨ cs.getLast? = some '\n' ∨ cs.getLast? = some '\r'

instance (cs : List Char) : Decidable (IsWhole cs) := inferInstanceAs (Decidable (_ ∨ _ ∨ _))

/-- Whether a text is cut between two lines: what stands before the cut is whole lines, and the cut
parts no carriage return from its line feed. -/
def Cuts (xs ys : List Char) : Prop :=
  IsWhole xs ∧ ¬ (xs.getLast? = some '\r' ∧ ys.head? = some '\n')

instance (xs ys : List Char) : Decidable (Cuts xs ys) := inferInstanceAs (Decidable (_ ∧ _))

/-- The text with a line feed for every end of a line. -/
def unifyEnds : List Char → List Char
  | [] => []
  | '\r' :: '\n' :: cs => '\n' :: unifyEnds cs
  | '\r' :: cs => '\n' :: unifyEnds cs
  | c :: cs => c :: unifyEnds cs

/-- The ways to end a line. -/
def ends : List (List Char) := [['\n'], ['\r'], ['\r', '\n']]

variable {c : Char} {xs ys : List Char}

/-- A character that ends no line starts one or goes on with it. -/
theorem lines_cons (hc : c ≠ '\n' ∧ c ≠ '\r') (cs : List Char) :
    lines (c :: cs) = match lines cs with
      | [] => [[c]]
      | line :: rest => (c :: line) :: rest := by
  have hpair : ∀ rest, c = '\r' → cs = '\n' :: rest → False := fun _ hreturn _ => hc.2 hreturn
  exact lines.eq_5 c cs hc.1 hpair hc.2

/-- A carriage return with no line feed behind it. -/
theorem lines_return (hys : ys.head? ≠ some '\n') : lines ('\r' :: ys) = [] :: lines ys := by
  rw [lines]
  rintro rest rfl
  exact hys rfl

/-- A carriage return at the end of a line that is cut behind it, if no line feed follows. -/
theorem lines_return_append (hxs : ∀ rest, xs = '\n' :: rest → False)
    (hys : xs = [] → ys.head? ≠ some '\n') :
    lines ('\r' :: (xs ++ ys)) = [] :: lines (xs ++ ys) := by
  refine lines_return ?_
  cases xs with
  | nil => exact hys rfl
  | cons d xs =>
      intro hd
      exact hxs xs (by rw [Option.some.inj hd])

/-- Whole lines without their first character are whole lines. -/
theorem IsWhole.tail (h : IsWhole (c :: xs)) : IsWhole xs := by
  cases xs with
  | nil => exact .inl rfl
  | cons d xs =>
      refine .inr ?_
      simpa [IsWhole] using h

/-- A cut stays one if the first character is left out. -/
theorem Cuts.tail (h : Cuts (c :: xs) ys) : Cuts xs ys := by
  refine ⟨h.1.tail, ?_⟩
  rintro ⟨hlast, hhead⟩
  refine h.2 ⟨?_, hhead⟩
  rw [List.getLast?_cons, hlast]
  rfl

/-- What follows what stands behind a cut makes no difference to it. -/
theorem Cuts.append (h : Cuts xs ys) (hys : ys ≠ []) (zs : List Char) : Cuts xs (ys ++ zs) := by
  cases ys with
  | nil => exact absurd rfl hys
  | cons c ys => exact h

/-- Behind a line feed, any text is cut. -/
theorem cuts_end (xs ys : List Char) : Cuts (xs ++ ['\n']) ys := by
  simp [Cuts, IsWhole]

/-- **Cutting a text between two lines** cuts its lines in two. -/
theorem lines_append (h : Cuts xs ys) : lines (xs ++ ys) = lines xs ++ lines ys := by
  fun_induction lines xs with
  | case1 => rfl
  | case2 cs ih =>
      rw [List.cons_append, lines, ih h.tail, List.cons_append]
  | case3 cs ih =>
      rw [List.cons_append, List.cons_append, lines, ih h.tail.tail, List.cons_append]
  | case4 cs hne ih =>
      -- a line feed behind the carriage return would stand behind the cut
      have hseam : cs = [] → ys.head? ≠ some '\n' := by
        rintro rfl hfeed
        exact h.2 ⟨rfl, hfeed⟩
      rw [List.cons_append, lines_return_append hne hseam, ih h.tail, List.cons_append]
  | case5 c cs hfeed _ hreturn hnil ih =>
      obtain rfl := lines_eq_nil_iff.mp hnil
      rcases h.1 with hempty | hlast | hlast
      · cases hempty
      · exact absurd (Option.some.inj hlast) hfeed
      · exact absurd (Option.some.inj hlast) hreturn
  | case6 c cs hfeed _ hreturn line rest hcons ih =>
      rw [List.cons_append, lines_cons ⟨hfeed, hreturn⟩, ih h.tail, hcons, List.cons_append,
        List.cons_append]

/-- **Line feeds for all ends** make the same lines. -/
theorem lines_unifyEnds (xs : List Char) : lines (unifyEnds xs) = lines xs := by
  fun_induction unifyEnds xs with
  | case1 => rfl
  | case2 cs ih => rw [lines, lines, ih]
  | case3 cs hne ih =>
      rw [lines, lines, ih]
      exact hne
  | case4 c cs hpair hreturn ih =>
      by_cases hfeed : c = '\n'
      · rw [hfeed, lines, lines, ih]
      · rw [lines_cons ⟨hfeed, hreturn⟩, lines_cons ⟨hfeed, hreturn⟩, ih]

/-- An end of a line on its own is one empty line. -/
theorem lines_of_mem_ends {mark : List Char} (h : mark ∈ ends) : lines mark = [[]] := by
  simp only [ends, List.mem_cons, List.not_mem_nil, or_false] at h
  rcases h with rfl | rfl | rfl <;> rfl

/-- Whole lines stay so if a character is put before them, unless there are none. -/
theorem IsWhole.cons (hxs : xs ≠ []) (h : IsWhole xs) : IsWhole (c :: xs) := by
  cases xs with
  | nil => exact absurd rfl hxs
  | cons d xs => simpa [IsWhole] using h

/-- An end of a line before whole lines. -/
theorem IsWhole.cons_end (hc : c = '\n' ∨ c = '\r') (h : IsWhole xs) : IsWhole (c :: xs) := by
  by_cases hxs : xs = []
  · rcases hc with rfl | rfl <;> simp [IsWhole, hxs]
  · exact h.cons hxs

/-- **An end for the last line** makes no new line. -/
theorem lines_append_end {mark : List Char} (hmark : mark ∈ ends) (hxs : ¬ IsWhole xs) :
    lines (xs ++ mark) = lines xs := by
  fun_induction lines xs with
  | case1 => exact absurd (.inl rfl) hxs
  | case2 cs ih =>
      rw [List.cons_append, lines, ih fun h => hxs (h.cons_end (.inl rfl))]
  | case3 cs ih =>
      have hcs : ¬ IsWhole cs := fun h => hxs ((h.cons_end (.inl rfl)).cons_end (.inr rfl))
      rw [List.cons_append, List.cons_append, lines, ih hcs]
  | case4 cs hne ih =>
      have hcs : ¬ IsWhole cs := fun h => hxs (h.cons_end (.inr rfl))
      rw [List.cons_append, lines_return_append hne fun hnil => absurd (.inl hnil) hcs, ih hcs]
  | case5 c cs hfeed _ hreturn hnil ih =>
      obtain rfl := lines_eq_nil_iff.mp hnil
      rw [List.cons_append, lines_cons ⟨hfeed, hreturn⟩, List.nil_append, lines_of_mem_ends hmark]
  | case6 c cs hfeed _ hreturn line rest hcons ih =>
      have hne : cs ≠ [] := by
        rintro rfl
        cases hcons
      rw [List.cons_append, lines_cons ⟨hfeed, hreturn⟩, ih fun h => hxs (h.cons hne), hcons]

end RegexCompiler.Text
