import RegexCompiler.Proofs.Text.Digits

/-!
# Forms that show where they end

A text that is put together from several values can be taken apart again if each value shows where
it ends.  A form *delimits* its values if the text of a value, with whatever behind it, tells the
value and what stands behind it (`Delimits`).

* A value is ended by a mark that is not in it: `append_cons_inj`, and for numbers
  `decimal_append_inj`.
* A value is ended because it can be read off the front of any text: `Delimits.of_read`.
* Values one after the other are ended by a mark that none of them starts with:
  `Delimits.flatMap`, and with separators between them `Delimits.intercalate`.
-/

namespace RegexCompiler.Text

variable {c : Char} {as bs xs ys : List Char}

/-- What stands before the first `c` of a text. -/
theorem takeWhile_ne_append (hxs : c ∉ xs) (ys : List Char) :
    (xs ++ c :: ys).takeWhile (· ≠ c) = xs := by
  have hall : ∀ d ∈ xs, decide (d ≠ c) = true := by
    intro d hd
    exact decide_eq_true fun heq => hxs (heq ▸ hd)
  rw [List.takeWhile_append_of_pos hall]
  simp

/-- A text cut at its first `c`: what stands before it, and what stands behind it. -/
def cutAt (c : Char) (cs : List Char) : List Char × List Char :=
  (cs.takeWhile (· ≠ c), (cs.dropWhile (· ≠ c)).tail)

/-- What stands before a first `c` and what stands behind it are found. -/
theorem cutAt_append (hxs : c ∉ xs) (ys : List Char) : cutAt c (xs ++ c :: ys) = (xs, ys) := by
  have hbefore := takeWhile_ne_append hxs ys
  -- the two halves of the cut make up the text, and the first one is known
  have hboth := List.takeWhile_append_dropWhile (p := (· ≠ c)) (l := xs ++ c :: ys)
  rw [hbefore] at hboth
  rw [cutAt, hbefore, List.append_cancel_left hboth, List.tail_cons]

/-- A text is cut at its first `c` in one way only. -/
theorem append_cons_inj (has : c ∉ as) (hbs : c ∉ bs) (h : as ++ c :: xs = bs ++ c :: ys) :
    as = bs ∧ xs = ys := by
  have hcut := cutAt_append has xs
  rw [h, cutAt_append hbs] at hcut
  exact ⟨(Prod.mk.inj hcut).1.symm, (Prod.mk.inj hcut).2.symm⟩

/-- A number is ended by any character that is in no number. -/
theorem decimal_append_inj {m n : Int} (hdigit : c.isDigit = false) (hsign : c ≠ '-')
    (h : decimal m ++ c :: xs = decimal n ++ c :: ys) : m = n ∧ xs = ys := by
  obtain ⟨hdigits, hrest⟩ :=
    append_cons_inj (not_mem_decimal hdigit hsign m) (not_mem_decimal hdigit hsign n) h
  exact ⟨decimal_injective hdigits, hrest⟩

/-- **Whether a form shows where it ends.** -/
def Delimits {α : Type} (write : α → List Char) : Prop :=
  ∀ a b xs ys, write a ++ xs = write b ++ ys → a = b ∧ xs = ys

/-- Lists with something between their members, the first one apart. -/
theorem intercalate_cons (sep l : List Char) (ls : List (List Char)) :
    sep.intercalate (l :: ls) = l ++ ls.flatMap (sep ++ ·) := by
  induction ls generalizing l with
  | nil => simp
  | cons m ls ih => rw [List.intercalate_cons_cons, ih, List.flatMap_cons, List.append_assoc,
      List.append_assoc]

namespace Delimits

variable {α : Type} {write : α → List Char} {mark : Char}

/-- Such a form has one value for each text. -/
theorem injective (h : Delimits write) : Function.Injective write := by
  intro a b heq
  exact (h a b [] [] (by rw [heq])).1

/-- What can be read off the front of any text shows where it ends. -/
theorem of_read {read : List Char → Option (α × List Char)}
    (hread : ∀ a xs, read (write a ++ xs) = some (a, xs)) : Delimits write := by
  intro a b xs ys h
  have hboth := hread a xs
  rw [h, hread b ys] at hboth
  obtain ⟨rfl, rfl⟩ := Prod.mk.inj (Option.some.inj hboth)
  exact ⟨rfl, rfl⟩

/-- The same word before every value changes nothing. -/
theorem append_left (h : Delimits write) (word : List Char) :
    Delimits fun a => word ++ write a := by
  intro a b xs ys heq
  rw [List.append_assoc, List.append_assoc] at heq
  exact h a b xs ys (List.append_cancel_left heq)

/-- **Values one after the other** are ended by a mark that none of them starts with. -/
theorem flatMap (h : Delimits write) (hmark : ∀ a xs ys, write a ++ xs ≠ mark :: ys) :
    Delimits fun as : List α => as.flatMap write ++ [mark] := by
  intro as
  induction as with
  | nil =>
      intro bs xs ys heq
      cases bs with
      | nil => exact ⟨rfl, (List.cons.inj heq).2⟩
      | cons b bs =>
          simp only [List.flatMap_cons, List.append_assoc] at heq
          exact absurd heq.symm (hmark b _ _)
  | cons a as ih =>
      intro bs xs ys heq
      cases bs with
      | nil =>
          simp only [List.flatMap_cons, List.append_assoc] at heq
          exact absurd heq (hmark a _ _)
      | cons b bs =>
          simp only [List.flatMap_cons, List.append_assoc] at heq
          obtain ⟨rfl, hrest⟩ := h a b _ _ heq
          rw [← List.append_assoc, ← List.append_assoc] at hrest
          obtain ⟨rfl, rfl⟩ := ih bs xs ys hrest
          exact ⟨rfl, rfl⟩

/-- **Values with separators between them** are ended by a mark that no value and no separator
starts with. -/
theorem intercalate (h : Delimits write) (hmark : ∀ a xs ys, write a ++ xs ≠ mark :: ys)
    {d : Char} (hd : d ≠ mark) (sep : List Char) :
    Delimits fun as : List α => (d :: sep).intercalate (as.map write) ++ [mark] := by
  -- behind the first value, each one stands behind its separator
  have hmore : Delimits fun as : List α => as.flatMap (d :: sep ++ write ·) ++ [mark] :=
    (h.append_left (d :: sep)).flatMap fun a xs ys heq => hd (List.cons.inj heq).1
  intro as bs xs ys heq
  cases as with
  | nil =>
      cases bs with
      | nil => exact ⟨rfl, (List.cons.inj heq).2⟩
      | cons b bs =>
          simp only [List.map_cons, intercalate_cons, List.append_assoc] at heq
          exact absurd heq.symm (hmark b _ _)
  | cons a as =>
      cases bs with
      | nil =>
          simp only [List.map_cons, intercalate_cons, List.append_assoc] at heq
          exact absurd heq (hmark a _ _)
      | cons b bs =>
          simp only [List.map_cons, intercalate_cons, List.append_assoc, List.flatMap_map] at heq
          obtain ⟨rfl, hrest⟩ := h a b _ _ heq
          rw [← List.append_assoc, ← List.append_assoc] at hrest
          obtain ⟨rfl, rfl⟩ := hmore as bs xs ys hrest
          exact ⟨rfl, rfl⟩

end Delimits

end RegexCompiler.Text
