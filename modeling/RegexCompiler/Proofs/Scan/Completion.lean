import RegexCompiler.Proofs.Scan.Position

/-!
# Refusals come as early as they can

A scan refuses a text at the first character after which nothing can make it an expression, or not
before its end.  Both halves of this come from its state.

* A character that is refused is refused whatever follows it (`complete_append_of_eq_error`).
* What a scan has read without a refusal can always be completed: a letter, if an operand is
  missing, and then a `)` for each open group (`exists_completion`).

The number of open groups is read off the text without a scan (`Alphabet.openGroups`); a scan holds
one frame for each of them (`length_outer_of_advance`).
-/

namespace RegexCompiler

namespace Alphabet

/-- How many groups are open behind a character, if `n` are open in front of it.  A `)` that closes
no group changes nothing. -/
def nest (n : Nat) (c : Char) : Nat :=
  if c = '(' then n + 1 else if c = ')' then n - 1 else n

/-- **The open groups of a text**: the number of its `(` that no `)` closes. -/
def openGroups (cs : List Char) : Nat := cs.foldl nest 0

/-- Only parentheses open groups and close them. -/
theorem nest_of_ne {c : Char} (hopen : c ≠ '(') (hclose : c ≠ ')') (n : Nat) : nest n c = n := by
  rw [nest, if_neg hopen, if_neg hclose]

end Alphabet

namespace Reading

open Alphabet (nest openGroups nest_of_ne)

variable {r r' : Reading} {i : Nat}

/-! ## Open groups -/

/-- **One character** opens or closes the groups of a reading as it does those of the text. -/
theorem length_outer_of_step {c : Char} (h : r.step i c = .ok r') :
    r'.outer.length = nest r.outer.length c := by
  rw [step_eq_ok_iff] at h
  generalize htoken : Token.ofChar? c = token at h
  cases h with
  | pass =>
      refine (nest_of_ne ?_ ?_ _).symm <;> (rintro rfl; cases htoken)
  | symbol _ d =>
      rw [makeRoom_outer]
      refine (nest_of_ne ?_ ?_ _).symm <;> (rintro rfl; cases htoken)
  | opening =>
      obtain rfl := Token.char_eq_of_ofChar? htoken
      rw [List.length_cons]
      rfl
  | star =>
      obtain rfl := Token.char_eq_of_ofChar? htoken
      rfl
  | bar =>
      obtain rfl := Token.char_eq_of_ofChar? htoken
      rfl
  | closing =>
      obtain rfl := Token.char_eq_of_ofChar? htoken
      rfl

/-- A reading has as many open groups as its text. -/
theorem length_outer_of_advance {cs : List Char} (h : r.advance i cs = .ok r') :
    r'.outer.length = cs.foldl nest r.outer.length := by
  induction cs generalizing r i with
  | nil =>
      cases h
      rfl
  | cons c cs ih =>
      obtain ⟨next, hstep, h⟩ := advance_cons_eq_ok_iff.mp h
      rw [ih h, length_outer_of_step hstep, List.foldl_cons]

/-! ## Completing a text -/

/-- A text is completed from the state behind its first character. -/
theorem complete_cons_of_eq_ok {c : Char} (h : r.step i c = .ok r') (cs : List Char) :
    r.complete i (c :: cs) = r'.complete (i + 1) cs :=
  complete_append_of_eq_ok ((advance_singleton r i c).trans h) cs

/-- Behind an operand all open groups may be closed, and then the text may end. -/
theorem complete_closings (e : Expr) (f : Frame) (outer : List Frame) (i : Nat) :
    ∃ d, complete ⟨some e, f, outer⟩ i (List.replicate outer.length ')') = .ok d := by
  induction outer generalizing e f i with
  | nil => exact ⟨f.close e, rfl⟩
  | cons g outer ih =>
      have hclose : step ⟨some e, f, g :: outer⟩ i ')' = .ok ⟨some (f.close e), g, outer⟩ := rfl
      obtain ⟨d, hd⟩ := ih (f.close e) g (i + 1)
      refine ⟨d, ?_⟩
      rw [List.length_cons, List.replicate_succ, complete_cons_of_eq_ok hclose]
      exact hd

/-- **Every reading can be completed**, with one letter at most before the groups are closed. -/
theorem exists_completion (r : Reading) (i : Nat) :
    ∃ letters : List Char, letters.length ≤ 1 ∧ (∀ c ∈ letters, Alphabet.isLetter c = true) ∧
      ∃ d, r.complete i (letters ++ List.replicate r.outer.length ')') = .ok d := by
  obtain ⟨item, f, outer⟩ := r
  cases item with
  | some e => exact ⟨[], Nat.zero_le _, by simp, complete_closings e f outer i⟩
  | none =>
      have hletter : step ⟨none, f, outer⟩ i 'a' = .ok ⟨some (.literal "a"), f, outer⟩ := rfl
      refine ⟨['a'], Nat.le_refl _, List.forall_mem_singleton.mpr rfl, ?_⟩
      rw [List.singleton_append, complete_cons_of_eq_ok hletter]
      exact complete_closings _ f outer (i + 1)

end Reading

open Alphabet (openGroups)

/-- Whether a text can be completed to an expression by one letter at most, and then a `)` for each
of its open groups. -/
def Completes (cs : List Char) : Prop :=
  ∃ letters : List Char, letters.length ≤ 1 ∧ (∀ c ∈ letters, Alphabet.isLetter c = true) ∧
    ∃ e, Expr.parse (cs ++ (letters ++ List.replicate (openGroups cs) ')')) = .ok e

/-- What is read without a refusal can be completed. -/
theorem completes_of_advance {cs : List Char} {r : Reading}
    (h : Reading.advance {} 0 cs = .ok r) : Completes cs := by
  obtain ⟨letters, hlength, hletters, e, he⟩ := r.exists_completion (0 + cs.length)
  have hgroups : r.outer.length = openGroups cs := Reading.length_outer_of_advance h
  refine ⟨letters, hlength, hletters, e, Reading.parse_eq_ok_iff.mpr ?_⟩
  rw [← hgroups, Reading.read_eq_complete, Reading.complete_append_of_eq_ok h]
  exact he

/-- **A text is refused as early as it can be.**  Whatever is refused is refused for a cause with a
position.  If that is the position of a character, every text that goes on from this character is
refused for the same cause at the same position, but what stands before the character can be
completed to an expression.  If it is the end, the whole text can be completed. -/
theorem refused_at_earliest {cs : List Char} {failure : Failure}
    (h : Expr.parse cs = .error failure) :
    ∃ error p, failure = .refused error ∧ error.position? = some p ∧ p ≤ cs.length ∧
      (p < cs.length → Completes (cs.take p) ∧
        ∀ zs, Expr.parse (cs.take (p + 1) ++ zs) = .error (.refused error)) ∧
      (p = cs.length → Completes cs) := by
  obtain ⟨e, he⟩ | ⟨error, hrefused⟩ := parse_total cs
  · rw [h] at he
    cases he
  obtain rfl : failure = .refused error := Except.error.inj (h.symm.trans hrefused)
  have hread := Reading.parse_eq_error_iff.mp hrefused
  rw [Reading.read_eq_complete] at hread
  cases hadvance : Reading.advance {} 0 cs with
  | ok r =>
      rw [Reading.complete, hadvance] at hread
      have hposition := Reading.position?_of_finish hread
      rw [Nat.zero_add] at hposition
      refine ⟨error, cs.length, rfl, hposition, Nat.le_refl _, ?_, ?_⟩
      · intro hlt
        exact absurd hlt (Nat.lt_irrefl _)
      · intro _
        exact completes_of_advance hadvance
  | error other =>
      obtain rfl : other = error := by
        rw [Reading.complete, hadvance] at hread
        exact Except.error.inj hread
      obtain ⟨before, c, after, r, rfl, hbefore, hstep⟩ :=
        Reading.exists_step_of_advance_eq_error hadvance
      have hposition := Reading.position?_of_step hstep
      rw [Nat.zero_add] at hposition
      have hlt : before.length < (before ++ c :: after).length := by simp
      refine ⟨other, before.length, rfl, hposition, Nat.le_of_lt hlt, ?_, ?_⟩
      · intro _
        refine ⟨by simpa using completes_of_advance hbefore, ?_⟩
        intro zs
        -- the refused character is the last one that the two texts share
        have htake : (before ++ c :: after).take (before.length + 1) = before ++ [c] := by
          rw [List.take_append, List.take_of_length_le (Nat.le_succ _), Nat.add_sub_cancel_left]
          rfl
        have hagain : Reading.advance {} 0 (before ++ [c]) = .error other := by
          rw [Reading.advance_append_of_eq_ok hbefore, Reading.advance_singleton]
          exact hstep
        rw [htake, Reading.parse_eq_error_iff, Reading.read_eq_complete]
        exact Reading.complete_append_of_eq_error hagain zs
      · intro heq
        exact absurd hlt (heq ▸ Nat.lt_irrefl _)

/-- A `*` with nothing to repeat, in a group that is still open, and an end inside two groups. -/
theorem refused_at_earliest_groups :
    Expr.parse "a(b|*c)".toList = .error (.refused (.nothingToRepeat 4)) ∧
    (∀ zs, Expr.parse ("a(b|*".toList ++ zs) = .error (.refused (.nothingToRepeat 4))) ∧
    Completes "a(b|".toList ∧
    Expr.parse "a((b)|(c".toList = .error (.refused (.unclosed 2 8)) ∧
    Completes "a((b)|(c".toList := by
  have hstar : Expr.parse "a(b|*c)".toList = .error (.refused (.nothingToRepeat 4)) := rfl
  have hend : Expr.parse "a((b)|(c".toList = .error (.refused (.unclosed 2 8)) := rfl
  obtain ⟨_, _, herror, hposition, -, hearly, -⟩ := refused_at_earliest hstar
  cases herror
  cases hposition
  obtain ⟨_, _, herror, hposition, -, -, hlate⟩ := refused_at_earliest hend
  cases herror
  cases hposition
  obtain ⟨hcompletes, hfails⟩ := hearly (by decide)
  exact ⟨hstar, hfails, hcompletes, hend, hlate rfl⟩

end RegexCompiler
