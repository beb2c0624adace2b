import RegexCompiler.Proofs.Scan.Grammar

/-!
# Positions

A reading counts positions for one purpose only: to tell where a text is refused.  What it makes of
the characters does not depend on them, and a text that is read from a later position on is refused
that much later (`complete_add`).

* `RegexError.mapPosition` — the same cause, noticed elsewhere;
* `Reading.complete` — reading the rest of a text;
* `position?_of_complete` — the rest of a text is refused in it or at its end.
-/

namespace RegexCompiler

namespace RegexError

/-- The same cause, noticed elsewhere. -/
def mapPosition (f : Nat → Nat) : RegexError → RegexError
  | emptyText => emptyText
  | foreignCharacter c i => foreignCharacter c (f i)
  | extraClosing i => extraClosing (f i)
  | unclosed count i => unclosed count (f i)
  | nothingToRepeat i => nothingToRepeat (f i)
  | missingLeft i => missingLeft (f i)
  | emptyGroup i => emptyGroup (f i)
  | danglingEnd i => danglingEnd (f i)

variable (f : Nat → Nat) (error : RegexError)

/-- An error that is moved is of the same kind. -/
@[simp] theorem kind_mapPosition : (error.mapPosition f).kind = error.kind := by
  cases error <;> rfl

/-- It has the same message. -/
@[simp] theorem message_mapPosition : (error.mapPosition f).message = error.message := by
  cases error <;> rfl

/-- It has moved to the new position. -/
@[simp] theorem position?_mapPosition :
    (error.mapPosition f).position? = error.position?.map f := by
  cases error <;> rfl

end RegexError

namespace Reading

variable {r r' : Reading} {i : Nat} {error : RegexError}

/-- Reads the characters `cs`, the last ones of a text, the first of which is at position `i`. -/
def complete (r : Reading) (i : Nat) (cs : List Char) : Except RegexError Expr := do
  (← r.advance i cs).finish (i + cs.length)

/-- Reading a text is completing it from the start. -/
theorem read_eq_complete (cs : List Char) : read cs = complete {} 0 cs := by
  rw [complete, Nat.zero_add]
  rfl

/-- A text is completed from the state behind its front. -/
theorem complete_append_of_eq_ok {xs : List Char} (h : r.advance i xs = .ok r')
    (ys : List Char) : r.complete i (xs ++ ys) = r'.complete (i + xs.length) ys := by
  rw [complete, advance_append_of_eq_ok h, List.length_append, ← Nat.add_assoc]
  rfl

/-- What is refused in front is refused whatever follows. -/
theorem complete_append_of_eq_error {xs : List Char} (h : r.advance i xs = .error error)
    (ys : List Char) : r.complete i (xs ++ ys) = .error error := by
  rw [complete, advance_append, h]
  rfl

/-! ## Later positions -/

/-- A step uses its position in errors only. -/
theorem step_mapPosition (r : Reading) (f : Nat → Nat) (i : Nat) (c : Char) :
    r.step (f i) c = (r.step i c).mapError (RegexError.mapPosition f) := by
  obtain ⟨item, frame, outer⟩ := r
  unfold step
  cases Token.ofChar? c with
  | none => rfl
  | some token =>
      cases token with
      | symbol c => rfl
      | opening => rfl
      | star => cases item <;> rfl
      | bar => cases item <;> rfl
      | closing =>
          cases outer with
          | nil => rfl
          | cons g outer => cases item <;> rfl

/-- So does a run: it may start at any position. -/
theorem advance_add (r : Reading) (n i : Nat) (cs : List Char) :
    r.advance (i + n) cs = (r.advance i cs).mapError (RegexError.mapPosition (· + n)) := by
  induction cs generalizing r i with
  | nil => rfl
  | cons c cs ih =>
      have hstep := step_mapPosition r (· + n) i c
      cases hok : r.step i c with
      | error e =>
          rw [hok] at hstep
          have hlater : r.step (i + n) c = .error (e.mapPosition (· + n)) := hstep
          rw [advance, advance, hok, hlater]
          rfl
      | ok r' =>
          rw [hok] at hstep
          have hlater : r.step (i + n) c = .ok r' := hstep
          rw [advance_cons_of_eq_ok hok, advance_cons_of_eq_ok hlater, Nat.add_right_comm]
          exact ih r' (i + 1)

/-- So does the end of the text. -/
theorem finish_mapPosition (r : Reading) (f : Nat → Nat) (length : Nat) :
    r.finish (f length) = (r.finish length).mapError (RegexError.mapPosition f) := by
  obtain ⟨item, frame, outer⟩ := r
  cases outer with
  | cons g outer => rfl
  | nil => cases item <;> rfl

/-- **What is read later is refused later**, for the same cause. -/
theorem complete_add (r : Reading) (n i : Nat) (cs : List Char) :
    r.complete (i + n) cs = (r.complete i cs).mapError (RegexError.mapPosition (· + n)) := by
  unfold complete
  rw [advance_add, Nat.add_right_comm]
  cases r.advance i cs with
  | error e => rfl
  | ok r' => exact finish_mapPosition r' (· + n) _

/-! ## Where a text is refused -/

/-- A character is refused at its own position. -/
theorem position?_of_step {c : Char} (h : r.step i c = .error error) :
    error.position? = some i := by
  unfold step at h
  split at h
  · cases h
  · cases h
  · cases h
  · split at h <;> cases h
    rfl
  · split at h <;> cases h
    rfl
  · split at h <;> cases h <;> rfl

/-- A run is refused at the position of one of its characters. -/
theorem position?_of_advance {cs : List Char} (h : r.advance i cs = .error error) :
    ∃ j < cs.length, error.position? = some (i + j) := by
  obtain ⟨before, c, after, r', rfl, -, hrefused⟩ := exists_step_of_advance_eq_error h
  exact ⟨before.length, by simp, position?_of_step hrefused⟩

/-- What is missing is missed at the end. -/
theorem position?_of_finish {length : Nat} (h : r.finish length = .error error) :
    error.position? = some length := by
  unfold finish at h
  split at h <;> cases h <;> rfl

/-- **The rest of a text is refused** at one of its characters or at its end. -/
theorem position?_of_complete {cs : List Char} (h : r.complete i cs = .error error) :
    ∃ j ≤ cs.length, error.position? = some (i + j) := by
  unfold complete at h
  cases hadvance : r.advance i cs with
  | error e =>
      rw [hadvance] at h
      cases h
      obtain ⟨j, hj, hposition⟩ := position?_of_advance hadvance
      exact ⟨j, Nat.le_of_lt hj, hposition⟩
  | ok r' =>
      rw [hadvance] at h
      exact ⟨cs.length, Nat.le_refl _, position?_of_finish h⟩

end Reading

end RegexCompiler
