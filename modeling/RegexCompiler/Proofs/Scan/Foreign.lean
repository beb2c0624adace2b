import RegexCompiler.Proofs.Compile.Verdict
import RegexCompiler.Proofs.Scan.Position

/-!
# Foreign characters are passed over

A reading does nothing at a foreign character but count it.  So a text is read as what is left of it
without its foreign characters (`Alphabet.kept`): it makes the same expression, or it is refused for
the same cause, at the place where the position in what is left lies in the text (`Alphabet.place`).

* `Reading.advance_kept` — a run over a text is a run over what is left of it, with every position
  moved to its place;
* `Alphabet.isPlace_iff` — the place of a position is the one before which as many characters are
  left, at the same character;
* `parse_iff_parse_kept` — a whole scan.
-/

namespace RegexCompiler

namespace Alphabet

open Verdict (characters)

/-- What is left of a text without its foreign characters. -/
def kept (cs : List Char) : List Char := cs.filter (· ∈ characters)

/-- Whether position `j` of what is left of a text lies at position `i` of the text: as many
characters as stand before `j` are left before `i`, and the same character stands at both, or both
are the end. -/
def IsPlace (cs : List Char) (j i : Nat) : Prop :=
  i ≤ cs.length ∧ (kept (cs.take i)).length = j ∧ cs[i]? = (kept cs)[j]?

/-- Where position `j` of what is left of a text lies in the text. -/
def place : List Char → (j : Nat) → Nat
  | [], _ => 0
  | c :: cs, j =>
    if c ∈ characters then
      match j with
      | 0 => 0
      | j + 1 => place cs j + 1
    else place cs j + 1

variable {c : Char} {cs : List Char}

/-- A character of expressions is kept. -/
theorem kept_cons_of_mem (h : c ∈ characters) (cs : List Char) : kept (c :: cs) = c :: kept cs := by
  simp [kept, h]

/-- Any other character is left out. -/
theorem kept_cons_of_not_mem (h : c ∉ characters) (cs : List Char) : kept (c :: cs) = kept cs := by
  simp [kept, h]

/-- The end is the only place of the empty text. -/
theorem isPlace_nil {j i : Nat} : IsPlace [] j i ↔ j = 0 ∧ i = 0 := by
  simp [IsPlace, kept, and_comm, eq_comm]

/-- A character that is left is the first one that is left, and the others follow it. -/
theorem isPlace_cons_of_mem (h : c ∈ characters) (cs : List Char) (j i : Nat) :
    IsPlace (c :: cs) j i ↔
      match j with
      | 0 => i = 0
      | j + 1 => ∃ k, i = k + 1 ∧ IsPlace cs j k := by
  simp only [IsPlace, kept_cons_of_mem h]
  cases i with
  | zero => cases j <;> simp [kept]
  | succ i => cases j <;> simp [kept_cons_of_mem h]

/-- Behind a foreign character, the places are one further. -/
theorem isPlace_cons_of_not_mem (h : c ∉ characters) (cs : List Char) (j i : Nat) :
    IsPlace (c :: cs) j i ↔ ∃ k, i = k + 1 ∧ IsPlace cs j k := by
  cases i with
  | succ i => simp [IsPlace, kept_cons_of_not_mem h]
  | zero =>
      -- the foreign character itself is not left
      have hne : (kept cs)[j]? ≠ some c := by
        intro hc
        have hmem := List.mem_of_getElem? hc
        simp [kept, h] at hmem
      simp [IsPlace, kept_cons_of_not_mem h, hne.symm]

/-- **Every position of what is left lies at one place.** -/
theorem isPlace_iff (cs : List Char) (j i : Nat) :
    IsPlace cs j i ↔ j ≤ (kept cs).length ∧ i = place cs j := by
  induction cs generalizing j i with
  | nil => simp [isPlace_nil, kept, place]
  | cons c cs ih =>
      by_cases hc : c ∈ characters
      · rw [isPlace_cons_of_mem hc, kept_cons_of_mem hc]
        cases j with
        | zero => simp [place, hc]
        | succ j => simp [place, hc, ih, and_comm]
      · rw [isPlace_cons_of_not_mem hc, kept_cons_of_not_mem hc]
        simp [place, hc, ih, and_comm]

/-- The end of what is left lies at the end of the text. -/
theorem place_length_kept (cs : List Char) : place cs (kept cs).length = cs.length := by
  have hend : IsPlace cs (kept cs).length cs.length := by simp [IsPlace]
  exact ((isPlace_iff cs _ _).mp hend).2.symm

/-- A character that is left lies where it stands. -/
theorem place_append {before after : List Char} (h : c ∈ characters) :
    place (before ++ c :: after) (kept before).length = before.length := by
  have hhere : IsPlace (before ++ c :: after) (kept before).length before.length := by
    simp [IsPlace, kept, h]
  exact ((isPlace_iff _ _ _).mp hhere).2.symm

end Alphabet

open Alphabet (IsPlace kept place)
open Verdict (characters)

namespace Reading

variable {r : Reading}

/-- A foreign character is passed over, wherever it stands. -/
theorem step_of_not_mem {c : Char} (h : c ∉ characters) (r : Reading) (i : Nat) :
    r.step i c = .ok r := by
  have hforeign : Token.ofChar? c = none := by
    rw [← Verdict.isForeign_eq_false_iff, Alphabet.isForeign] at h
    simpa using h
  rw [step, hforeign]

/-- **A run passes over foreign characters.**  It does what a run over the other characters does,
with every position moved to the place of its character. -/
theorem advance_kept (r : Reading) (f : Nat → Nat) (i j : Nat) (cs : List Char)
    (hf : ∀ before c after, cs = before ++ c :: after → c ∈ characters →
      f (j + (kept before).length) = i + before.length) :
    r.advance i cs = (r.advance j (kept cs)).mapError (RegexError.mapPosition f) := by
  induction cs generalizing r i j with
  | nil => rfl
  | cons c cs ih =>
      -- a foreign character moves the place in the whole text on, any other one moves both places
      by_cases hc : c ∈ characters
      · have hrest : ∀ before d after, cs = before ++ d :: after → d ∈ characters →
            f (j + 1 + (kept before).length) = i + 1 + before.length := by
          intro before d after hcs hd
          have hmoved := hf (c :: before) d after (by rw [hcs]; rfl) hd
          rw [Alphabet.kept_cons_of_mem hc, List.length_cons, List.length_cons] at hmoved
          rw [Nat.add_assoc, Nat.add_comm 1, hmoved]
          omega
        have hhere : f j = i := hf [] c cs rfl hc
        have hstep := step_mapPosition r f j c
        rw [hhere] at hstep
        rw [Alphabet.kept_cons_of_mem hc]
        cases hread : r.step j c with
        | error error =>
            rw [hread] at hstep
            simp [advance, hstep, hread, bind, Except.bind, Except.mapError]
        | ok next =>
            rw [hread] at hstep
            rw [advance_cons_of_eq_ok hstep, advance_cons_of_eq_ok hread]
            exact ih next (i + 1) (j + 1) hrest
      · have hrest : ∀ before d after, cs = before ++ d :: after → d ∈ characters →
            f (j + (kept before).length) = i + 1 + before.length := by
          intro before d after hcs hd
          have hmoved := hf (c :: before) d after (by rw [hcs]; rfl) hd
          rw [Alphabet.kept_cons_of_not_mem hc, List.length_cons] at hmoved
          omega
        rw [advance_cons_of_eq_ok (step_of_not_mem hc r i), Alphabet.kept_cons_of_not_mem hc]
        exact ih r (i + 1) j hrest

/-- **A text is read as what is left of it**, with every position moved to its place. -/
theorem read_kept (cs : List Char) :
    read cs = (read (kept cs)).mapError (RegexError.mapPosition (place cs)) := by
  have hplace : ∀ before c after, cs = before ++ c :: after → c ∈ characters →
      place cs (0 + (kept before).length) = 0 + before.length := by
    intro before c after hcs hc
    rw [Nat.zero_add, Nat.zero_add, hcs, Alphabet.place_append hc]
  unfold read
  rw [advance_kept {} (place cs) 0 0 cs hplace]
  cases advance {} 0 (kept cs) with
  | error error => rfl
  | ok r =>
      have hfinish := finish_mapPosition r (place cs) (kept cs).length
      rw [Alphabet.place_length_kept] at hfinish
      exact hfinish

/-- A text is refused at a position in it or at its end. -/
theorem position?_of_read {cs : List Char} {error : RegexError} (h : read cs = .error error) :
    ∃ i ≤ cs.length, error.position? = some i := by
  rw [read_eq_complete] at h
  simpa using position?_of_complete h

end Reading

/-- Whether reading a text as an expression is refused by a report of this kind, with this message,
at this position. -/
def Refuses (cs : List Char) (kind : Kind) (message : String) (i : Nat) : Prop :=
  ∃ error, Expr.parse cs = .error (.refused error) ∧ error.kind = kind ∧
    error.message = message ∧ error.position? = some i

/-- What is told of a refusal is what the reading tells. -/
theorem refuses_iff_read {cs : List Char} {kind : Kind} {message : String} {i : Nat} :
    Refuses cs kind message i ↔
      ∃ error, Reading.read cs = .error error ∧ error.kind = kind ∧ error.message = message ∧
        error.position? = some i := by
  simp only [Refuses, Reading.parse_eq_error_iff]

/-- **A refusal moves to its place.** -/
theorem refuses_iff_kept {cs : List Char} {kind : Kind} {message : String} {i : Nat} :
    Refuses cs kind message i ↔ ∃ j, Refuses (kept cs) kind message j ∧ IsPlace cs j i := by
  simp only [refuses_iff_read, Alphabet.isPlace_iff]
  rw [Reading.read_kept]
  constructor
  · intro ⟨moved, hread, hkind, hmessage, hposition⟩
    cases hkept : Reading.read (kept cs) with
    | ok e =>
        rw [hkept] at hread
        cases hread
    | error error =>
        rw [hkept] at hread
        obtain rfl : error.mapPosition (place cs) = moved := Except.error.inj hread
        obtain ⟨j, hj, hat⟩ := Reading.position?_of_read hkept
        rw [RegexError.position?_mapPosition, hat] at hposition
        rw [RegexError.kind_mapPosition] at hkind
        rw [RegexError.message_mapPosition] at hmessage
        exact ⟨j, ⟨error, rfl, hkind, hmessage, hat⟩, hj, (Option.some.inj hposition).symm⟩
  · intro ⟨j, ⟨error, hkept, hkind, hmessage, hat⟩, _, hplace⟩
    subst hplace
    refine ⟨error.mapPosition (place cs), by rw [hkept]; rfl, ?_, ?_, ?_⟩
    · rw [RegexError.kind_mapPosition, hkind]
    · rw [RegexError.message_mapPosition, hmessage]
    · rw [RegexError.position?_mapPosition, hat]
      rfl

/-- **Foreign characters make no difference but to positions.**  A text is read as the expression
that is read of what is left of it without its foreign characters; and it is refused just if that is
refused, by a report of the same kind and message, at the place of its position.  Nothing else can
become of a text. -/
theorem parse_iff_parse_kept (cs : List Char) :
    (∀ e, Expr.parse cs = .ok e ↔ Expr.parse (kept cs) = .ok e) ∧
    (∀ kind message i, Refuses cs kind message i ↔
      ∃ j, Refuses (kept cs) kind message j ∧ IsPlace cs j i) ∧
    ((∃ e, Expr.parse cs = .ok e) ∨ ∃ kind message i, Refuses cs kind message i) := by
  refine ⟨?_, fun kind message i => refuses_iff_kept, ?_⟩
  · intro e
    rw [Reading.parse_eq_ok_iff, Reading.parse_eq_ok_iff, Reading.read_kept]
    cases Reading.read (kept cs) <;> simp [Except.mapError]
  · rcases parse_total cs with hread | ⟨error, hrefused⟩
    · exact .inl hread
    · obtain ⟨i, -, hat⟩ := Reading.position?_of_read (Reading.parse_eq_error_iff.mp hrefused)
      exact .inr ⟨_, _, i, error, hrefused, rfl, rfl, hat⟩

-- an operator without an operand, with foreign characters around it and none left behind it
example : Expr.parse "a |.&*b".toList = .error (.refused (.nothingToRepeat 5)) ∧
    Expr.parse (kept "a |.&*b".toList) = .error (.refused (.nothingToRepeat 2)) := ⟨rfl, rfl⟩

end RegexCompiler
