import RegexCompiler.Automaton.Construction
import RegexCompiler.Automaton.Path

/-!
# Paths in larger automata

Paths are put together end to end (`Path.append`), and a path of one automaton is a path of every
automaton that holds its transitions, as they are or moved up (`Path.shift`).
-/

namespace RegexCompiler

/-- A transition that is moved reads what it read before. -/
@[simp] theorem Transition.word_shift (k : Int) (t : Transition) :
    (t.shift k).word = t.word := rfl

/-- It starts where it started, moved up. -/
@[simp] theorem Transition.source_shift (k : Int) (t : Transition) :
    (t.shift k).source = t.source + k := rfl

/-- It ends where it ended, moved up. -/
@[simp] theorem Transition.target_shift (k : Int) (t : Transition) :
    (t.shift k).target = t.target + k := rfl

/-- Transitions that are moved alike stay apart. -/
theorem Transition.shift_injective (k : Int) : Function.Injective (shift k) := by
  rintro ⟨p, s, q⟩ ⟨p', s', q'⟩ heq
  simpa [shift] using heq

namespace Automaton

/-- What a moved automaton has is what the automaton has, moved. -/
theorem mem_shifted {a : Automaton} {k : Int} {t : Transition} :
    t ∈ a.shifted k ↔ ∃ t' ∈ a.transitions, t'.shift k = t := List.mem_map

/-- An automaton that is moved by nothing stays where it is. -/
theorem shifted_zero (a : Automaton) : a.shifted 0 = a.transitions := by
  have hshift : Transition.shift 0 = id := by
    funext t
    simp [Transition.shift]
  rw [shifted, hshift, List.map_id]

/-- The language is read off the paths to the final state. -/
theorem mem_language_iff {a : Automaton} {f : Int} (hf : a.final = some f) {w : List String} :
    w ∈ a.language ↔ a.Path 0 w f := by
  constructor
  · rintro ⟨g, hg, hpath⟩
    rw [hf] at hg
    exact Option.some.inj hg ▸ hpath
  · intro hpath
    exact ⟨f, hf, hpath⟩

namespace Path

variable {a b : Automaton} {p q r : Int} {u v w : List String}

/-- Paths are put together where one ends and the other begins. -/
theorem append (h : a.Path p u q) (h' : a.Path q v r) : a.Path p (u ++ v) r := by
  induction h with
  | nil p => exact h'
  | @cons t u q ht _ ih =>
      rw [List.append_assoc]
      exact .cons ht (ih h')

/-- A silent transition in front of a path reads nothing. -/
theorem silent (ht : Transition.silent p q ∈ a.transitions) (h : a.Path q w r) :
    a.Path p w r :=
  .cons ht h

/-- A path goes along with its automaton into a larger one. -/
theorem shift {k : Int} (hsub : ∀ t ∈ a.transitions, t.shift k ∈ b.transitions)
    (h : a.Path p w q) : b.Path (p + k) w (q + k) := by
  induction h with
  | nil p => exact .nil _
  | @cons t w q ht _ ih => exact .cons (hsub t ht) ih

/-- A path stays one where there are more transitions. -/
theorem mono (hsub : ∀ t ∈ a.transitions, t ∈ b.transitions) (h : a.Path p w q) :
    b.Path p w q := by
  induction h with
  | nil p => exact .nil _
  | cons ht _ ih => exact .cons (hsub _ ht) ih

/-- A path is empty, or it has a first transition. -/
theorem first (h : a.Path p w q) :
    (q = p ∧ w = []) ∨
      ∃ t ∈ a.transitions, t.source = p ∧ ∃ v, w = t.word ++ v ∧ a.Path t.target v q := by
  cases h with
  | nil p => exact .inl ⟨rfl, rfl⟩
  | @cons t v q ht htail => exact .inr ⟨t, ht, rfl, v, rfl, htail⟩

/-- From a state that no transition leaves, one stays. -/
theorem of_no_exit (h : a.Path p w q) (hno : ∀ t ∈ a.transitions, t.source ≠ p) :
    q = p ∧ w = [] := by
  rcases h.first with hstay | ⟨t, ht, hsource, -⟩
  · exact hstay
  · exact absurd hsource (hno t ht)

end Path

end Automaton

end RegexCompiler
