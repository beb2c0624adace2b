import RegexCompiler.Automaton.Basic
import RegexCompiler.Error

/-!
# Building automata from automata

The constructions of a repetition, a concatenation and a union.  Each copies the transitions of
its parts with their states moved up, adds silent transitions around them, and puts the final
state last.  In a concatenation the initial state of the second part becomes the last state of
the first.

A construction fails only because a final state that it needs is not set: the repetition needs
that of its part, the union those of both, the concatenation that of the second part only.
-/

namespace RegexCompiler.Automaton

/-- The final state, where one is needed. -/
def finalState (a : Automaton) : Except Fault Int :=
  match a.final with
  | some f => .ok f
  | none => .error .finalUnset

/-- The transitions with their states moved up by `offset`. -/
def shifted (a : Automaton) (offset : Int) : List Transition :=
  a.transitions.map (Transition.shift offset)

/-- **Repetition.**  The part lies between two new states; its end leads back to its start, and
the whole may be skipped. -/
def star (a : Automaton) : Except Fault Automaton := do
  let f ← a.finalState
  let final := a.size + 1
  return {
    size := a.size + 2
    transitions := .silent 0 1 :: a.shifted 1 ++
      [.silent (f + 1) final, .silent (f + 1) 1, .silent 0 final]
    final := some final }

/-- **Concatenation.**  The last state of `a` and the initial state of `b` become one. -/
def concat (a b : Automaton) : Except Fault Automaton := do
  let f ← b.finalState
  let offset := a.size - 1
  return {
    size := a.size + b.size - 1
    transitions := a.transitions ++ b.shifted offset
    final := some (f + offset) }

/-- **Union.**  The parts lie side by side between two new states. -/
def union (a b : Automaton) : Except Fault Automaton := do
  let f ← a.finalState
  let g ← b.finalState
  let final := a.size + b.size + 1
  return {
    size := a.size + b.size + 2
    transitions :=
      .silent 0 1 :: a.shifted 1 ++ .silent (f + 1) final ::
      .silent 0 (a.size + 1) :: b.shifted (a.size + 1) ++ [.silent (g + a.size + 1) final]
    final := some final }

/-! ## When they succeed -/

/-- A set final state is found. -/
theorem finalState_eq_ok {a : Automaton} {f : Int} (h : a.final = some f) :
    a.finalState = .ok f := by
  rw [finalState, h]

/-- A final state that is not set is missed. -/
theorem finalState_eq_error {a : Automaton} (h : a.final = none) :
    a.finalState = .error .finalUnset := by
  rw [finalState, h]

/-- A repetition fails exactly where the final state of its part is not set. -/
theorem star_eq_error_iff {a : Automaton} :
    a.star = .error .finalUnset ↔ a.final = none := by
  cases h : a.final with
  | none => simp [star, finalState_eq_error h, bind, Except.bind]
  | some f => simp [star, finalState_eq_ok h, bind, Except.bind, pure, Except.pure]

/-- A concatenation fails exactly where the final state of its second part is not set. -/
theorem concat_eq_error_iff {a b : Automaton} :
    a.concat b = .error .finalUnset ↔ b.final = none := by
  cases h : b.final with
  | none => simp [concat, finalState_eq_error h, bind, Except.bind]
  | some f => simp [concat, finalState_eq_ok h, bind, Except.bind, pure, Except.pure]

/-- A union fails exactly where one of the two final states is not set. -/
theorem union_eq_error_iff {a b : Automaton} :
    a.union b = .error .finalUnset ↔ a.final = none ∨ b.final = none := by
  cases ha : a.final with
  | none => simp [union, finalState_eq_error ha, bind, Except.bind]
  | some f =>
    cases hb : b.final with
    | none => simp [union, finalState_eq_ok ha, finalState_eq_error hb, bind, Except.bind]
    | some g =>
      simp [union, finalState_eq_ok ha, finalState_eq_ok hb, bind, Except.bind, pure,
        Except.pure]

end RegexCompiler.Automaton
