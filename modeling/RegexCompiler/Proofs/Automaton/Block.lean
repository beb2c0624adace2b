import RegexCompiler.Proofs.Automaton.Language

/-!
# Blocks

A *block* is an automaton that is entered and left at its ends only: it starts in the first state,
which nothing enters, and it ends in the last state, which nothing leaves.  The automaton of a
symbol is a block, and the constructions make blocks of blocks.

A block is well-formed and may be put into any construction, so the languages follow
(`Block.noExit` is what a concatenation needs).
-/

namespace RegexCompiler.Automaton

/-- **Blocks.** -/
structure Block (a : Automaton) : Prop where
  /-- The first state is not the last one. -/
  two_le : 2 ≤ a.size
  /-- The final state is the last one. -/
  final_eq : a.final = some (a.size - 1)
  /-- Transitions leave any state but the last one, and enter any state but the first one. -/
  ends : ∀ t ∈ a.transitions,
    (0 ≤ t.source ∧ t.source < a.size - 1) ∧ 0 < t.target ∧ t.target < a.size

variable {a b : Automaton}

/-- A block is well-formed: its last state is its final one. -/
theorem Block.wellFormed (ha : a.Block) : a.WellFormed := by
  have hsize := ha.two_le
  refine .of_ends ha.final_eq ?_ ?_
  · omega
  · intro t ht
    have hends := ha.ends t ht
    omega

/-- Nothing leaves the last state of a block. -/
theorem Block.noExit (ha : a.Block) : a.NoExit := by
  intro t ht
  have hends := ha.ends t ht
  omega

/-- The smallest block: one transition from the first state to the last one. -/
theorem block_literal (s : String) : (literal s).Block := by
  refine ⟨le_refl 2, rfl, ?_⟩
  intro t ht
  obtain rfl := List.mem_singleton.mp ht
  simp [literal]

/-- The repetition of a block is a block. -/
theorem Block.starOf (ha : a.Block) : (a.starOf (a.size - 1)).Block := by
  have hsize := ha.two_le
  refine ⟨?_, ?_, ?_⟩
  · simp only [Automaton.starOf]
    omega
  · simp only [Automaton.starOf, Option.some.injEq]
    omega
  · intro t ht
    rcases mem_transitions_starOf.mp ht with rfl | ⟨t', ht', rfl⟩ | rfl | rfl | rfl
    · simp only [Automaton.starOf, Transition.silent]
      omega
    · have hends := ha.ends t' ht'
      simp only [Automaton.starOf, Transition.source_shift, Transition.target_shift]
      omega
    all_goals
      simp only [Automaton.starOf, Transition.silent]
      omega

/-- The concatenation of two blocks is a block, with one state for the end of the first and the
beginning of the second. -/
theorem Block.concatOf (ha : a.Block) (hb : b.Block) : (a.concatOf b (b.size - 1)).Block := by
  have hleft := ha.two_le
  have hright := hb.two_le
  refine ⟨?_, ?_, ?_⟩
  · simp only [Automaton.concatOf]
    omega
  · simp only [Automaton.concatOf, Option.some.injEq]
    omega
  · intro t ht
    rcases mem_transitions_concatOf.mp ht with ht | ⟨t', ht', rfl⟩
    · have hends := ha.ends t ht
      simp only [Automaton.concatOf]
      omega
    · have hends := hb.ends t' ht'
      simp only [Automaton.concatOf, Transition.source_shift, Transition.target_shift]
      omega

/-- The union of two blocks is a block. -/
theorem Block.unionOf (ha : a.Block) (hb : b.Block) :
    (a.unionOf b (a.size - 1) (b.size - 1)).Block := by
  have hleft := ha.two_le
  have hright := hb.two_le
  refine ⟨?_, ?_, ?_⟩
  · simp only [Automaton.unionOf]
    omega
  · simp only [Automaton.unionOf, Option.some.injEq]
    omega
  · intro t ht
    rcases mem_transitions_unionOf.mp ht with
      rfl | ⟨t', ht', rfl⟩ | rfl | rfl | ⟨t', ht', rfl⟩ | rfl
    · simp only [Automaton.unionOf, Transition.silent]
      omega
    · have hends := ha.ends t' ht'
      simp only [Automaton.unionOf, Transition.source_shift, Transition.target_shift]
      omega
    · simp only [Automaton.unionOf, Transition.silent]
      omega
    · simp only [Automaton.unionOf, Transition.silent]
      omega
    · have hends := hb.ends t' ht'
      simp only [Automaton.unionOf, Transition.source_shift, Transition.target_shift]
      omega
    · simp only [Automaton.unionOf, Transition.silent]
      omega

end RegexCompiler.Automaton
