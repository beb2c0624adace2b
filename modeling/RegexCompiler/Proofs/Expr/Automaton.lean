import RegexCompiler.Proofs.Expr.Walk

/-!
# The automaton of an expression, without failures

Building an expression never fails, and the final state of what is built is its last one.  So the
automaton of an expression is a function of the expression (`Expr.automaton`): each node puts the
automata of its parts together by the construction of its name.  It is a block, whose first state is
left and whose last state is entered.
-/

namespace RegexCompiler.Expr

/-- **The automaton of an expression.** -/
def automaton : Expr → Automaton
  | literal s => .literal s
  | star e => e.automaton.starOf (e.automaton.size - 1)
  | concat l r => l.automaton.concatOf r.automaton (r.automaton.size - 1)
  | union l r =>
    l.automaton.unionOf r.automaton (l.automaton.size - 1) (r.automaton.size - 1)

/-- The automaton of an expression is a block. -/
theorem block_automaton (e : Expr) : e.automaton.Block := by
  induction e with
  | literal s => exact Automaton.block_literal s
  | star e ih => exact ih.starOf
  | concat l r ihl ihr => exact ihl.concatOf ihr
  | union l r ihl ihr => exact ihl.unionOf ihr

/-- Something leaves the initial state of an expression. -/
theorem exists_source_eq_zero (e : Expr) : ∃ t ∈ e.automaton.transitions, t.source = 0 := by
  induction e with
  | literal s => exact ⟨_, List.mem_singleton_self _, rfl⟩
  | star e ih => exact ⟨_, List.mem_cons_self, rfl⟩
  | concat l r ihl ihr =>
      obtain ⟨t, ht, hsource⟩ := ihl
      exact ⟨t, List.mem_append_left _ ht, hsource⟩
  | union l r ihl ihr => exact ⟨_, List.mem_cons_self, rfl⟩

/-- Every automaton of an expression has a transition. -/
theorem transitions_automaton_ne_nil (e : Expr) : e.automaton.transitions ≠ [] := by
  obtain ⟨t, ht, -⟩ := e.exists_source_eq_zero
  exact List.ne_nil_of_mem ht

/-- Something enters the last state of an expression. -/
theorem exists_target_eq_last (e : Expr) :
    ∃ t ∈ e.automaton.transitions, t.target = e.automaton.size - 1 := by
  induction e with
  | literal s => exact ⟨_, List.mem_singleton_self _, rfl⟩
  | star e ih =>
      refine ⟨.silent 0 (e.automaton.size + 1),
        Automaton.mem_transitions_starOf.mpr (by simp), ?_⟩
      simp only [Transition.silent, automaton, Automaton.starOf]
      omega
  | concat l r ihl ihr =>
      obtain ⟨t, ht, htarget⟩ := ihr
      refine ⟨t.shift (l.automaton.size - 1),
        Automaton.mem_transitions_concatOf.mpr (.inr ⟨t, ht, rfl⟩), ?_⟩
      simp only [Transition.target_shift, automaton, Automaton.concatOf]
      omega
  | union l r ihl ihr =>
      refine ⟨.silent (l.automaton.size - 1 + 1) (l.automaton.size + r.automaton.size + 1),
        Automaton.mem_transitions_unionOf.mpr (by simp), ?_⟩
      simp only [Transition.silent, automaton, Automaton.unionOf]
      omega

/-- **Building never fails.** -/
theorem build_eq_ok (e : Expr) : e.build = .ok e.automaton := by
  induction e with
  | literal s => exact build_eq_assemble _
  | star e ih =>
      rw [build_star ih]
      exact Automaton.star_eq_ok e.block_automaton.final_eq
  | concat l r ihl ihr =>
      rw [build_concat ihl ihr]
      exact Automaton.concat_eq_ok r.block_automaton.final_eq
  | union l r ihl ihr =>
      rw [build_union ihl ihr]
      exact Automaton.union_eq_ok l.block_automaton.final_eq r.block_automaton.final_eq

end RegexCompiler.Expr
