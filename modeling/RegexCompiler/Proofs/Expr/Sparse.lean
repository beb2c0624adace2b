import RegexCompiler.Proofs.Automaton.Ends
import RegexCompiler.Proofs.Expr.Automaton

/-!
# The shape of the automata of expressions

Few transitions meet at a state of such an automaton: at most two leave it and at most two enter it,
and one that reads a symbol leaves its state and enters its state alone (`IsFan`).

The constructions keep this because they are given blocks.  Nothing enters the first state of a
block and nothing leaves the last one, so the silent transitions around the parts meet only each
other there; and where a concatenation makes one state of two, what enters it comes from the first
part and what leaves it goes into the second one.
-/

namespace RegexCompiler

/-! ## What meets at a state -/

/-- **Fans**: what may leave a state, and what may enter one. -/
structure IsFan (ts : List Transition) : Prop where
  length_le : ts.length ≤ 2
  nodup : ts.Nodup
  alone : ∀ t ∈ ts, t.symbol ≠ epsilon → ts = [t]

namespace IsFan

/-- Nothing is a fan. -/
theorem nil : IsFan [] := ⟨Nat.zero_le 2, List.nodup_nil, by simp⟩

/-- One transition is a fan, whatever it reads. -/
theorem single (t : Transition) : IsFan [t] := by
  refine ⟨Nat.le_succ 1, List.nodup_singleton t, ?_⟩
  intro t' ht' _
  rw [List.mem_singleton.mp ht']

/-- Two silent transitions that differ are a fan. -/
theorem pair {p q p' q' : Int} (hne : p ≠ p' ∨ q ≠ q') :
    IsFan [.silent p q, .silent p' q'] := by
  refine ⟨Nat.le_refl 2, ?_, ?_⟩
  · have hdiff : Transition.silent p q ≠ .silent p' q' := by
      intro h
      cases h
      simp at hne
    simpa using hdiff
  · intro t ht hsymbol
    rcases List.mem_pair.mp ht with rfl | rfl <;> exact absurd rfl hsymbol

/-- A fan that is moved is one. -/
theorem shift {ts : List Transition} (h : IsFan ts) (k : Int) :
    IsFan (ts.map (Transition.shift k)) := by
  refine ⟨?_, h.nodup.map (Transition.shift_injective k), ?_⟩
  · rw [List.length_map]
    exact h.length_le
  · intro t ht hsymbol
    obtain ⟨t', ht', rfl⟩ := List.mem_map.mp ht
    rw [h.alone t' ht' hsymbol]
    rfl

/-- What is left of one transition is a fan. -/
theorem filter_single (t : Transition) (f : Transition → Bool) : IsFan ([t].filter f) := by
  cases hf : f t with
  | true =>
      rw [List.filter_singleton, hf]
      exact single t
  | false =>
      rw [List.filter_singleton, hf]
      exact nil

end IsFan

namespace Transition

/-- Whether a transition is no loop, and goes on by one state if it reads a symbol. -/
def Moves (t : Transition) : Prop :=
  t.source ≠ t.target ∧ (t.symbol ≠ epsilon → t.target = t.source + 1)

/-- A silent transition between two states is no loop. -/
theorem moves_silent {p q : Int} (hne : p ≠ q) : (silent p q).Moves :=
  ⟨hne, fun hsymbol => absurd rfl hsymbol⟩

/-- A transition that is moved goes on as far as before. -/
theorem Moves.shift {t : Transition} (h : t.Moves) (k : Int) : (t.shift k).Moves := by
  refine ⟨?_, ?_⟩
  · rw [source_shift, target_shift, Ne, Int.add_left_inj]
    exact h.1
  · intro hsymbol
    rw [source_shift, target_shift, h.2 hsymbol]
    omega

end Transition

namespace Automaton

/-! ## Sparse automata -/

/-- **Sparse automata**: blocks in which few transitions meet. -/
structure Sparse (a : Automaton) : Prop extends a.Block where
  leaving_isFan : ∀ p, IsFan (leaving p (p + 1) a.transitions)
  entering_isFan : ∀ p, IsFan (entering p a.transitions)
  moves : ∀ t ∈ a.transitions, t.Moves

variable {a b : Automaton}

/-- A literal has one transition, which reads its symbol. -/
theorem sparse_literal (s : String) : (literal s).Sparse := by
  refine { block_literal s with leaving_isFan := ?_, entering_isFan := ?_, moves := ?_ }
  · exact fun p => .filter_single _ _
  · exact fun p => .filter_single _ _
  · intro t ht
    obtain rfl := List.mem_singleton.mp ht
    exact ⟨Int.zero_ne_one, fun _ => rfl⟩

namespace Sparse

/-- A sparse automaton that is moved has fans at the states that its transitions leave. -/
theorem isFan_leaving_shifted (ha : a.Sparse) (p k : Int) :
    IsFan (leaving p (p + 1) (a.shifted k)) := by
  have hfan := (ha.leaving_isFan (p - k)).shift k
  rwa [leaving_shifted, show p + 1 - k = p - k + 1 by omega]

/-- It has fans at the states that its transitions enter. -/
theorem isFan_entering_shifted (ha : a.Sparse) (p k : Int) : IsFan (entering p (a.shifted k)) := by
  rw [entering_shifted]
  exact (ha.entering_isFan (p - k)).shift k

/-- The repetition of a sparse automaton is sparse: what is new meets in four states, in pairs. -/
theorem starOf (ha : a.Sparse) : (a.starOf (a.size - 1)).Sparse := by
  have hsize := ha.two_le
  have hblock := ha.toBlock
  refine { hblock.starOf with leaving_isFan := ?_, entering_isFan := ?_, moves := ?_ }
  · intro p
    by_cases hfirst : p = 0
    · rw [hfirst, Int.zero_add, leaving_starOf_first hblock]
      exact .pair (.inr (by omega))
    by_cases hlast : p = a.size
    · rw [hlast, leaving_starOf_last hblock]
      exact .pair (.inr (by omega))
    · rw [leaving_starOf_inner hfirst hlast]
      exact ha.isFan_leaving_shifted p 1
  · intro p
    by_cases hsecond : p = 1
    · rw [hsecond, entering_starOf_second hblock]
      exact .pair (.inl (by omega))
    by_cases hlast : p = a.size + 1
    · rw [hlast, entering_starOf_last hblock]
      exact .pair (.inl (by omega))
    · rw [entering_starOf_inner hsecond hlast]
      exact ha.isFan_entering_shifted p 1
  · intro t ht
    rcases mem_transitions_starOf.mp ht with rfl | ⟨t', ht', rfl⟩ | rfl | rfl | rfl
    · exact Transition.moves_silent (by omega)
    · exact (ha.moves t' ht').shift 1
    all_goals exact Transition.moves_silent (by omega)

/-- The concatenation of sparse automata is sparse: in the shared state one part ends, and the other
begins. -/
theorem concatOf (ha : a.Sparse) (hb : b.Sparse) : (a.concatOf b (b.size - 1)).Sparse := by
  have hleft := ha.toBlock
  have hright := hb.toBlock
  refine { hleft.concatOf hright with leaving_isFan := ?_, entering_isFan := ?_, moves := ?_ }
  · intro p
    by_cases hp : p < a.size - 1
    · rw [leaving_concatOf_left hright _ hp]
      exact ha.leaving_isFan p
    · rw [leaving_concatOf_right hleft _ (Int.not_lt.mp hp)]
      exact hb.isFan_leaving_shifted p _
  · intro p
    by_cases hp : p ≤ a.size - 1
    · rw [entering_concatOf_left hright _ hp]
      exact ha.entering_isFan p
    · rw [entering_concatOf_right hleft _ (Int.not_le.mp hp)]
      exact hb.isFan_entering_shifted p _
  · intro t ht
    rcases mem_transitions_concatOf.mp ht with ht | ⟨t', ht', rfl⟩
    · exact ha.moves t ht
    · exact (hb.moves t' ht').shift _

/-- The union of sparse automata is sparse. -/
theorem unionOf (ha : a.Sparse) (hb : b.Sparse) :
    (a.unionOf b (a.size - 1) (b.size - 1)).Sparse := by
  have hleft := ha.two_le
  have hright := hb.two_le
  have hblock := ha.toBlock
  have hblock' := hb.toBlock
  refine { hblock.unionOf hblock' with leaving_isFan := ?_, entering_isFan := ?_, moves := ?_ }
  · intro p
    -- the states from left to right: first, left part, join, right part, last
    by_cases hfirst : p = 0
    · rw [hfirst, Int.zero_add, leaving_unionOf_first hblock hblock']
      exact .pair (.inr (by omega))
    by_cases hlast : p = a.size + b.size
    · rw [hlast, leaving_unionOf_last hblock hblock']
      exact .single _
    rcases lt_trichotomy p a.size with hp | rfl | hp
    · rw [leaving_unionOf_left hblock' hfirst hp]
      exact ha.isFan_leaving_shifted p 1
    · rw [leaving_unionOf_join hblock hblock']
      exact .single _
    · rw [leaving_unionOf_right hblock hp hlast]
      exact hb.isFan_leaving_shifted p _
  · intro p
    by_cases hsecond : p = 1
    · rw [hsecond, entering_unionOf_second hblock hblock']
      exact .single _
    by_cases hlast : p = a.size + b.size + 1
    · rw [hlast, entering_unionOf_last hblock hblock']
      exact .pair (.inl (by omega))
    rcases lt_trichotomy p (a.size + 1) with hp | rfl | hp
    · rw [entering_unionOf_left hblock' hsecond (by omega)]
      exact ha.isFan_entering_shifted p 1
    · rw [entering_unionOf_join hblock hblock']
      exact .single _
    · rw [entering_unionOf_right hblock hp hlast]
      exact hb.isFan_entering_shifted p _
  · intro t ht
    rcases mem_transitions_unionOf.mp ht with
      rfl | ⟨t', ht', rfl⟩ | rfl | rfl | ⟨t', ht', rfl⟩ | rfl
    · exact Transition.moves_silent (by omega)
    · exact (ha.moves t' ht').shift 1
    · exact Transition.moves_silent (by omega)
    · exact Transition.moves_silent (by omega)
    · exact (hb.moves t' ht').shift _
    · exact Transition.moves_silent (by omega)

/-- A transition that were there twice would leave a state twice. -/
theorem nodup (ha : a.Sparse) : a.transitions.Nodup := by
  refine List.nodup_iff_count_le_one.mpr fun t => ?_
  have hcount : (leaving t.source (t.source + 1) a.transitions).count t = a.transitions.count t :=
    List.count_filter (decide_eq_true (by omega))
  rw [← hcount]
  exact List.nodup_iff_count_le_one.mp (ha.leaving_isFan t.source).nodup t

/-- A transition that reads a symbol is the only one that leaves its source. -/
theorem eq_of_source_eq (ha : a.Sparse) {t t' : Transition} (ht : t ∈ a.transitions)
    (hsymbol : t.symbol ≠ epsilon) (ht' : t' ∈ a.transitions) (hsource : t'.source = t.source) :
    t' = t := by
  have hfan := ha.leaving_isFan t.source
  have halone := hfan.alone t (mem_leaving.mpr ⟨ht, by omega⟩) hsymbol
  have hmem : t' ∈ leaving t.source (t.source + 1) a.transitions :=
    mem_leaving.mpr ⟨ht', by omega⟩
  rw [halone] at hmem
  exact List.mem_singleton.mp hmem

/-- It is the only one that enters its target. -/
theorem eq_of_target_eq (ha : a.Sparse) {t t' : Transition} (ht : t ∈ a.transitions)
    (hsymbol : t.symbol ≠ epsilon) (ht' : t' ∈ a.transitions) (htarget : t'.target = t.target) :
    t' = t := by
  have hfan := ha.entering_isFan t.target
  have halone := hfan.alone t (mem_entering.mpr ⟨ht, rfl⟩) hsymbol
  have hmem : t' ∈ entering t.target a.transitions := mem_entering.mpr ⟨ht', htarget⟩
  rw [halone] at hmem
  exact List.mem_singleton.mp hmem

end Sparse

end Automaton

/-- **The automaton of an expression is sparse.** -/
theorem Expr.sparse_automaton (e : Expr) : e.automaton.Sparse := by
  induction e with
  | literal s => exact Automaton.sparse_literal s
  | star e ih => exact ih.starOf
  | concat l r ihl ihr => exact ihl.concatOf ihr
  | union l r ihl ihr => exact ihl.unionOf ihr

/-- **The shape of what is built.**  The automaton of an expression ends in its last state; nothing
enters its first state or leaves its last one; there are no loops and no transition is there twice.
At most two transitions leave a state and at most two enter it, and one that reads a symbol is the
only one to leave its state, the only one to enter its state, and leads to the next state. -/
theorem build_shape (e : Expr) :
    ∃ a, e.build = .ok a ∧ 2 ≤ a.size ∧ a.final = some (a.size - 1) ∧
      (∀ t ∈ a.transitions, a.IsState t.source ∧ a.IsState t.target ∧ t.target ≠ 0 ∧
        t.source ≠ a.size - 1 ∧ t.source ≠ t.target) ∧
      a.transitions.Nodup ∧
      (∀ p, (a.transitions.filter (·.source = p)).length ≤ 2 ∧
        (a.transitions.filter (·.target = p)).length ≤ 2) ∧
      ∀ t ∈ a.transitions, t.symbol ≠ epsilon → t.target = t.source + 1 ∧
        (∀ t' ∈ a.transitions, t'.source = t.source → t' = t) ∧
        ∀ t' ∈ a.transitions, t'.target = t.target → t' = t := by
  have hsparse := e.sparse_automaton
  refine ⟨e.automaton, e.build_eq_ok, hsparse.two_le, hsparse.final_eq, ?_, hsparse.nodup, ?_, ?_⟩
  · intro t ht
    have hends := hsparse.ends t ht
    have hloop := (hsparse.moves t ht).1
    unfold Automaton.IsState
    omega
  · intro p
    refine ⟨?_, (hsparse.entering_isFan p).length_le⟩
    rw [← leaving_self]
    exact (hsparse.leaving_isFan p).length_le
  · intro t ht hsymbol
    refine ⟨(hsparse.moves t ht).2 hsymbol, ?_, ?_⟩
    · exact fun t' => hsparse.eq_of_source_eq ht hsymbol
    · exact fun t' => hsparse.eq_of_target_eq ht hsymbol

/-- A symbol of two characters inside a repetition, beside a symbol without characters. -/
theorem build_shape_star :
    let e : Expr := .star (.concat (.literal "ab") (.union (.literal "E") (.literal "")))
    ∃ a, e.build = .ok a ∧ (⟨1, "ab", 2⟩ : Transition) ∈ a.transitions ∧
      (∀ t' ∈ a.transitions, t'.source = 1 → t' = ⟨1, "ab", 2⟩) ∧
      ∀ t' ∈ a.transitions, t'.target = 2 → t' = ⟨1, "ab", 2⟩ := by
  intro e
  obtain ⟨a, hbuild, -, -, -, -, -, hsymbols⟩ := build_shape e
  obtain rfl := Except.ok.inj (e.build_eq_ok.symm.trans hbuild)
  have hmem : (⟨1, "ab", 2⟩ : Transition) ∈ e.automaton.transitions := by decide +kernel
  obtain ⟨-, hsource, htarget⟩ := hsymbols _ hmem (by decide)
  exact ⟨_, hbuild, hmem, hsource, htarget⟩

end RegexCompiler
