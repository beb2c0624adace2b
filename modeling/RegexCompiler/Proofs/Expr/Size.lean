import RegexCompiler.Proofs.Expr.Reach
import RegexCompiler.Proofs.Expr.Sparse
import RegexCompiler.Proofs.Scan.Symbols

/-!
# The size of the automaton

How many states and transitions the automaton of an expression has depends on how many symbols,
repetitions and unions the expression holds, and not on their order or grouping.  A concatenation
costs nothing, since it makes one state of two; so the number of symbols is all that counts of it.

A repetition has one transition that leads back; every other transition leads to a later state.
Without repetitions, then, no path comes back to where it was (`acyclic_of_forward`).
-/

namespace RegexCompiler

/-- How many transitions lead back to an earlier state. -/
def backward (ts : List Transition) : Nat := ts.countP fun t => t.target < t.source

/-- Ways back are counted part by part. -/
theorem backward_append (ts ts' : List Transition) :
    backward (ts ++ ts') = backward ts + backward ts' := List.countP_append

/-- A silent transition counts if it leads back. -/
theorem backward_silent (p q : Int) (ts : List Transition) :
    backward (.silent p q :: ts) = backward ts + if q < p then 1 else 0 := by
  simp [backward, List.countP_cons, Transition.silent]

/-- No transitions, no ways back. -/
theorem backward_nil : backward [] = 0 := rfl

namespace Automaton

variable {a b : Automaton} {p q : Int}

/-- Moving an automaton neither adds nor drops transitions. -/
theorem length_shifted (a : Automaton) (k : Int) :
    (a.shifted k).length = a.transitions.length := List.length_map _

/-- Moving transitions up turns none of them round. -/
theorem backward_shifted (a : Automaton) (k : Int) :
    backward (a.shifted k) = backward a.transitions := by
  unfold backward shifted
  rw [List.countP_map]
  apply List.countP_congr
  intro t _
  simp

/-! ## Ways back -/

/-- Whether no path comes back to where it was. -/
def Acyclic (a : Automaton) : Prop := ∀ t ∈ a.transitions, ¬ a.Reaches t.target t.source

/-- Where all transitions lead to later states, so do all paths. -/
theorem Reaches.le (hforward : ∀ t ∈ a.transitions, t.source < t.target) (h : a.Reaches p q) :
    p ≤ q := by
  obtain ⟨w, hw⟩ := h
  induction hw with
  | nil p => exact Int.le_refl p
  | @cons t w q ht _ ih =>
      have hstep := hforward t ht
      omega

/-- Where all transitions lead to later states, no path comes back. -/
theorem acyclic_of_forward (hforward : ∀ t ∈ a.transitions, t.source < t.target) :
    a.Acyclic := by
  intro t ht hback
  have hstep := hforward t ht
  have hle := hback.le hforward
  omega

/-! ## The constructions -/

/-- A repetition has four transitions more than its part. -/
theorem length_transitions_starOf (a : Automaton) (f : Int) :
    (a.starOf f).transitions.length = a.transitions.length + 4 := by
  simp [starOf, length_shifted]

/-- A concatenation has the transitions of its parts and no others. -/
theorem length_transitions_concatOf (a b : Automaton) (g : Int) :
    (a.concatOf b g).transitions.length = a.transitions.length + b.transitions.length := by
  simp [concatOf, length_shifted]

/-- A union has four transitions more than its parts. -/
theorem length_transitions_unionOf (a b : Automaton) (f g : Int) :
    (a.unionOf b f g).transitions.length = a.transitions.length + b.transitions.length + 4 := by
  simp [unionOf, length_shifted]
  omega

/-- Of the silent transitions of a repetition one leads back. -/
theorem backward_starOf (ha : a.Block) :
    backward (a.starOf (a.size - 1)).transitions = backward a.transitions + 1 := by
  have hsize := ha.two_le
  have hback : 1 < a.size := by omega
  have hin : ¬ (1 : Int) < 0 := by omega
  have hout : ¬ a.size + 1 < a.size := by omega
  have hskip : ¬ a.size + 1 < 0 := by omega
  rw [transitions_starOf_last, backward_silent, backward_append, backward_shifted,
    backward_silent, backward_silent, backward_silent, backward_nil, if_neg hin, if_neg hout,
    if_pos hback, if_neg hskip]

/-- A concatenation makes no new way back. -/
theorem backward_concatOf (a b : Automaton) (g : Int) :
    backward (a.concatOf b g).transitions = backward a.transitions + backward b.transitions := by
  rw [concatOf, backward_append, backward_shifted]

/-- Of those of a union none does. -/
theorem backward_unionOf (ha : a.Block) (hb : b.Block) :
    backward (a.unionOf b (a.size - 1) (b.size - 1)).transitions =
      backward a.transitions + backward b.transitions := by
  have hleft := ha.two_le
  have hright := hb.two_le
  have hin : ¬ (1 : Int) < 0 := by omega
  have hout : ¬ a.size + b.size + 1 < a.size := by omega
  have hin' : ¬ a.size + 1 < 0 := by omega
  have hout' : ¬ a.size + b.size + 1 < a.size + b.size := by omega
  rw [transitions_unionOf_last, backward_silent, backward_append, backward_shifted,
    backward_silent, backward_silent, backward_append, backward_shifted, backward_silent,
    backward_nil, if_neg hin, if_neg hout, if_neg hin', if_neg hout']
  omega

end Automaton

/-! ## Expressions -/

namespace Expr

/-- **The number of states**, from the literals, repetitions and unions of an expression. -/
theorem size_automaton (e : Expr) :
    e.automaton.size = e.symbols.length + 2 * e.stars + 3 * e.unions + 1 := by
  induction e with
  | literal s => rfl
  | star e ih =>
      simp only [automaton, Automaton.starOf, symbols, stars, unions]
      omega
  | concat l r ihl ihr =>
      simp only [automaton, Automaton.concatOf, symbols, stars, unions, List.length_append]
      omega
  | union l r ihl ihr =>
      simp only [automaton, Automaton.unionOf, symbols, stars, unions, List.length_append]
      omega

/-- **The number of transitions**, from the same. -/
theorem length_transitions_automaton (e : Expr) :
    e.automaton.transitions.length = e.symbols.length + 4 * e.stars + 4 * e.unions := by
  induction e with
  | literal s => rfl
  | star e ih =>
      rw [automaton, Automaton.length_transitions_starOf, ih, symbols, stars, unions]
      omega
  | concat l r ihl ihr =>
      rw [automaton, Automaton.length_transitions_concatOf, ihl, ihr, symbols, stars, unions,
        List.length_append]
      omega
  | union l r ihl ihr =>
      rw [automaton, Automaton.length_transitions_unionOf, ihl, ihr, symbols, stars, unions,
        List.length_append]
      omega

/-- **There is one way back for each repetition**, and no other. -/
theorem backward_automaton (e : Expr) : backward e.automaton.transitions = e.stars := by
  induction e with
  | literal s => rfl
  | star e ih => rw [automaton, Automaton.backward_starOf e.block_automaton, ih, stars]
  | concat l r ihl ihr => rw [automaton, Automaton.backward_concatOf, ihl, ihr, stars]
  | union l r ihl ihr =>
      rw [automaton, Automaton.backward_unionOf l.block_automaton r.block_automaton, ihl, ihr,
        stars]

/-- What does not lead back leads on. -/
theorem source_lt_target_automaton {e : Expr} {t : Transition} (ht : t ∈ e.automaton.transitions)
    (hback : ¬ t.target < t.source) : t.source < t.target := by
  have hloop := (e.sparse_automaton.moves t ht).1
  omega

/-- Without repetitions no path comes back. -/
theorem acyclic_automaton {e : Expr} (h : e.stars = 0) : e.automaton.Acyclic := by
  have hnone := e.backward_automaton
  rw [h] at hnone
  apply Automaton.acyclic_of_forward
  intro t ht
  apply source_lt_target_automaton ht
  simpa using List.countP_eq_zero.mp hnone t ht

end Expr

/-- **The size of the automaton of a text** is read off its characters.  With `l` letters or `E`,
`s` signs `*` and `u` signs `|`, a text that is accepted gets `l + 2 * s + 3 * u + 1` states and
`l + 4 * s + 4 * u` transitions, of which `s` lead back and all others on to a later state.  So
without `*` no path comes back to where it was. -/
theorem compile_size (regex : String) :
    ∃ c, Compilation.ofText regex = .ok c ∧ (c.error = none →
      let l := regex.toList.countP Alphabet.isSymbol
      let s := regex.toList.count '*'
      let u := regex.toList.count '|'
      c.automaton.size = l + 2 * s + 3 * u + 1 ∧
      c.automaton.transitions.length = l + 4 * s + 4 * u ∧
      (c.automaton.transitions.countP fun t => t.target < t.source) = s ∧
      (∀ t ∈ c.automaton.transitions, ¬ t.target < t.source → t.source < t.target) ∧
      (s = 0 → c.automaton.Acyclic)) := by
  obtain ⟨c, hc, haccepted⟩ := Compilation.exists_ofText_and_derives regex
  refine ⟨c, hc, ?_⟩
  intro hnone
  obtain ⟨e, hderives, he⟩ := haccepted hnone
  obtain ⟨hstars, hunions⟩ := operators_of_derives hderives
  have hsymbols : e.symbols.length = regex.toList.countP Alphabet.isSymbol := by
    rw [symbols_of_parse (parse_of_derives hderives), Alphabet.symbols, List.length_map,
      List.countP_eq_length_filter]
  rw [he, ← hsymbols, ← hstars, ← hunions]
  refine ⟨e.size_automaton, e.length_transitions_automaton, e.backward_automaton, ?_, ?_⟩
  · intro t ht
    exact Expr.source_lt_target_automaton ht
  · exact Expr.acyclic_automaton

/-- Parentheses add nothing; of two texts the one without `*` has no ways back. -/
theorem compile_size_nested :
    (∃ c, Compilation.ofText "((a|E)*(b))*" = .ok c ∧ c.automaton.size = 11 ∧
      c.automaton.transitions.length = 15 ∧
      (c.automaton.transitions.countP fun t => t.target < t.source) = 2) ∧
    ∃ c, Compilation.ofText "((a|E))b" = .ok c ∧ c.automaton.Acyclic := by
  refine ⟨?_, ?_⟩
  · obtain ⟨c, hc, hcounts⟩ := compile_size "((a|E)*(b))*"
    have haccepted : (Compilation.ofText "((a|E)*(b))*").map (·.error) = .ok none := by
      decide +kernel
    rw [hc] at haccepted
    obtain ⟨hsize, hlength, hback, -, -⟩ := hcounts (Except.ok.inj haccepted)
    exact ⟨c, hc, hsize.trans (by decide), hlength.trans (by decide), hback.trans (by decide)⟩
  · obtain ⟨c, hc, hcounts⟩ := compile_size "((a|E))b"
    have haccepted : (Compilation.ofText "((a|E))b").map (·.error) = .ok none := by
      decide +kernel
    rw [hc] at haccepted
    obtain ⟨-, -, -, -, hacyclic⟩ := hcounts (Except.ok.inj haccepted)
    exact ⟨c, hc, hacyclic (by decide)⟩

end RegexCompiler
