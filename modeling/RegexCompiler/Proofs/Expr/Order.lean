import RegexCompiler.Proofs.Automaton.Ends
import RegexCompiler.Proofs.Automaton.Machine
import RegexCompiler.Proofs.Compile.Language
import RegexCompiler.Proofs.Scan.Symbols

/-!
# The order of the text in the automaton

The transitions that read something stand in the order of the text: their symbols spell the letters
of the text, and their states ascend.

A construction lists the transitions of its first part before those of its second one, and gives the
first part the lower states.  Its own transitions are silent, so they do not come between.
-/

namespace RegexCompiler

/-! ## Transitions that read something -/

/-- The transitions that are not silent. -/
def labelled (ts : List Transition) : List Transition := ts.filter (·.symbol ≠ epsilon)

/-- Whether the states that transitions leave ascend along the list. -/
def Ascends (ts : List Transition) : Prop := (ts.map (·.source)).Pairwise (· < ·)

/-- The transitions that read something are collected part by part. -/
theorem labelled_append (ts ts' : List Transition) :
    labelled (ts ++ ts') = labelled ts ++ labelled ts' := List.filter_append _ _

/-- A silent transition is not among them. -/
theorem labelled_silent (p q : Int) (ts : List Transition) :
    labelled (.silent p q :: ts) = labelled ts :=
  List.filter_cons_of_neg (by simp [Transition.silent])

/-- No transitions, none that read something. -/
theorem labelled_nil : labelled [] = [] := rfl

/-- A transition that reads something is a transition. -/
theorem mem_of_mem_labelled {t : Transition} {ts : List Transition} (h : t ∈ labelled ts) :
    t ∈ ts := List.mem_of_mem_filter h

/-- Two ascending lists ascend one after the other if all of the first lies before all of the
second. -/
theorem Ascends.append {ts ts' : List Transition} (h : Ascends ts) (h' : Ascends ts')
    (hlt : ∀ t ∈ ts, ∀ t' ∈ ts', t.source < t'.source) : Ascends (ts ++ ts') := by
  unfold Ascends
  rw [List.map_append, List.pairwise_append]
  refine ⟨h, h', ?_⟩
  intro p hp q hq
  obtain ⟨t, ht, rfl⟩ := List.mem_map.mp hp
  obtain ⟨t', ht', rfl⟩ := List.mem_map.mp hq
  exact hlt t ht t' ht'

namespace Automaton

variable {a b : Automaton} {f g k : Int}

/-- What reads something still does so when it is moved. -/
theorem labelled_shifted (a : Automaton) (k : Int) :
    labelled (a.shifted k) = (labelled a.transitions).map (Transition.shift k) :=
  List.filter_map

/-- It reads the same symbols in the same order. -/
theorem symbols_labelled_shifted (a : Automaton) (k : Int) :
    (labelled (a.shifted k)).map (·.symbol) = (labelled a.transitions).map (·.symbol) := by
  rw [labelled_shifted, List.map_map]
  rfl

/-- It leaves states in the same order. -/
theorem ascends_labelled_shifted (h : Ascends (labelled a.transitions)) (k : Int) :
    Ascends (labelled (a.shifted k)) := by
  unfold Ascends at *
  rw [List.pairwise_map] at h
  rw [labelled_shifted, List.map_map, List.pairwise_map]
  refine h.imp ?_
  intro t t' hlt
  simpa using hlt

/-- The new transitions of a repetition read nothing. -/
theorem labelled_starOf (a : Automaton) (f : Int) :
    labelled (a.starOf f).transitions = labelled (a.shifted 1) := by
  simp only [starOf, List.cons_append, labelled_silent, labelled_append, labelled_nil,
    List.append_nil]

/-- A concatenation reads what its parts read, the left part first. -/
theorem labelled_concatOf (a b : Automaton) (g : Int) :
    labelled (a.concatOf b g).transitions =
      labelled a.transitions ++ labelled (b.shifted (a.size - 1)) :=
  labelled_append _ _

/-- The new transitions of a union read nothing, and the left part comes first. -/
theorem labelled_unionOf (a b : Automaton) (f g : Int) :
    labelled (a.unionOf b f g).transitions =
      labelled (a.shifted 1) ++ labelled (b.shifted (a.size + 1)) := by
  simp only [unionOf, List.cons_append, List.append_assoc, labelled_silent, labelled_append,
    labelled_nil, List.append_nil]

/-- The second part of a concatenation reads in later states than the first one. -/
theorem ascends_concatOf (ha : a.Block) (hb : b.Block) (h : Ascends (labelled a.transitions))
    (h' : Ascends (labelled b.transitions)) (g : Int) :
    Ascends (labelled (a.concatOf b g).transitions) := by
  rw [labelled_concatOf]
  apply h.append (ascends_labelled_shifted h' _)
  intro t ht t' ht'
  have hleft := ha.ends t (mem_of_mem_labelled ht)
  have hright := hb.ends_shifted (mem_of_mem_labelled ht')
  omega

/-- The second part of a union reads in later states than the first one. -/
theorem ascends_unionOf (ha : a.Block) (hb : b.Block) (h : Ascends (labelled a.transitions))
    (h' : Ascends (labelled b.transitions)) (f g : Int) :
    Ascends (labelled (a.unionOf b f g).transitions) := by
  rw [labelled_unionOf]
  apply (ascends_labelled_shifted h _).append (ascends_labelled_shifted h' _)
  intro t ht t' ht'
  have hleft := ha.ends_shifted (mem_of_mem_labelled ht)
  have hright := hb.ends_shifted (mem_of_mem_labelled ht')
  omega

end Automaton

/-! ## Expressions -/

namespace Expr

/-- **What the transitions read**, in their order, are the symbols of the expression. -/
theorem symbols_labelled_automaton (e : Expr) :
    (labelled e.automaton.transitions).map (·.symbol) = e.symbols.filter (· ≠ epsilon) := by
  induction e with
  | literal s =>
      by_cases hs : s = epsilon <;> simp [automaton, Automaton.literal, labelled, symbols, hs]
  | star e ih =>
      rw [automaton, Automaton.labelled_starOf, Automaton.symbols_labelled_shifted, ih, symbols]
  | concat l r ihl ihr =>
      rw [automaton, Automaton.labelled_concatOf, List.map_append,
        Automaton.symbols_labelled_shifted, ihl, ihr, symbols, List.filter_append]
  | union l r ihl ihr =>
      rw [automaton, Automaton.labelled_unionOf, List.map_append,
        Automaton.symbols_labelled_shifted, Automaton.symbols_labelled_shifted, ihl, ihr, symbols,
        List.filter_append]

/-- **Where they read it** ascends. -/
theorem ascends_labelled_automaton (e : Expr) : Ascends (labelled e.automaton.transitions) := by
  induction e with
  | literal s =>
      by_cases hs : s = epsilon <;> simp [automaton, Automaton.literal, labelled, Ascends, hs]
  | star e ih =>
      rw [automaton, Automaton.labelled_starOf]
      exact Automaton.ascends_labelled_shifted ih 1
  | concat l r ihl ihr =>
      exact Automaton.ascends_concatOf l.block_automaton r.block_automaton ihl ihr _
  | union l r ihl ihr =>
      exact Automaton.ascends_unionOf l.block_automaton r.block_automaton ihl ihr _ _

end Expr

/-- The symbols of a text but `E` are its letters. -/
theorem Alphabet.filter_symbols (cs : List Char) :
    (symbols cs).filter (· ≠ epsilon) = (cs.filter isLetter).map String.singleton := by
  rw [symbols, List.filter_map, List.filter_filter]
  refine congrArg _ (List.filter_congr ?_)
  intro c _
  by_cases hc : c = 'E'
  · subst hc
    rfl
  · have hne : String.singleton c ≠ epsilon := fun h => hc (singleton_eq_epsilon_iff.mp h)
    simp [isSymbol, hc, hne]

/-- **The order of the text is kept.**  If a text is accepted, its letters are, in their order, what
the transitions of its automaton read along the list, and the states in which they are read ascend.
The symbols of the machine description are those letters, each once, in ascending order. -/
theorem compile_keeps_order (regex : String) :
    ∃ c, Compilation.ofText regex = .ok c ∧ (c.error = none →
      let letters := (regex.toList.filter Alphabet.isLetter).map String.singleton
      let reading := c.automaton.transitions.filter (·.symbol ≠ epsilon)
      reading.map (·.symbol) = letters ∧ (reading.map (·.source)).Pairwise (· < ·) ∧
      c.automaton.machine.symbols.Pairwise (· < ·) ∧
      ∀ s, s ∈ c.automaton.machine.symbols ↔ s ∈ letters) := by
  obtain ⟨c, hc, haccepted⟩ := Compilation.exists_ofText_and_derives regex
  refine ⟨c, hc, ?_⟩
  intro hnone letters reading
  obtain ⟨e, hderives, he⟩ := haccepted hnone
  have hletters : e.symbols.filter (· ≠ epsilon) = letters := by
    rw [symbols_of_parse (parse_of_derives hderives), Alphabet.filter_symbols]
  have hreading : reading = labelled e.automaton.transitions := by
    rw [← he]
    rfl
  have hspelt : reading.map (·.symbol) = letters := by
    rw [hreading, e.symbols_labelled_automaton, hletters]
  refine ⟨hspelt, ?_, Machine.symbolsOf_ascends _, ?_⟩
  · rw [hreading]
    exact e.ascends_labelled_automaton
  · intro s
    rw [← hspelt]
    exact Machine.mem_symbolsOf

/-- The letter `b` stands twice in the text, so it is read twice and described once. -/
theorem compile_keeps_order_repeated :
    ∃ c, Compilation.ofText "b(ab|E)*" = .ok c ∧
      let reading := c.automaton.transitions.filter (·.symbol ≠ epsilon)
      reading.map (·.symbol) = ["b", "a", "b"] ∧ (reading.map (·.source)).Pairwise (· < ·) ∧
      c.automaton.machine.symbols.Pairwise (· < ·) ∧
      ∀ s, s ∈ c.automaton.machine.symbols ↔ s ∈ ["b", "a", "b"] := by
  obtain ⟨c, hc, horder⟩ := compile_keeps_order "b(ab|E)*"
  have haccepted : (Compilation.ofText "b(ab|E)*").map (·.error) = .ok none := by decide +kernel
  rw [hc] at haccepted
  have hletters : ("b(ab|E)*".toList.filter Alphabet.isLetter).map String.singleton =
      ["b", "a", "b"] := by decide
  have hkept := horder (Except.ok.inj haccepted)
  rw [hletters] at hkept
  exact ⟨c, hc, hkept⟩

end RegexCompiler
