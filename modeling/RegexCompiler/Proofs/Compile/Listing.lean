import RegexCompiler.Proofs.Automaton.Listing
import RegexCompiler.Proofs.Automaton.Machine
import RegexCompiler.Proofs.Compile.Basic
import RegexCompiler.Proofs.Expr.Order

/-!
# What a listing tells

A line tells its transition, so the lines of a listing tell the transitions, whatever integers and
texts these hold (`Automaton.display_inj`).  The listing itself is cut at its line feeds into these
lines, unless there is one in a symbol (`Automaton.splitOn_listing`).

Size and final state are not listed.  If the automata are those of texts, they follow from the
transitions, and the listing tells as much as the machine description (`listing_tells`).
-/

namespace RegexCompiler

open Text (IsLine)

/-! ## Any automata -/

/-- A line of a listing shows its transition, whatever the symbol is. -/
theorem Transition.line_injective : Function.Injective Transition.line := by
  intro t u h
  rw [← t.ofLine_line, h, u.ofLine_line]

/-- A line holds no line feed if the symbol holds none, so that lines can be told apart. -/
theorem Transition.not_mem_line {t : Transition} (ht : '\n' ∉ t.symbol.toList) :
    '\n' ∉ t.line.toList := by
  have hnumber : ∀ n, '\n' ∉ Text.decimal n := Text.not_mem_decimal rfl (by decide)
  simp [t.toList_line, hnumber, ht]

namespace Automaton

variable {a b : Automaton}

/-- **The lines tell the transitions.** -/
theorem display_inj : a.display = b.display ↔ a.transitions = b.transitions :=
  (List.map_injective_iff.mpr Transition.line_injective).eq_iff

/-- **A listing is cut into its lines at the line feeds** if there is none in a symbol. -/
theorem splitOn_listing (ha : ∀ t ∈ a.transitions, '\n' ∉ t.symbol.toList) :
    a.listing.toList.splitOn '\n' = a.listingLines := by
  have hlines : ∀ l ∈ a.listingLines, '\n' ∉ l := by
    refine List.forall_mem_cons.mpr ⟨by decide, ?_⟩
    intro l hl
    obtain ⟨t, ht, rfl⟩ := mem_map_display.mp hl
    exact Transition.not_mem_line (ha t ht)
  rw [toList_listing]
  exact List.splitOn_intercalate '\n' hlines (List.cons_ne_nil _ _)

/-- **So the listing tells the transitions.** -/
theorem listing_inj (ha : ∀ t ∈ a.transitions, '\n' ∉ t.symbol.toList)
    (hb : ∀ t ∈ b.transitions, '\n' ∉ t.symbol.toList) :
    a.listing = b.listing ↔ a.transitions = b.transitions := by
  rw [← display_inj]
  constructor
  · intro h
    have hlines : a.listingLines = b.listingLines := by
      rw [← splitOn_listing ha, h, splitOn_listing hb]
    have htext : Function.Injective String.toList := fun _ _ => String.toList_inj.mp
    exact List.map_injective_iff.mpr htext (List.cons.inj hlines).2
  · intro h
    rw [listing, listing, h]

end Automaton

/-! ## Automata of texts -/

/-- What a transition of an accepted text reads is one line. -/
theorem isLine_symbol {cs : List Char} {e : Expr} (hparse : Expr.parse cs = .ok e)
    {t : Transition} (ht : t ∈ e.automaton.transitions) : IsLine t.symbol.toList := by
  by_cases hsilent : t.symbol = epsilon
  · rw [hsilent]
    decide
  · have hlabelled : t.symbol ∈ (labelled e.automaton.transitions).map (·.symbol) := by
      refine List.mem_map.mpr ⟨t, List.mem_filter.mpr ⟨ht, ?_⟩, rfl⟩
      simpa using hsilent
    rw [Expr.symbols_labelled_automaton, symbols_of_parse hparse,
      Alphabet.filter_symbols] at hlabelled
    obtain ⟨c, hc, hsymbol⟩ := List.mem_map.mp hlabelled
    have hletter := (List.mem_filter.mp hc).2
    rw [← hsymbol, String.toList_singleton]
    refine List.forall_mem_singleton.mpr ⟨?_, ?_⟩ <;> (rintro rfl; cases hletter)

/-- A text that compiles gives the automaton of an expression, whose symbols are lines. -/
theorem exists_expr_of_compile_eq_ok {regex : String} {a : Automaton}
    (h : compile regex = .ok a) :
    ∃ e : Expr, a = e.automaton ∧ ∀ t ∈ a.transitions, IsLine t.symbol.toList := by
  obtain ⟨e, hparse, hbuild⟩ := exists_parse_of_compile_eq_ok h
  obtain rfl := Except.ok.inj (e.build_eq_ok.symm.trans hbuild)
  exact ⟨e, rfl, fun _ => isLine_symbol hparse⟩

/-- **Listings hide no differences.**  The lines of two automata, whatever integers their states and
whatever texts their symbols are, are the same just if the transitions are.  So are the listings,
if no symbol holds a line feed.  For texts that compile, the listing tells size and final state
too, and so it tells the machine description. -/
theorem listing_tells :
    (∀ a b : Automaton, a.display = b.display ↔ a.transitions = b.transitions) ∧
    (∀ a b : Automaton, (∀ t ∈ a.transitions, '\n' ∉ t.symbol.toList) →
      (∀ t ∈ b.transitions, '\n' ∉ t.symbol.toList) →
      (a.listing = b.listing ↔ a.transitions = b.transitions)) ∧
    ∀ (regex regex' : String) (a b : Automaton), compile regex = .ok a → compile regex' = .ok b →
      (a.listing = b.listing ↔
        a.size = b.size ∧ a.final = b.final ∧ a.transitions = b.transitions) ∧
      (a.listing = b.listing ↔ a.machine.toJson = b.machine.toJson) := by
  refine ⟨fun _ _ => Automaton.display_inj, fun _ _ => Automaton.listing_inj, ?_⟩
  intro regex regex' a b ha hb
  obtain ⟨e, rfl, hlines⟩ := exists_expr_of_compile_eq_ok ha
  obtain ⟨e', rfl, hlines'⟩ := exists_expr_of_compile_eq_ok hb
  rw [Automaton.listing_inj (fun t ht hfeed => (hlines t ht _ hfeed).1 rfl)
    (fun t ht hfeed => (hlines' t ht _ hfeed).1 rfl)]
  constructor
  · constructor
    · intro h
      rw [Automaton.eq_of_transitions_eq h]
      exact ⟨rfl, rfl, rfl⟩
    · intro h
      exact h.2.2
  · constructor
    · intro h
      rw [Automaton.eq_of_transitions_eq h]
    · intro h
      rw [e.block_automaton.eq_of_toJson_eq e'.block_automaton h]

/-- A symbol may look like the end of one transition and the start of another: only the line feed
in it makes the listings the same. -/
example :
    let a : Automaton := { size := 2, transitions := [⟨0, "a, 1)\n(0, b", 1⟩] }
    let b : Automaton := { size := 2, transitions := [⟨0, "a", 1⟩, ⟨0, "b", 1⟩] }
    a.listing = b.listing ∧ a.display ≠ b.display := by decide +kernel

/-- The texts `ab` and `ba`, and two automata whose symbols hold the separator. -/
theorem listing_tells_swapped :
    let a : Automaton := { size := 3, transitions := [⟨0, "a", 1⟩, ⟨1, "b", 2⟩], final := some 2 }
    let b : Automaton := { size := 3, transitions := [⟨0, "b", 1⟩, ⟨1, "a", 2⟩], final := some 2 }
    let c : Automaton := { size := 0, transitions := [⟨-1, ", 2", 3⟩] }
    let d : Automaton := { size := 0, transitions := [⟨-1, "2", 3⟩] }
    compile "ab" = .ok a ∧ compile "ba" = .ok b ∧
      a.listing ≠ b.listing ∧ a.machine.toJson ≠ b.machine.toJson ∧
      c.display ≠ d.display ∧ c.listing ≠ d.listing := by
  intro a b c d
  have ha : compile "ab" = .ok a := by decide +kernel
  have hb : compile "ba" = .ok b := by decide +kernel
  obtain ⟨hparts, hjson⟩ := listing_tells.2.2 "ab" "ba" a b ha hb
  have hne : a.listing ≠ b.listing := by
    intro h
    exact absurd (hparts.mp h).2.2 (by decide)
  have hdisplay := listing_tells.1 c d
  have hlisting := listing_tells.2.1 c d (by decide) (by decide)
  have htransitions : c.transitions ≠ d.transitions := by decide
  refine ⟨ha, hb, hne, ?_, ?_, ?_⟩
  · exact fun h => hne (hjson.mpr h)
  · exact fun h => htransitions (hdisplay.mp h)
  · exact fun h => htransitions (hlisting.mp h)

end RegexCompiler
