import RegexCompiler.Automaton.Listing
import RegexCompiler.Proofs.Expr.Automaton
import RegexCompiler.Proofs.Text.Delimited
import RegexCompiler.Proofs.Text.Lines

/-!
# Reading a listing

A line of a listing is read from both ends: the source stands before the first comma, and the target
behind the last space, since numbers hold neither.  So a line is read as the transition that it was
written of, whatever text its symbol is (`Transition.ofLine_line`).

A listing does not tell the size and the final state.  In the automaton of an expression the last
state is the final one and is entered, so it is the largest number in the listing
(`Automaton.ofTransitions_automaton`).
-/

namespace RegexCompiler

namespace Transition

open Text (IsLine)

/-- The transition of a line of a listing. -/
def ofLine (cs : List Char) : Transition :=
  let inner := cs.drop 1
  let source := inner.takeWhile (· ≠ ',')
  let behind := (inner.drop (source.length + 2)).reverse.drop 1
  let target := behind.takeWhile (· ≠ ' ')
  { source := Text.toInt source
    symbol := String.ofList (behind.drop (target.length + 2)).reverse
    target := Text.toInt target.reverse }

/-- The line of a transition, taken apart: the symbol stands between the first comma and the last
one. -/
theorem toList_line (t : Transition) :
    t.line.toList = '(' :: (Text.decimal t.source ++ ',' :: ' ' :: (t.symbol.toList ++
      ',' :: ' ' :: (Text.decimal t.target ++ [')']))) := by
  simp [line, Text.ofInt]

/-- **A line is read as it was written**, whatever its states and its symbol are. -/
theorem ofLine_line (t : Transition) : ofLine t.line.toList = t := by
  have hcomma := Text.not_mem_decimal (c := ',') rfl (by decide) t.source
  have hspace : ' ' ∉ (Text.decimal t.target).reverse := by
    rw [List.mem_reverse]
    exact Text.not_mem_decimal rfl (by decide) t.target
  rw [toList_line]
  generalize hrest : t.symbol.toList ++ ',' :: ' ' :: (Text.decimal t.target ++ [')']) = rest
  have hsource := Text.takeWhile_ne_append hcomma (' ' :: rest)
  have hdrop : (Text.decimal t.source ++ ',' :: ' ' :: rest).drop
      ((Text.decimal t.source).length + 2) = rest := by
    simp [List.drop_append]
  -- the rest is read backwards, from the target to the symbol
  have hbehind : rest.reverse.drop 1 =
      (Text.decimal t.target).reverse ++ ' ' :: ',' :: t.symbol.toList.reverse := by
    simp [← hrest]
  have htarget := Text.takeWhile_ne_append hspace (',' :: t.symbol.toList.reverse)
  have hsymbol : ((Text.decimal t.target).reverse ++ ' ' :: ',' :: t.symbol.toList.reverse).drop
      ((Text.decimal t.target).reverse.length + 2) = t.symbol.toList.reverse := by
    simp [List.drop_append]
  simp only [ofLine, List.drop_succ_cons, List.drop_zero, hsource, hdrop, hbehind, htarget, hsymbol,
    List.reverse_reverse, Text.toInt_decimal, String.ofList_toList]

/-- A line of a listing is one line if its symbol is. -/
theorem isLine_line {t : Transition} (ht : IsLine t.symbol.toList) : IsLine t.line.toList := by
  have hsource : IsLine (Text.decimal t.source) := (Text.isShown_decimal _).isLine
  have htarget : IsLine (Text.decimal t.target) := (Text.isShown_decimal _).isLine
  have hend : IsLine [')'] := by decide
  rw [toList_line]
  refine .cons (by decide) (hsource.append (.cons (by decide) (.cons (by decide) ?_)))
  exact ht.append (.cons (by decide) (.cons (by decide) (htarget.append hend)))

end Transition

/-! ## Size and final state -/

namespace Automaton

/-- The largest state that some transitions leave or enter, or 0. -/
def lastState (ts : List Transition) : Int :=
  ts.foldr (fun t last => max (max t.source t.target) last) 0

/-- The automaton with these transitions whose last state is final. -/
def ofTransitions (ts : List Transition) : Automaton where
  size := lastState ts + 1
  transitions := ts
  final := some (lastState ts)

/-- The largest state that a list of transitions mentions, as a least upper bound. -/
theorem lastState_le_iff {ts : List Transition} {n : Int} :
    lastState ts ≤ n ↔ 0 ≤ n ∧ ∀ t ∈ ts, t.source ≤ n ∧ t.target ≤ n := by
  induction ts with
  | nil => simp [lastState]
  | cons t ts ih =>
      show max (max t.source t.target) (lastState ts) ≤ n ↔ _
      rw [max_le_iff, max_le_iff, ih, List.forall_mem_cons]
      exact and_left_comm

/-- **The largest state of an expression's listing is the final one.** -/
theorem ofTransitions_automaton (e : Expr) :
    ofTransitions e.automaton.transitions = e.automaton := by
  have hblock := e.block_automaton
  have hsize := hblock.two_le
  have hle : lastState e.automaton.transitions ≤ e.automaton.size - 1 := by
    refine lastState_le_iff.mpr ⟨by omega, ?_⟩
    intro t ht
    have hends := hblock.ends t ht
    omega
  have hge : e.automaton.size - 1 ≤ lastState e.automaton.transitions := by
    obtain ⟨t, ht, htarget⟩ := e.exists_target_eq_last
    exact htarget ▸ ((lastState_le_iff.mp (le_refl _)).2 t ht).2
  have hlast := le_antisymm hle hge
  rw [ofTransitions, hlast, Int.sub_add_cancel, ← hblock.final_eq]

/-- The transitions of an expression tell its automaton. -/
theorem eq_of_transitions_eq {e e' : Expr}
    (h : e.automaton.transitions = e'.automaton.transitions) : e.automaton = e'.automaton := by
  rw [← ofTransitions_automaton e, h, ofTransitions_automaton]

/-- The heading of a listing. -/
def heading : List Char := "NFA:".toList

/-- The lines of a listing, the heading first. -/
def listingLines (a : Automaton) : List (List Char) := heading :: a.display.map String.toList

/-- A listing is its lines with line feeds between them. -/
theorem toList_listing (a : Automaton) :
    a.listing.toList = ['\n'].intercalate a.listingLines := by
  rw [listing, String.toList_intercalate]
  rfl

/-- The automaton of the lines of a listing. -/
def ofListing (lines : List (List Char)) : Automaton :=
  ofTransitions (lines.tail.map Transition.ofLine)

/-- **An expression's automaton is read from its listing**, with its size and its final state. -/
theorem ofListing_listingLines (e : Expr) : ofListing e.automaton.listingLines = e.automaton := by
  have hread : e.automaton.display.map (fun line => Transition.ofLine line.toList) =
      e.automaton.transitions := by
    rw [display, List.map_map]
    exact (List.map_congr_left fun t _ => t.ofLine_line).trans (List.map_id _)
  rw [ofListing, listingLines, List.tail_cons, List.map_map]
  show ofTransitions (e.automaton.display.map fun line => Transition.ofLine line.toList) = _
  rw [hread, ofTransitions_automaton]

/-- The lines behind the heading are those of the transitions. -/
theorem mem_map_display {a : Automaton} {l : List Char} :
    l ∈ a.display.map String.toList ↔ ∃ t ∈ a.transitions, t.line.toList = l := by
  simp [display]

/-- No line of a listing but the first is the heading. -/
theorem heading_not_mem_display (a : Automaton) : heading ∉ a.display.map String.toList := by
  intro hmem
  obtain ⟨t, -, ht⟩ := mem_map_display.mp hmem
  rw [t.toList_line] at ht
  exact absurd (List.cons.inj ht).1 (by decide)

end Automaton

end RegexCompiler
