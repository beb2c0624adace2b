import RegexCompiler.Proofs.Text.Quoted
import RegexCompiler.Workspace.Basic

/-!
# What a description tells

A description shows each of its parts up to where the part ends: numbers end at a comma or a
parenthesis, a symbol stands in quotes, and the transitions end at the bracket that none of them
starts with.  So a transition (`Transition.delimits_describe`) and an automaton
(`Automaton.delimits_describe`) can be read from their descriptions, whatever texts the symbols are,
those that look like parts of a description among them.

No automaton is described as a consumed one, so the descriptions of what is in two stores are the
same just if the same is live there (`description_tells`).
-/

namespace RegexCompiler

open Text (Delimits)

/-! ## Transitions -/

namespace Transition

/-- The description of a transition, taken apart: commas stand between its fields, and only the
symbol is quoted. -/
theorem toList_describe (t : Transition) :
    t.describe.toList = "Transition(state_from=".toList ++ (Text.decimal t.source ++
      ',' :: (" symbol=".toList ++ ((Text.quote t.symbol).toList ++ (", state_to=".toList ++
        (Text.decimal t.target ++ [')']))))) := by
  have hsymbol : ", symbol=".toList = ',' :: " symbol=".toList := rfl
  have hend : ")".toList = [')'] := rfl
  unfold describe
  simp only [String.toList_append, Text.toList_ofInt, List.append_assoc, hsymbol, hend,
    List.cons_append]

/-- **The description of a transition shows where it ends.** -/
theorem delimits_describe : Delimits fun t : Transition => t.describe.toList := by
  intro t u xs ys h
  simp only [toList_describe, List.append_assoc, List.cons_append, List.nil_append] at h
  obtain ⟨hsource, h1⟩ := Text.decimal_append_inj rfl (by decide) (List.append_cancel_left h)
  obtain ⟨hsymbol, h2⟩ := Text.delimits_quote _ _ _ _ (List.append_cancel_left h1)
  obtain ⟨htarget, h3⟩ := Text.decimal_append_inj rfl (by decide) (List.append_cancel_left h2)
  cases t
  cases u
  simp only at hsource hsymbol htarget
  subst hsource hsymbol htarget
  exact ⟨rfl, h3⟩

/-- No description of a transition starts with a bracket. -/
theorem describe_append_ne (t : Transition) (xs ys : List Char) :
    t.describe.toList ++ xs ≠ ']' :: ys := by
  rw [toList_describe]
  intro h
  exact absurd (List.cons.inj h).1 (by decide)

end Transition

/-! ## Automata -/

namespace Automaton

/-- No comma stands in the description of a final state, so the next one ends it. -/
theorem not_mem_describeFinal (f : Option Int) : ',' ∉ (describeFinal f).toList := by
  cases f with
  | none => decide +kernel
  | some n =>
      rw [describeFinal, Text.toList_ofInt]
      exact Text.not_mem_decimal rfl (by decide) n

/-- **The description of a final state tells whether there is one, and which.** -/
theorem describeFinal_injective : Function.Injective describeFinal := by
  have hnone : ∀ n, describeFinal none ≠ describeFinal (some n) := by
    intro n heq
    -- no number holds a letter
    have hletter : 'N' ∉ Text.decimal n := Text.not_mem_decimal rfl (by decide) n
    rw [← String.toList_inj, describeFinal, describeFinal, Text.toList_ofInt] at heq
    have hmem : 'N' ∈ "None".toList := List.mem_cons_self
    exact hletter (heq ▸ hmem)
  intro f g h
  cases f with
  | none =>
      cases g with
      | none => rfl
      | some n => exact absurd h (hnone n)
  | some m =>
      cases g with
      | none => exact absurd h.symm (hnone m)
      | some n => rw [Text.decimal_injective (String.ofList_inj.mp h)]

/-- The description of an automaton, taken apart in the same way. -/
theorem toList_describe (a : Automaton) :
    a.describe.toList = "Automaton(states=".toList ++ (Text.decimal a.size ++
      ',' :: (" final=".toList ++ ((describeFinal a.final).toList ++
        ',' :: (" transitions=[".toList ++
          ([',', ' '].intercalate (a.transitions.map (·.describe.toList)) ++ [']', ')']))))) := by
  have hfinal : ", final=".toList = ',' :: " final=".toList := rfl
  have htransitions : ", transitions=[".toList = ',' :: " transitions=[".toList := rfl
  have hseparator : ", ".toList = [',', ' '] := rfl
  have hend : "])".toList = [']', ')'] := rfl
  have hmap : (a.transitions.map Transition.describe).map String.toList =
      a.transitions.map (·.describe.toList) := List.map_map
  unfold describe
  simp only [String.toList_append, Text.toList_ofInt, List.append_assoc,
    String.toList_intercalate, hmap, hfinal, htransitions, hseparator, hend, List.cons_append]

/-- **The description of an automaton shows where it ends.** -/
theorem delimits_describe : Delimits fun a : Automaton => a.describe.toList := by
  have hitems := Transition.delimits_describe.intercalate Transition.describe_append_ne
    (d := ',') (by decide) [' ']
  intro a b xs ys h
  simp only [toList_describe, List.append_assoc, List.cons_append, List.nil_append] at h
  obtain ⟨hsize, h1⟩ := Text.decimal_append_inj rfl (by decide) (List.append_cancel_left h)
  obtain ⟨hfinal, h2⟩ := Text.append_cons_inj (not_mem_describeFinal a.final)
    (not_mem_describeFinal b.final) (List.append_cancel_left h1)
  obtain ⟨htransitions, h3⟩ := hitems a.transitions b.transitions (')' :: xs) (')' :: ys) (by
    simpa using List.append_cancel_left h2)
  have hrest : xs = ys := (List.cons.inj h3).2
  have hfinals := describeFinal_injective (String.toList_inj.mp hfinal)
  cases a
  cases b
  simp only at hsize hfinals htransitions
  subst hsize hfinals htransitions
  exact ⟨rfl, hrest⟩

/-- Automata with the same description are the same. -/
theorem describe_inj {a b : Automaton} : a.describe = b.describe ↔ a = b := by
  constructor
  · intro h
    exact delimits_describe.injective (congrArg String.toList h)
  · intro h
    rw [h]

end Automaton

/-! ## Cells -/

/-- **No automaton is described as a consumed one.** -/
theorem Cell.describe_live_ne (a : Automaton) :
    (Cell.live a).describe ≠ Cell.consumed.describe := by
  have hlive : "Automaton(states=".toList = "Automaton(".toList ++ 's' :: "tates=".toList := rfl
  have hconsumed : "Automaton(<consumed>)".toList =
      "Automaton(".toList ++ '<' :: "consumed>)".toList := rfl
  intro h
  rw [← String.toList_inj, Cell.describe, Cell.describe, a.toList_describe, hlive, hconsumed,
    List.append_assoc] at h
  exact absurd (List.cons.inj (List.append_cancel_left h)).1 (by decide)

/-- A place is described by what is live there. -/
theorem Store.describe_eq (s : Store) (h : Handle) :
    s.describe h = ((s.live? h).elim Cell.consumed Cell.live).describe := by
  unfold Store.describe Store.live?
  cases s.cells[h.index]? with
  | none => rfl
  | some c => cases c <;> rfl

/-- Descriptions of what handles stand for are the same just if the automata are, or if both are
consumed. -/
theorem Store.describe_eq_iff {s t : Store} {h k : Handle} :
    s.describe h = t.describe k ↔ s.live? h = t.live? k := by
  rw [s.describe_eq, t.describe_eq]
  cases s.live? h with
  | none =>
      cases t.live? k with
      | none => exact iff_of_true rfl rfl
      | some b => exact iff_of_false (Cell.describe_live_ne b).symm (Option.some_ne_none b).symm
  | some a =>
      cases t.live? k with
      | none => exact iff_of_false (Cell.describe_live_ne a) (Option.some_ne_none a)
      | some b => exact Automaton.describe_inj.trans Option.some_inj.symm

/-- **A description tells its automaton.**  Two automata, whatever integers their states and
whatever texts their symbols are, are described alike just if size, final state and transitions in
order are the same.  No automaton is described as a consumed one, so the descriptions of two places
of stores are the same just if the same automaton is live there, or none. -/
theorem description_tells :
    (∀ a b : Automaton, a.describe = b.describe ↔
      a.size = b.size ∧ a.final = b.final ∧ a.transitions = b.transitions) ∧
    (∀ a : Automaton, (Cell.live a).describe ≠ Cell.consumed.describe) ∧
    ∀ (s t : Store) (h k : Handle), s.describe h = t.describe k ↔ s.live? h = t.live? k := by
  refine ⟨?_, Cell.describe_live_ne, fun _ _ _ _ => Store.describe_eq_iff⟩
  intro a b
  rw [Automaton.describe_inj]
  constructor
  · intro h
    exact h ▸ ⟨rfl, rfl, rfl⟩
  · intro ⟨hsize, hfinal, htransitions⟩
    cases a
    cases b
    simp only at hsize hfinal htransitions
    subst hsize hfinal htransitions
    rfl

/-- A symbol may look like the end of one transition and the start of another. -/
example : (Automaton.literal "', state_to=1), Transition(").describe =
    "Automaton(states=2, final=1, transitions=[Transition(state_from=0, " ++
      "symbol=\"', state_to=1), Transition(\", state_to=1)])" := by decide +kernel

end RegexCompiler
