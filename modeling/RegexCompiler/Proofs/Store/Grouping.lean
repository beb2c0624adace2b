import RegexCompiler.Proofs.Expr.Regroup
import RegexCompiler.Proofs.Store.Language

/-!
# Three automata and two groupings

Three automata are concatenated in two ways, the first two before the third (`concatLeft`) or the
last two before the first (`concatRight`).  Sizes and ends are any integers here, and final states
may be missing.

Where both ways end they end with one and the same automaton, not only with automata of the same
language (`Automaton.concatOf_assoc`).  They need not end together: a concatenation reads the final
state of its second part only, so the middle one is needed by the grouping that makes it a second
part, and not by the other.

The automaton with one state and nothing else (`Automaton.point`) is the unit of concatenation on
the left; on the right it moves the final state to the end.
-/

namespace RegexCompiler

namespace Automaton

/-- **The automaton with one state**, which is initial and final. -/
def point : Automaton := { size := 1, final := some 0 }

variable {a b : Automaton} {g : Int}

/-- The point is a left identity of concatenation. -/
theorem point_concatOf (hg : b.final = some g) : point.concatOf b g = b := by
  cases b with
  | mk size transitions final =>
      obtain rfl : final = some g := hg
      show Automaton.mk (1 + size - 1) (shifted ⟨size, transitions, some g⟩ 0) (some (g + 0)) = _
      rw [shifted_zero, Automaton.mk.injEq]
      exact ⟨by omega, rfl, by rw [Int.add_zero]⟩

/-- On the right, the point only makes the last state the final one. -/
theorem concatOf_point (a : Automaton) :
    a.concatOf point 0 = { a with final := some (a.size - 1) } := by
  show Automaton.mk (a.size + 1 - 1) (a.transitions ++ []) (some (0 + (a.size - 1))) = _
  rw [List.append_nil, Automaton.mk.injEq]
  exact ⟨by omega, rfl, by rw [Int.zero_add]⟩

/-- Setting the final state changes nothing just where it is that one already. -/
theorem withFinal_eq_self_iff (f : Int) : { a with final := some f } = a ↔ a.final = some f := by
  constructor
  · intro h
    exact (congrArg Automaton.final h).symm
  · intro h
    cases a
    cases h
    rfl

end Automaton

namespace StoreM

/-- Whether a program over `s` fails with `fault`. -/
def Fails (program : StoreM Handle) (s : Store) (fault : Fault) : Prop :=
  (program.runOn s).1 = .error fault

/-- Concatenates the first two of three parts, and then the third one to them. -/
def concatLeft (h k j : Handle) : StoreM Handle := do
  concat (← concat h k) j

/-- Concatenates the last two of three parts, and then them to the first one. -/
def concatRight (h k j : Handle) : StoreM Handle := do
  concat h (← concat k j)

variable {s s' : Store} {h k i : Handle} {a b c : Automaton} {fault : Fault}
  {make : Automaton → Automaton → Except Fault Automaton} {p : StoreM Handle}
  {q : Handle → StoreM Handle}

/-- What a program makes depends on what its second part makes of the first one's handle. -/
theorem makes_bind (hp : p.runOn s = (.ok i, s')) (hq : (q i).Makes s' c) :
    (p >>= q).Makes s c := by
  obtain ⟨j, s'', hrun, hlive⟩ := hq
  refine ⟨j, s'', ?_, hlive⟩
  rw [runOn_bind, hp]
  exact hrun

/-- A program whose first part ends well fails as its second part does. -/
theorem fails_bind (hp : p.runOn s = (.ok i, s')) (hq : (q i).Fails s' fault) :
    (p >>= q).Fails s fault := by
  rw [Fails, runOn_bind, hp]
  exact hq

/-- A program whose first part fails does so with the same fault. -/
theorem Fails.bind (hp : p.Fails s fault) : (p >>= q).Fails s fault := by
  rw [Fails, runOn_bind]
  cases hrun : p.runOn s with
  | mk r s' =>
      obtain rfl : r = .error fault := by rw [← hp, hrun]
      rfl

/-- A construction over two live parts fails as its computation does. -/
theorem fails_combine (hh : s.live? h = some a) (hk : s.live? k = some b) (hne : h ≠ k)
    (hmake : make a b = .error fault) : (combine make h k).Fails s fault := by
  rw [Fails, runOn_combine_of_live hh hne hk, hmake]
  rfl

/-- **A construction that ends well leaves the other cells alone**, and its own cell is none of
them. -/
theorem exists_runOn_combine (hh : s.live? h = some a) (hk : s.live? k = some b) (hne : h ≠ k)
    (hmake : make a b = .ok c) :
    ∃ i s', (combine make h k).runOn s = (.ok i, s') ∧ s'.live? i = some c ∧
      ∀ l x, s.live? l = some x → h ≠ l → k ≠ l → l ≠ i ∧ s'.live? l = some x := by
  have hrun : (combine make h k).runOn s = ((s.put h .consumed).put k .consumed).place (.ok c) := by
    rw [runOn_combine_of_live hh hne hk, hmake]
  refine ⟨_, _, hrun, Store.live?_insert_self _ c, ?_⟩
  intro l x hl hhl hkl
  have hlt := Store.lt_size_of_live? hl
  refine ⟨?_, ?_⟩
  · rintro rfl
    simp at hlt
  · rw [Store.live?_insert_of_lt (by simpa using hlt), Store.live?_put_of_ne _ hkl,
      Store.live?_put_of_ne _ hhl, hl]

section

variable {j : Handle} {f g : Int} (hh : s.live? h = some a) (hk : s.live? k = some b)
  (hj : s.live? j = some c) (hhk : h ≠ k) (hhj : h ≠ j) (hkj : k ≠ j)

include hh hk hj hhk hhj hkj

/-- The first two grouped, if the second and the third have final states. -/
theorem makes_concatLeft (hg : b.final = some g) (hf : c.final = some f) :
    (concatLeft h k j).Makes s ((a.concatOf b g).concatOf c f) := by
  obtain ⟨i, s', hrun, hlive, hothers⟩ :=
    exists_runOn_combine hh hk hhk (Automaton.concat_eq_ok hg)
  obtain ⟨hi, hj'⟩ := hothers j c hj hhj hkj
  exact makes_bind hrun (makes_combine hlive hj' hi.symm (Automaton.concat_eq_ok hf))

/-- Grouped to the right, only the last final state is needed: that of the two last parts together
is set. -/
theorem makes_concatRight (hf : c.final = some f) :
    (concatRight h k j).Makes s (a.concatOf (b.concatOf c f) (f + (b.size - 1))) := by
  obtain ⟨i, s', hrun, hlive, hothers⟩ :=
    exists_runOn_combine hk hj hkj (Automaton.concat_eq_ok hf)
  obtain ⟨hi, hh'⟩ := hothers h a hh hhk.symm hhj.symm
  exact makes_bind hrun (makes_combine hh' hlive hi (Automaton.concat_eq_ok rfl))

/-- The first two grouped fail if the second or the third has no final state. -/
theorem fails_concatLeft (hunset : b.final = none ∨ c.final = none) :
    (concatLeft h k j).Fails s .finalUnset := by
  cases hb : b.final with
  | none => exact (fails_combine hh hk hhk (Automaton.concat_eq_error_iff.mpr hb)).bind
  | some g =>
      have hc : c.final = none := hunset.resolve_left (by simp [hb])
      obtain ⟨i, s', hrun, hlive, hothers⟩ :=
        exists_runOn_combine hh hk hhk (Automaton.concat_eq_ok hb)
      obtain ⟨hi, hj'⟩ := hothers j c hj hhj hkj
      exact fails_bind hrun
        (fails_combine hlive hj' hi.symm (Automaton.concat_eq_error_iff.mpr hc))

end

/-- The last two grouped fail at once if the third has no final state. -/
theorem fails_concatRight {j : Handle} (hk : s.live? k = some b) (hj : s.live? j = some c)
    (hkj : k ≠ j) (hc : c.final = none) : (concatRight h k j).Fails s .finalUnset :=
  (fails_combine hk hj hkj (Automaton.concat_eq_error_iff.mpr hc)).bind

end StoreM

/-- **Concatenation is a monoid operation on automata**, whatever their sizes, transitions and final
states are, apart from the final states that it does not read. -/
theorem concat_groupings {s : Store} {h k j : Handle} {a b c : Automaton}
    (hh : s.live? h = some a) (hk : s.live? k = some b) (hj : s.live? j = some c)
    (hhk : h ≠ k) (hhj : h ≠ j) (hkj : k ≠ j) :
    (b.final ≠ none → c.final ≠ none →
      ∃ d, (StoreM.concatLeft h k j).Makes s d ∧ (StoreM.concatRight h k j).Makes s d) ∧
    (c.final = none → (StoreM.concatLeft h k j).Fails s .finalUnset ∧
      (StoreM.concatRight h k j).Fails s .finalUnset) ∧
    (b.final = none → c.final ≠ none → (StoreM.concatLeft h k j).Fails s .finalUnset ∧
      ∃ d, (StoreM.concatRight h k j).Makes s d) ∧
    ∀ u, s.live? u = some .point →
      (u ≠ k → b.final ≠ none → (StoreM.concat u k).Makes s b) ∧
      (h ≠ u → ∃ d, (StoreM.concat h u).Makes s d ∧ d.size = a.size ∧
        d.transitions = a.transitions ∧ d.final = some (a.size - 1) ∧
        (d = a ↔ a.final = some (a.size - 1))) := by
  have hleft := @StoreM.fails_concatLeft s h k a b c j hh hk hj hhk hhj hkj
  refine ⟨?_, ?_, ?_, ?_⟩
  · intro hb hc
    obtain ⟨g, hg⟩ := Option.ne_none_iff_exists'.mp hb
    obtain ⟨f, hf⟩ := Option.ne_none_iff_exists'.mp hc
    have hright := StoreM.makes_concatRight hh hk hj hhk hhj hkj hf
    rw [← Automaton.concatOf_assoc a b c g f] at hright
    exact ⟨_, StoreM.makes_concatLeft hh hk hj hhk hhj hkj hg hf, hright⟩
  · intro hc
    exact ⟨hleft (.inr hc), StoreM.fails_concatRight hk hj hkj hc⟩
  · intro hb hc
    obtain ⟨f, hf⟩ := Option.ne_none_iff_exists'.mp hc
    exact ⟨hleft (.inl hb), _, StoreM.makes_concatRight hh hk hj hhk hhj hkj hf⟩
  · intro u hu
    refine ⟨?_, ?_⟩
    · intro huk hb
      obtain ⟨g, hg⟩ := Option.ne_none_iff_exists'.mp hb
      refine StoreM.makes_combine hu hk huk ?_
      rw [Automaton.concat_eq_ok hg, Automaton.point_concatOf hg]
    · intro hhu
      refine ⟨a.concatOf .point 0, StoreM.makes_combine hh hu hhu (Automaton.concat_eq_ok rfl), ?_⟩
      rw [Automaton.concatOf_point]
      exact ⟨rfl, rfl, rfl, Automaton.withFinal_eq_self_iff _⟩

/-- Three automata without positive sizes, the first of which has no final state. -/
theorem concat_groupings_negative :
    let a : Automaton := { size := -3, transitions := [⟨7, "ab", -2⟩] }
    let b : Automaton := { size := 0, transitions := [⟨0, "E", 5⟩], final := some (-4) }
    let c : Automaton := { size := -1, transitions := [⟨-6, "", 1⟩], final := some 9 }
    let s : Store := { cells := #[.live a, .live b, .live c] }
    ∃ d, (StoreM.concatLeft ⟨0⟩ ⟨1⟩ ⟨2⟩).Makes s d ∧
      (StoreM.concatRight ⟨0⟩ ⟨1⟩ ⟨2⟩).Makes s d := by
  intro a b c s
  exact (concat_groupings (s := s) (h := ⟨0⟩) (k := ⟨1⟩) (j := ⟨2⟩) (a := a) (b := b) (c := c)
    rfl rfl rfl (by decide) (by decide) (by decide)).1 (by decide) (by decide)

end RegexCompiler
