import RegexCompiler.Proofs.Automaton.Language
import RegexCompiler.Proofs.Store

/-!
# The languages of what is constructed

The constructions take any well-formed automata, also ones that no expression has: their symbols may
be any texts, transitions may lead back to the initial state and on from the final one.  What is
made of them is well-formed again, and its language is the repetition, the union or the
concatenation of theirs.

Only the concatenation asks for more.  It joins the last state of its first part to the initial
state of its second part, so the first part has to end there; and a path must not come back through
the joint, so nothing leaves it in the first part or nothing enters it in the second one.
-/

namespace RegexCompiler

namespace StoreM

/-- Whether a program over `s` ends with the handle of a live automaton `c`. -/
def Makes (program : StoreM Handle) (s : Store) (c : Automaton) : Prop :=
  ∃ h s', program.runOn s = (.ok h, s') ∧ s'.live? h = some c

variable {s : Store} {h k : Handle} {a b c : Automaton}
  {make : Automaton → Automaton → Except Fault Automaton}

/-- Repetition makes what is computed from its live part. -/
theorem makes_star (hh : s.live? h = some a) (hmake : a.star = .ok c) : (star h).Makes s c := by
  refine ⟨_, _, ?_, Store.live?_insert_self (s.put h .consumed) c⟩
  rw [runOn_star_of_live hh, hmake]
  rfl

/-- Combining two different live parts makes what is computed from them. -/
theorem makes_combine (hh : s.live? h = some a) (hk : s.live? k = some b) (hne : h ≠ k)
    (hmake : make a b = .ok c) : (combine make h k).Makes s c := by
  refine ⟨_, _, ?_, Store.live?_insert_self ((s.put h .consumed).put k .consumed) c⟩
  rw [runOn_combine_of_live hh hne hk, hmake]
  rfl

end StoreM

open StoreM (makes_star makes_combine)

/-- **The languages of constructions** over any well-formed automata, each owned by a handle of its
own. -/
theorem construction_languages {s : Store} {h : Handle} {a : Automaton}
    (hh : s.live? h = some a) (ha : a.WellFormed) :
    (∃ c, (StoreM.star h).Makes s c ∧ c.WellFormed ∧ c.language = KStar.kstar a.language) ∧
    ∀ (k : Handle) (b : Automaton), s.live? k = some b → h ≠ k → b.WellFormed →
      (∃ c, (StoreM.union h k).Makes s c ∧ c.WellFormed ∧
        c.language = a.language + b.language) ∧
      (a.final = some (a.size - 1) →
        (∀ t ∈ a.transitions, a.final ≠ some t.source) ∨ (∀ t ∈ b.transitions, t.target ≠ 0) →
        ∃ c, (StoreM.concat h k).Makes s c ∧ c.WellFormed ∧
          c.language = a.language * b.language) := by
  obtain ⟨f, hf, -⟩ := ha.final_isState
  refine ⟨?_, ?_⟩
  · exact ⟨a.starOf f, makes_star hh (Automaton.star_eq_ok hf), Automaton.wellFormed_starOf ha hf,
      Automaton.language_starOf ha hf⟩
  intro k b hk hne hb
  obtain ⟨g, hg, -⟩ := hb.final_isState
  refine ⟨?_, ?_⟩
  · exact ⟨a.unionOf b f g, makes_combine hh hk hne (Automaton.union_eq_ok hf hg),
      Automaton.wellFormed_unionOf ha hb hf hg, Automaton.language_unionOf ha hb hf hg⟩
  · intro hlast hside
    have hjoint : a.NoExit ∨ b.NoEntry := by
      rcases hside with hexit | hentry
      · refine .inl ?_
        intro t ht hsource
        exact hexit t ht (by rw [hlast, hsource])
      · exact .inr hentry
    exact ⟨a.concatOf b g, makes_combine hh hk hne (Automaton.concat_eq_ok hg),
      Automaton.wellFormed_concatOf ha hb hg, Automaton.language_concatOf ha hb hlast hg hjoint⟩

/-- A first part that can be left from its end, and a second one with transitions around its end. -/
theorem construction_languages_loops :
    let a : Automaton := { size := 1, transitions := [⟨0, "ab", 0⟩], final := some 0 }
    let b : Automaton :=
      { size := 3, final := some 1,
        transitions := [⟨0, "E", 2⟩, ⟨1, "", 1⟩, ⟨2, "b", 1⟩, ⟨1, "E", 1⟩] }
    let s : Store := { cells := #[.live a, .live b] }
    ∃ c, (StoreM.concat ⟨0⟩ ⟨1⟩).Makes s c ∧ c.WellFormed ∧
      c.language = a.language * b.language := by
  intro a b s
  have ha : a.WellFormed := .of_ends (f := 0) rfl (by decide) (by decide)
  have hb : b.WellFormed := .of_ends (f := 1) rfl (by decide) (by decide)
  have hboth := construction_languages (s := s) (h := ⟨0⟩) rfl ha
  exact (hboth.2 ⟨1⟩ b rfl (by decide) hb).2 rfl (.inr (by decide))

end RegexCompiler
