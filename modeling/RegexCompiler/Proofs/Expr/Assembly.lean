import RegexCompiler.Expr.Assembly
import RegexCompiler.Expr.Language
import RegexCompiler.Proofs.Automaton.Block

/-!
# The automata of expressions

Every expression has an automaton, which is a block and accepts the language of the expression
(`exists_assemble`).
-/

namespace RegexCompiler

namespace Automaton

/-- A symbol's automaton accepts what its one transition spells. -/
theorem mem_language_literal_iff {s : String} {w : List String} :
    w ∈ (literal s).language ↔ w = (Transition.mk 0 s 1).word := by
  rw [mem_language_iff (a := literal s) (f := 1) rfl]
  constructor
  · intro h
    rcases h.first with ⟨hstay, -⟩ | ⟨t, ht, -, v, rfl, htail⟩
    · cases hstay
    · obtain rfl := List.mem_singleton.mp ht
      have hdead : ∀ t ∈ (literal s).transitions, t.source ≠ 1 := by
        intro t ht
        obtain rfl := List.mem_singleton.mp ht
        exact Int.zero_ne_one
      obtain ⟨-, rfl⟩ := htail.of_no_exit hdead
      exact List.append_nil _
  · rintro rfl
    have hstep := Path.cons (a := literal s) (List.mem_singleton_self _) (.nil 1)
    rwa [List.append_nil] at hstep

/-- **The language of a symbol's automaton.** -/
theorem language_literal (s : String) : (literal s).language = Expr.symbolLanguage s := by
  ext w
  rw [mem_language_literal_iff, Transition.word, Expr.symbolLanguage]
  by_cases hs : s = epsilon
  · rw [if_pos hs, if_pos hs, Language.mem_one]
  · rw [if_neg hs, if_neg hs]
    exact Iff.rfl

end Automaton

namespace Expr

/-- **Every expression has an automaton**: a block that accepts its language. -/
theorem exists_assemble (e : Expr) :
    ∃ a, e.assemble = .ok a ∧ a.Block ∧ a.language = e.language := by
  induction e with
  | literal s => exact ⟨.literal s, rfl, Automaton.block_literal s, Automaton.language_literal s⟩
  | star e ih =>
      obtain ⟨a, ha, hblock, hlanguage⟩ := ih
      refine ⟨_, ?_, hblock.starOf, ?_⟩
      · rw [assemble, ha]
        exact Automaton.star_eq_ok hblock.final_eq
      · rw [Automaton.language_starOf hblock.wellFormed hblock.final_eq, hlanguage, language]
  | concat l r ihl ihr =>
      obtain ⟨a, ha, hleft, hla⟩ := ihl
      obtain ⟨b, hb, hright, hlb⟩ := ihr
      refine ⟨_, ?_, hleft.concatOf hright, ?_⟩
      · rw [assemble, ha, hb]
        exact Automaton.concat_eq_ok hright.final_eq
      · rw [Automaton.language_concatOf hleft.wellFormed hright.wellFormed hleft.final_eq
          hright.final_eq (.inl hleft.noExit), hla, hlb, language]
  | union l r ihl ihr =>
      obtain ⟨a, ha, hleft, hla⟩ := ihl
      obtain ⟨b, hb, hright, hlb⟩ := ihr
      refine ⟨_, ?_, hleft.unionOf hright, ?_⟩
      · rw [assemble, ha, hb]
        exact Automaton.union_eq_ok hleft.final_eq hright.final_eq
      · rw [Automaton.language_unionOf hleft.wellFormed hright.wellFormed hleft.final_eq
          hright.final_eq, hla, hlb, language]

end Expr

end RegexCompiler
