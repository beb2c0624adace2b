import RegexCompiler.Compile

/-!
# What the table of characters says

`Token.ofChar?` read backwards: a token is the meaning of one character only (`Token.char`), and
that character is a symbol or one of the four signs.  From it, where a text is stopped by a
foreign character: `check` lets a text pass that has none and is not empty.
-/

namespace RegexCompiler

namespace Token

/-- How a token is written. -/
def char : Token → Char
  | symbol c => c
  | opening => '('
  | closing => ')'
  | star => '*'
  | bar => '|'

/-- A character has one token at most, and the token shows the character. -/
theorem char_eq_of_ofChar? {c : Char} {t : Token} (h : ofChar? c = some t) : t.char = c := by
  unfold ofChar? at h
  grind [char]

/-- The token of a symbol stands for a letter or for epsilon only. -/
theorem isSymbol_of_ofChar? {c d : Char} (h : ofChar? c = some (.symbol d)) :
    Alphabet.isSymbol d = true := by
  unfold ofChar? at h
  grind

/-- Letters and epsilon are read as symbols. -/
theorem ofChar?_of_isSymbol {c : Char} (h : Alphabet.isSymbol c = true) :
    ofChar? c = some (.symbol c) := by
  rw [ofChar?, if_pos h]

end Token

namespace Alphabet

/-- Every character that is not foreign has a token. -/
theorem exists_token_of_not_isForeign {c : Char} (h : isForeign c = false) :
    ∃ t, Token.ofChar? c = some t :=
  Option.isSome_iff_exists.mp (by simpa [isForeign] using h)

/-- Symbols are not foreign. -/
theorem not_isForeign_of_isSymbol {c : Char} (h : isSymbol c = true) : isForeign c = false := by
  rw [isForeign, Token.ofChar?_of_isSymbol h]
  rfl

/-- No foreign character is found just if there is none. -/
theorem foreign?_eq_none_iff {cs : List Char} :
    foreign? cs = none ↔ ∀ c ∈ cs, isForeign c = false := by
  rw [foreign?, List.find?_eq_none]
  constructor
  · intro h c hc
    rw [← List.zipIdx_map_fst 0 cs] at hc
    obtain ⟨p, hp, rfl⟩ := List.mem_map.mp hc
    simpa using h p hp
  · intro h p hp
    have hc : p.1 ∈ cs := by
      rw [← List.zipIdx_map_fst 0 cs]
      exact List.mem_map_of_mem hp
    simp [h p.1 hc]

/-- **What may be read.**  A text passes if it is not empty and holds no foreign character. -/
theorem check_eq_ok_iff {cs : List Char} :
    check cs = .ok () ↔ cs ≠ [] ∧ ∀ c ∈ cs, isForeign c = false := by
  rw [← foreign?_eq_none_iff]
  unfold check
  cases cs with
  | nil => simp
  | cons c cs =>
      cases h : foreign? (c :: cs) with
      | none => simp
      | some p => simp

end Alphabet

end RegexCompiler
