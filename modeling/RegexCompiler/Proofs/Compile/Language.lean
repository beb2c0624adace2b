import RegexCompiler.Proofs.Compile.Basic

/-!
# The language of a text

The grammar gives every text that it derives a language of words over the letters `a` to `z`
(`Denotes`): no expression and no automaton is needed to say which.

The main statement, `compile_accepts_language`, joins the two ends of the library: a text compiles
just where the grammar gives it a language, and the paths of its automaton from the initial state
to the final one spell exactly the words of that language.
-/

namespace RegexCompiler

/-- **The language of a text.**  `Denotes level text l` says that `text` may be read at `level` as
the language `l`. -/
inductive Denotes : Level → List Char → Language Char → Prop where
  /-- A chain is a union. -/
  | single {r : List Char} {l : Language Char} : Denotes .chain r l → Denotes .union r l
  /-- `|` unites. -/
  | alternative {r s : List Char} {l m : Language Char} :
      Denotes .union r l → Denotes .chain s m → Denotes .union (r ++ '|' :: s) (l + m)
  /-- An item is a chain. -/
  | link {r : List Char} {l : Language Char} : Denotes .item r l → Denotes .chain r l
  /-- Juxtaposition concatenates. -/
  | next {r s : List Char} {l m : Language Char} :
      Denotes .chain r l → Denotes .item s m → Denotes .chain (r ++ s) (l * m)
  /-- A letter denotes itself. -/
  | letter {c : Char} : Alphabet.isLetter c = true → Denotes .item [c] {[c]}
  /-- `E` denotes the empty word. -/
  | empty : Denotes .item ['E'] 1
  /-- Parentheses group. -/
  | group {r : List Char} {l : Language Char} :
      Denotes .union r l → Denotes .item ('(' :: r ++ [')']) l
  /-- `*` repeats. -/
  | star {r : List Char} {l : Language Char} :
      Denotes .item r l → Denotes .item (r ++ ['*']) (KStar.kstar l)

/-- A symbol is a letter or epsilon, and not both. -/
theorem Alphabet.isSymbol_cases {c : Char} (h : isSymbol c = true) :
    (isLetter c = true ∧ c ≠ 'E') ∨ c = 'E' := by
  by_cases hE : c = 'E'
  · exact .inr hE
  · exact .inl ⟨by simpa [isSymbol, hE] using h, hE⟩

/-- No letter is epsilon. -/
theorem Alphabet.ne_of_isLetter {c : Char} (h : isLetter c = true) : c ≠ 'E' := by
  rintro rfl
  exact absurd h (by decide)

/-- Different characters are different symbols. -/
theorem singleton_injective : Function.Injective String.singleton :=
  fun _ _ => String.singleton_inj.mp

/-- Only `E` makes the mark of the empty word. -/
theorem singleton_eq_epsilon_iff {c : Char} : String.singleton c = epsilon ↔ c = 'E' :=
  singleton_injective.eq_iff (a := c) (b := 'E')

/-- What the grammar reads as an expression it reads as a language. -/
theorem exists_denotes_of_derives {level : Level} {cs : List Char} {e : Expr}
    (h : Derives level cs e) : ∃ l, Denotes level cs l := by
  induction h with
  | single _ ih =>
      obtain ⟨l, hl⟩ := ih
      exact ⟨l, .single hl⟩
  | alternative _ _ ihl ihe =>
      obtain ⟨l, hl⟩ := ihl
      obtain ⟨m, hm⟩ := ihe
      exact ⟨l + m, .alternative hl hm⟩
  | link _ ih =>
      obtain ⟨l, hl⟩ := ih
      exact ⟨l, .link hl⟩
  | next _ _ ihl ihe =>
      obtain ⟨l, hl⟩ := ihl
      obtain ⟨m, hm⟩ := ihe
      exact ⟨l * m, .next hl hm⟩
  | symbol hc =>
      rcases Alphabet.isSymbol_cases hc with ⟨hletter, -⟩ | rfl
      · exact ⟨_, .letter hletter⟩
      · exact ⟨1, .empty⟩
  | group _ ih =>
      obtain ⟨l, hl⟩ := ih
      exact ⟨l, .group hl⟩
  | star _ ih =>
      obtain ⟨l, hl⟩ := ih
      exact ⟨KStar.kstar l, .star hl⟩

/-- **The two readings agree.**  A text that has a language has an expression, and the language of
the expression is the same, its letters written as texts. -/
theorem exists_derives_of_denotes {level : Level} {cs : List Char} {l : Language Char}
    (h : Denotes level cs l) :
    ∃ e, Derives level cs e ∧ e.language = Language.map String.singleton l := by
  -- the two readings have the same rules, but for a single symbol
  induction h with
  | single _ ih =>
      obtain ⟨e, he, hl⟩ := ih
      exact ⟨e, .single he, hl⟩
  | alternative _ _ ihl ihm =>
      obtain ⟨e, he, hl⟩ := ihl
      obtain ⟨d, hd, hm⟩ := ihm
      exact ⟨.union e d, .alternative he hd, by rw [Expr.language, hl, hm, map_add]⟩
  | link _ ih =>
      obtain ⟨e, he, hl⟩ := ih
      exact ⟨e, .link he, hl⟩
  | next _ _ ihl ihm =>
      obtain ⟨e, he, hl⟩ := ihl
      obtain ⟨d, hd, hm⟩ := ihm
      exact ⟨.concat e d, .next he hd, by rw [Expr.language, hl, hm, map_mul]⟩
  | @letter c hc =>
      refine ⟨_, .symbol (by simp [Alphabet.isSymbol, hc]), ?_⟩
      have hne : String.singleton c ≠ epsilon :=
        fun h => Alphabet.ne_of_isLetter hc (singleton_eq_epsilon_iff.mp h)
      rw [Expr.language, Expr.symbolLanguage, if_neg hne]
      exact (Set.image_singleton (f := List.map String.singleton) (a := [c])).symm
  | empty =>
      refine ⟨_, .symbol rfl, ?_⟩
      rw [Expr.language, Expr.symbolLanguage, if_pos (singleton_eq_epsilon_iff.mpr rfl), map_one]
  | group _ ih =>
      obtain ⟨e, he, hl⟩ := ih
      exact ⟨e, .group he, hl⟩
  | star _ ih =>
      obtain ⟨e, he, hl⟩ := ih
      exact ⟨.star e, .star he, by rw [Expr.language, hl, Language.map_kstar]⟩

/-- A word of characters is in a language just if it is in the language of symbols. -/
theorem map_singleton_mem_iff {l : Language Char} {w : List Char} :
    w.map String.singleton ∈ Language.map String.singleton l ↔ w ∈ l :=
  Function.Injective.mem_set_image (List.map_injective_iff.mpr singleton_injective)

/-- **From a text to its language.**  Compiling always has an outcome.  It is no refusal just where
the grammar gives the text a language; and then the words of the language are those that the
paths of the automaton spell, from the initial state to the final one. -/
theorem compile_accepts_language (regex : String) :
    ∃ c, Compilation.ofText regex = .ok c ∧
      (c.error = none ↔ ∃ l, Denotes .union regex.toList l) ∧
      ∀ l, Denotes .union regex.toList l → ∀ w : List Char,
        (∃ f, c.automaton.final = some f ∧
          c.automaton.Path Automaton.initial (w.map String.singleton) f) ↔ w ∈ l := by
  by_cases h : ∃ e, Derives .union regex.toList e
  · obtain ⟨e, he⟩ := h
    obtain ⟨a, hcompile, -, -, hlanguage⟩ := compile_of_derives he
    refine ⟨{ automaton := a }, Compilation.ofText_of_compile_eq_ok hcompile, ?_, ?_⟩
    · exact ⟨fun _ => exists_denotes_of_derives he, fun _ => rfl⟩
    · intro l hl w
      obtain ⟨e', he', hl'⟩ := exists_derives_of_denotes hl
      show w.map String.singleton ∈ a.language ↔ w ∈ l
      rw [hlanguage, he.unique he', hl', map_singleton_mem_iff]
  · obtain ⟨error, hcompile⟩ := compile_of_not_derives h
    have hnone : ¬ ∃ l, Denotes .union regex.toList l := by
      rintro ⟨l, hl⟩
      obtain ⟨e, he, -⟩ := exists_derives_of_denotes hl
      exact h ⟨e, he⟩
    refine ⟨{ automaton := .empty, error := some error },
      Compilation.ofText_of_compile_eq_error hcompile, ?_, ?_⟩
    · simp [hnone]
    · intro l hl
      exact absurd ⟨l, hl⟩ hnone

/-- The text `(a|b)*E` has a language, so its automaton accepts just the words of `a` and `b`. -/
theorem compile_accepts_language_group :
    Denotes .union "(a|b)*E".toList (KStar.kstar ({['a']} + {['b']}) * 1) ∧
    ∃ c, Compilation.ofText "(a|b)*E" = .ok c ∧ c.error = none ∧
      ∀ w : List Char, (∃ f, c.automaton.final = some f ∧
        c.automaton.Path Automaton.initial (w.map String.singleton) f) ↔
          w ∈ KStar.kstar ({['a']} + {['b']} : Language Char) * 1 := by
  have hunion : Denotes .union (['a'] ++ '|' :: ['b']) ({['a']} + {['b']}) :=
    .alternative (.single (.link (.letter rfl))) (.link (.letter rfl))
  have hdenotes : Denotes .union "(a|b)*E".toList (KStar.kstar ({['a']} + {['b']}) * 1) :=
    .single (.next (.link (.star (.group hunion))) .empty)
  obtain ⟨c, hc, hok, hlanguage⟩ := compile_accepts_language "(a|b)*E"
  exact ⟨hdenotes, c, hc, hok.mpr ⟨_, hdenotes⟩, hlanguage _ hdenotes⟩

end RegexCompiler
