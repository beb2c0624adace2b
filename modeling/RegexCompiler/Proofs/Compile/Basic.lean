import RegexCompiler.Proofs.Expr.Automaton
import RegexCompiler.Proofs.Scan.Grammar

/-!
# How a compilation ends

A text goes through the alphabet, the scan and the walk.  The walk never fails, and the scan fails
by a refusal only, so a compilation ends with the automaton of the expression that was read
(`compile_of_derives`) or with a refusal (`compile_of_not_derives`), and never because the library
left its own discipline.
-/

namespace RegexCompiler

/-- The grammar derives no empty text, and none with a foreign character. -/
theorem Derives.written {level : Level} {cs : List Char} {e : Expr} (h : Derives level cs e) :
    cs ≠ [] ∧ ∀ c ∈ cs, Alphabet.isForeign c = false := by
  induction h with
  | single _ ih => exact ih
  | alternative _ _ ihl ihe =>
      refine ⟨by simp, List.forall_mem_append.mpr ⟨ihl.2, ?_⟩⟩
      exact List.forall_mem_cons.mpr ⟨rfl, ihe.2⟩
  | link _ ih => exact ih
  | next _ _ ihl ihe =>
      exact ⟨by simp [ihl.1], List.forall_mem_append.mpr ⟨ihl.2, ihe.2⟩⟩
  | symbol hc => simpa using Alphabet.not_isForeign_of_isSymbol hc
  | group _ ih =>
      refine ⟨by simp, List.forall_mem_append.mpr ⟨?_, ?_⟩⟩
      · exact List.forall_mem_cons.mpr ⟨rfl, ih.2⟩
      · exact List.forall_mem_singleton.mpr rfl
  | star _ ih =>
      refine ⟨by simp, List.forall_mem_append.mpr ⟨ih.2, ?_⟩⟩
      exact List.forall_mem_singleton.mpr rfl

/-- A compilation is three steps, each of which may end it. -/
theorem compile_eq_bind (regex : String) :
    compile regex = (Alphabet.check regex.toList).mapError .refused >>= fun _ =>
      Expr.parse regex.toList >>= fun e => e.build.mapError .broken := rfl

/-- A text that the alphabet refuses is refused, whatever its structure is. -/
theorem compile_of_check_eq_error {regex : String} {error : RegexError}
    (h : Alphabet.check regex.toList = .error error) : compile regex = .error (.refused error) := by
  rw [compile_eq_bind, h]
  rfl

/-- A text that passes the alphabet ends as its reading does. -/
theorem compile_of_check_eq_ok {regex : String} (h : Alphabet.check regex.toList = .ok ()) :
    compile regex = (Reading.read regex.toList).mapError Failure.refused >>= fun e =>
      e.build.mapError Failure.broken := by
  rw [compile_eq_bind, h, Reading.parse_eq_read]
  rfl

/-- **A text of the grammar** is compiled to the automaton of its expression. -/
theorem compile_of_derives {regex : String} {e : Expr} (h : Derives .union regex.toList e) :
    ∃ a, compile regex = .ok a ∧ e.build = .ok a ∧ a.Block ∧ a.language = e.language := by
  obtain ⟨a, hbuild, hblock, hlanguage⟩ := e.exists_build
  refine ⟨a, ?_, hbuild, hblock, hlanguage⟩
  rw [compile_of_check_eq_ok (Alphabet.check_eq_ok_iff.mpr h.written), Reading.read_of_derives h]
  show e.build.mapError Failure.broken = _
  rw [hbuild]
  rfl

/-- **Any other text** is refused. -/
theorem compile_of_not_derives {regex : String} (h : ¬ ∃ e, Derives .union regex.toList e) :
    ∃ error, compile regex = .error (.refused error) := by
  cases hcheck : Alphabet.check regex.toList with
  | error error => exact ⟨error, compile_of_check_eq_error hcheck⟩
  | ok _ =>
      have hforeign := (Alphabet.check_eq_ok_iff.mp hcheck).2
      cases hread : Reading.read regex.toList with
      | error error =>
          refine ⟨error, ?_⟩
          rw [compile_of_check_eq_ok hcheck, hread]
          rfl
      | ok e => exact absurd ⟨e, Reading.derives_of_read hforeign hread⟩ h

/-! ## Why a text is refused -/

/-- Whether a text is refused for its structure. -/
def RegexError.IsStructural (error : RegexError) : Prop :=
  error.kind = .unbalancedParentheses ∨ error.kind = .stackImbalance

namespace Reading

variable {r : Reading} {error : RegexError}

/-- A character of the alphabet is refused for the structure only. -/
theorem isStructural_of_step {i : Nat} {c : Char} (h : r.step i c = .error error) :
    error.IsStructural := by
  unfold step at h
  split at h
  · cases h
  · cases h
  · cases h
  · split at h <;> cases h
    exact .inr rfl
  · split at h <;> cases h
    exact .inr rfl
  · split at h <;> cases h
    · exact .inl rfl
    · exact .inr rfl

/-- So is a run of them. -/
theorem isStructural_of_advance {i : Nat} {cs : List Char} (h : r.advance i cs = .error error) :
    error.IsStructural := by
  obtain ⟨_, _, _, _, _, _, hrefused⟩ := exists_step_of_advance_eq_error h
  exact isStructural_of_step hrefused

/-- The end of a text is refused for the structure only. -/
theorem isStructural_of_finish {length : Nat} (h : r.finish length = .error error) :
    error.IsStructural := by
  unfold finish at h
  split at h <;> cases h
  · exact .inl rfl
  · exact .inr rfl

/-- Reading a text finds fault with its structure only. -/
theorem isStructural_of_read {cs : List Char} (h : read cs = .error error) :
    error.IsStructural := by
  unfold read at h
  cases hadvance : advance {} 0 cs with
  | error e =>
      rw [hadvance] at h
      cases h
      exact isStructural_of_advance hadvance
  | ok r =>
      rw [hadvance] at h
      exact isStructural_of_finish h

end Reading

/-- What the alphabet refuses is invalid input. -/
theorem Alphabet.kind_of_check {cs : List Char} {error : RegexError}
    (h : check cs = .error error) : error.kind = .invalidInput := by
  unfold check at h
  split at h
  · cases h
    rfl
  · split at h <;> cases h
    rfl

/-- **Why a text is refused**: for its characters, or else as the scan decides, for its
structure. -/
theorem cause_of_compile_eq_error {regex : String} {error : RegexError}
    (h : compile regex = .error (.refused error)) :
    (¬ (regex.toList ≠ [] ∧ ∀ c ∈ regex.toList, Alphabet.isForeign c = false) ∧
      error.kind = .invalidInput) ∨
    ((regex.toList ≠ [] ∧ ∀ c ∈ regex.toList, Alphabet.isForeign c = false) ∧
      Expr.parse regex.toList = .error (.refused error) ∧ error.IsStructural) := by
  cases hcheck : Alphabet.check regex.toList with
  | error e =>
      obtain rfl : e = error := by
        rw [compile_of_check_eq_error hcheck] at h
        cases h
        rfl
      refine .inl ⟨fun hwritten => ?_, Alphabet.kind_of_check hcheck⟩
      rw [Alphabet.check_eq_ok_iff.mpr hwritten] at hcheck
      cases hcheck
  | ok _ =>
      have hwritten := Alphabet.check_eq_ok_iff.mp hcheck
      rw [compile_of_check_eq_ok hcheck] at h
      cases hread : Reading.read regex.toList with
      | error e =>
          obtain rfl : e = error := by
            rw [hread] at h
            cases h
            rfl
          refine .inr ⟨hwritten, ?_, Reading.isStructural_of_read hread⟩
          rw [Reading.parse_eq_read, hread]
          rfl
      | ok e =>
          -- what was read is built, so the text is not refused
          obtain ⟨a, hbuild, -⟩ := e.exists_build
          rw [hread] at h
          change e.build.mapError Failure.broken = _ at h
          rw [hbuild] at h
          cases h

/-- What a text is compiled to is what its expression builds. -/
theorem exists_parse_of_compile_eq_ok {regex : String} {a : Automaton}
    (h : compile regex = .ok a) : ∃ e, Expr.parse regex.toList = .ok e ∧ e.build = .ok a := by
  by_cases hderives : ∃ e, Derives .union regex.toList e
  · obtain ⟨e, he⟩ := hderives
    obtain ⟨b, hcompile, hbuild, -, -⟩ := compile_of_derives he
    obtain rfl : b = a := Except.ok.inj (hcompile.symm.trans h)
    exact ⟨e, parse_of_derives he, hbuild⟩
  · obtain ⟨error, herror⟩ := compile_of_not_derives hderives
    rw [h] at herror
    cases herror

namespace Compilation

/-- A text that compiles leaves its automaton and no error. -/
theorem ofText_of_compile_eq_ok {regex : String} {a : Automaton} (h : compile regex = .ok a) :
    ofText regex = .ok { automaton := a } := by
  simp [ofText, h]

/-- A text that is refused leaves the error and the empty automaton. -/
theorem ofText_of_compile_eq_error {regex : String} {error : RegexError}
    (h : compile regex = .error (.refused error)) :
    ofText regex = .ok { automaton := .empty, error := some error } := by
  simp [ofText, h]

/-- **Every text is compiled or refused.** -/
theorem exists_ofText (regex : String) : ∃ c, ofText regex = .ok c := by
  by_cases h : ∃ e, Derives .union regex.toList e
  · obtain ⟨e, he⟩ := h
    obtain ⟨a, ha, -⟩ := compile_of_derives he
    exact ⟨_, ofText_of_compile_eq_ok ha⟩
  · obtain ⟨error, herror⟩ := compile_of_not_derives h
    exact ⟨_, ofText_of_compile_eq_error herror⟩

/-- What is not refused is the automaton of the expression that the grammar derives. -/
theorem exists_ofText_and_derives (regex : String) :
    ∃ c, ofText regex = .ok c ∧
      (c.error = none → ∃ e, Derives .union regex.toList e ∧ c.automaton = e.automaton) := by
  by_cases h : ∃ e, Derives .union regex.toList e
  · obtain ⟨e, he⟩ := h
    obtain ⟨a, hcompile, hbuild, -⟩ := compile_of_derives he
    obtain rfl := Except.ok.inj (e.build_eq_ok.symm.trans hbuild)
    exact ⟨_, ofText_of_compile_eq_ok hcompile, fun _ => ⟨e, he, rfl⟩⟩
  · obtain ⟨error, herror⟩ := compile_of_not_derives h
    refine ⟨_, ofText_of_compile_eq_error herror, ?_⟩
    intro hnone
    cases hnone

end Compilation

end RegexCompiler
