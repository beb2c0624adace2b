import RegexCompiler.Log
import RegexCompiler.Proofs.Compile.Basic
import RegexCompiler.Proofs.Text.Printable
import RegexCompiler.Proofs.Text.Quoted

/-!
# What the log tells

Every text that is compiled leaves one record.  A record is printable, and so one line, whatever the
text: the text stands in it in its quoted form, and what is told about a refusal is printable.

A record cannot be taken for another one's.  Its first word says what became of the text, and behind
it stands the quoted text, which shows where it ends; so the record tells the text
(`eq_of_text_record_eq`), and a list of records the list of texts (`records_tell_texts`).
-/

namespace RegexCompiler

open Text (IsShown isBlank isControl isPrintable)

namespace LogRecord

/-- The record of an acceptance holds printable characters only. -/
theorem isShown_compiled (regex : String) (a : Automaton) :
    IsShown (compiled regex a).text.toList := by
  simp only [compiled, String.toList_append, Text.toList_ofInt, Text.ofNat, String.toList_ofList]
  have hsize := Text.isShown_decimal a.size
  have hcount := Text.isShown_toDigits a.transitions.length
  have hquote := Text.isShown_quote regex
  refine .append (.append (.append (.append (.append (.append ?_ hquote) ?_) hsize) ?_) hcount) ?_
  all_goals decide +kernel

/-- So does the record of a refusal: the error quotes what it shows. -/
theorem isShown_rejected (regex : String) (error : RegexError) :
    IsShown (rejected regex error).text.toList := by
  simp only [rejected, String.toList_append]
  refine .append (.append (.append ?_ (Text.isShown_quote regex)) ?_) error.isShown_text
  all_goals decide +kernel

end LogRecord

namespace Compilation

variable {c d : Compilation} {regex : String}

/-- The word that a record starts with. -/
def openingWord (c : Compilation) : String :=
  if c.error.isNone then "compiled " else "rejected regex "

/-- What a record says behind its text. -/
def remark (c : Compilation) : String :=
  match c.error with
  | none => ": " ++ Text.ofInt c.automaton.size ++ " states, " ++
      Text.ofNat c.automaton.transitions.length ++ " transitions"
  | some error => ": " ++ error.text

/-- A record is an opening word, the text in quotation marks and a remark. -/
theorem text_record (c : Compilation) (regex : String) :
    (c.record regex).text = c.openingWord ++ (Text.quote regex ++ c.remark) := by
  unfold record openingWord remark
  cases c.error <;> simp [LogRecord.compiled, LogRecord.rejected, String.append_assoc]

/-- The first letter of a record says whether the text was accepted. -/
theorem head?_openingWord (c : Compilation) (xs : List Char) :
    (c.openingWord.toList ++ xs).head? = some (if c.error.isNone then 'c' else 'r') := by
  unfold openingWord
  split <;> rfl

/-- **A record tells its text**, even if nothing is known of what became of it. -/
theorem eq_of_text_record_eq {x y : String} (h : (c.record x).text = (d.record y).text) :
    x = y := by
  rw [text_record, text_record, ← String.toList_inj] at h
  simp only [String.toList_append] at h
  have hhead := congrArg List.head? h
  rw [head?_openingWord, head?_openingWord, Option.some.injEq] at hhead
  have hword : c.openingWord = d.openingWord := by
    unfold openingWord
    cases hc : c.error.isNone <;> cases hd : d.error.isNone <;> simp [hc, hd] at hhead ⊢
  rw [hword] at h
  exact (Text.delimits_quote x y _ _ (List.append_cancel_left h)).1

/-- Every record holds printable characters only. -/
theorem isShown_text_record (c : Compilation) (regex : String) :
    IsShown (c.record regex).text.toList := by
  unfold record
  cases c.error with
  | none => exact LogRecord.isShown_compiled regex c.automaton
  | some error => exact LogRecord.isShown_rejected regex error

/-- The level of a record says what became of the text. -/
theorem level_record (h : ofText regex = .ok c) :
    (∃ a, compile regex = .ok a) ∧ (c.record regex).level = .debug ∨
      (∃ error, compile regex = .error (.refused error)) ∧ (c.record regex).level = .warning := by
  unfold ofText at h
  split at h
  · next a hcompile =>
    obtain rfl := Except.ok.inj h
    exact .inl ⟨⟨a, hcompile⟩, rfl⟩
  · next error hcompile =>
    obtain rfl := Except.ok.inj h
    exact .inr ⟨⟨error, hcompile⟩, rfl⟩
  · cases h

end Compilation

/-- **Records cannot be forged.**  Texts that are compiled one after the other leave one record
each, in their order, at the level that says whether the text was compiled or refused.  Records hold
printable characters only, so no control character and no separator but the space.  A record, and
even its text alone, tells which text was compiled, so the records of two lists of texts differ as
the lists do. -/
theorem records_tell_texts :
    ∃ record : String → LogRecord,
      (∀ regexes, LogRecord.ofTexts regexes = .ok (regexes.map record)) ∧
      (∀ regex,
        (∃ a, compile regex = .ok a) ∧ (record regex).level = .debug ∨
        (∃ error, compile regex = .error (.refused error)) ∧ (record regex).level = .warning) ∧
      (∀ regex, ∀ c ∈ (record regex).text.toList,
        isPrintable c = true ∧ isControl c = false ∧ (isBlank c = true → c = ' ')) ∧
      (∀ x y, (record x).text = (record y).text ↔ x = y) ∧
      ∀ xs ys, LogRecord.ofTexts xs = LogRecord.ofTexts ys ↔ xs = ys := by
  choose compilation hcompilation using Compilation.exists_ofText
  let record : String → LogRecord := fun regex => (compilation regex).record regex
  have hrecords : ∀ regexes, LogRecord.ofTexts regexes = .ok (regexes.map record) := by
    intro regexes
    have hone : (fun regex => do return (← Compilation.ofText regex).record regex) =
        fun regex => (pure (record regex) : Except Fault LogRecord) := by
      funext regex
      rw [hcompilation]
      rfl
    rw [LogRecord.ofTexts, hone, List.mapM_pure]
    rfl
  have htext : ∀ x y, (record x).text = (record y).text → x = y :=
    fun x y => Compilation.eq_of_text_record_eq
  have hinjective : Function.Injective record := fun x y h => htext x y (congrArg (·.text) h)
  refine ⟨record, hrecords, fun regex => Compilation.level_record (hcompilation regex), ?_, ?_, ?_⟩
  · intro regex c hc
    have hprintable := (compilation regex).isShown_text_record regex c hc
    exact ⟨hprintable, Text.not_isControl_of_isPrintable hprintable,
      Text.eq_space_of_isBlank hprintable⟩
  · intro x y
    exact ⟨htext x y, fun h => by rw [h]⟩
  · intro xs ys
    rw [hrecords, hrecords]
    constructor
    · intro h
      exact List.map_injective_iff.mpr hinjective (Except.ok.inj h)
    · intro h
      rw [h]

-- a quotation mark and a line feed do not end the text that is quoted
example : (LogRecord.rejected "'\n: 2" (.foreignCharacter '\'' 0)).text =
    "rejected regex \"'\\n: 2\": unexpected character \"'\" (at position 0)" := by decide +kernel

end RegexCompiler
