import RegexCompiler.Error
import RegexCompiler.Proofs.Text.Digits
import RegexCompiler.Text.Blank

/-!
# Printable texts

A text is printable if each of its characters is.  It then holds no control character, and no blank
but the space, so no separator of lines, of paragraphs or of words (`eq_space_of_isBlank`).

Numbers are printable, and so is a quoted text, whatever it quotes (`isShown_quote`): a character
that is not printable is named by its code point there.  What is told about a refusal shows a
character of the refused text in its quoted form only, so it is printable too
(`RegexError.isShown_text`).
-/

namespace RegexCompiler.Text

/-! ## What is not printable -/

/-- The characters of a hidden range are not printable. -/
theorem not_isPrintable_of_mem {r : Nat × Nat} (hr : r ∈ hiddenRanges) {c : Char}
    (hfirst : r.1 ≤ c.toNat) (hlast : c.toNat ≤ r.2) : isPrintable c = false := by
  have hstart : ∀ r ∈ hiddenRanges, 0x7F ≤ r.1 := by decide +kernel
  have hlow : ¬ c.toNat < 0x7F := Nat.not_lt.mpr (Nat.le_trans (hstart r hr) hfirst)
  rw [isPrintable, if_neg hlow, Bool.not_eq_false', List.any_eq_true]
  exact ⟨r, hr, by simp [hfirst, hlast]⟩

/-- The control characters: those of ASCII, and those behind it up to U+009F. -/
def isControl (c : Char) : Bool := c.toNat < 0x20 || 0x7F ≤ c.toNat && c.toNat ≤ 0x9F

/-- No printable character is a control character. -/
theorem not_isControl_of_isPrintable {c : Char} (hc : isPrintable c = true) :
    isControl c = false := by
  apply Bool.eq_false_iff.mpr
  intro hcontrol
  simp only [isControl, Bool.or_eq_true, Bool.and_eq_true, decide_eq_true_eq] at hcontrol
  rcases hcontrol with hlow | ⟨hfirst, hlast⟩
  · rw [isPrintable_of_lt (by omega), decide_eq_true_eq] at hc
    omega
  · have hmem : (0x7F, 0xA0) ∈ hiddenRanges := by decide +kernel
    have hhidden := not_isPrintable_of_mem hmem hfirst (Nat.le_trans hlast (by decide))
    rw [hc] at hhidden
    cases hhidden

/-- **The only printable blank is the space.** -/
theorem eq_space_of_isBlank {c : Char} (hc : isPrintable c = true) (hblank : isBlank c = true) :
    c = ' ' := by
  have hranges : ∀ b ∈ blankRanges, b.2 ≤ 0x20 ∨
      ∃ r ∈ hiddenRanges, r.1 ≤ b.1 ∧ b.2 ≤ r.2 := by decide +kernel
  obtain ⟨b, hb, hin⟩ := List.any_eq_true.mp hblank
  simp only [Bool.and_eq_true, decide_eq_true_eq] at hin
  rcases hranges b hb with hlow | ⟨r, hr, hfirst, hlast⟩
  · rw [isPrintable_of_lt (by omega), decide_eq_true_eq] at hc
    have hspace : c.toNat = ' '.toNat := by
      show c.toNat = 0x20
      omega
    exact Char.toNat_inj.mp hspace
  · have hhidden := not_isPrintable_of_mem hr (by omega) (Nat.le_trans hin.2 hlast)
    rw [hc] at hhidden
    cases hhidden

/-! ## Printable texts -/

/-- Whether every character of a text is printable. -/
def IsShown (cs : List Char) : Prop := ∀ c ∈ cs, isPrintable c = true

instance (cs : List Char) : Decidable (IsShown cs) :=
  List.decidableBAll (fun c => isPrintable c = true) cs

namespace IsShown

variable {c : Char} {xs ys : List Char}

/-- Two shown texts make a shown one. -/
theorem append (hxs : IsShown xs) (hys : IsShown ys) : IsShown (xs ++ ys) :=
  List.forall_mem_append.mpr ⟨hxs, hys⟩

/-- A printable character can be put before a shown text. -/
theorem cons (hc : isPrintable c = true) (hxs : IsShown xs) : IsShown (c :: xs) :=
  List.forall_mem_cons.mpr ⟨hc, hxs⟩

/-- A printable character on its own is shown. -/
theorem single (hc : isPrintable c = true) : IsShown [c] := List.forall_mem_singleton.mpr hc

end IsShown

/-! ## Numbers -/

/-- Digits are printable. -/
theorem isPrintable_of_isDigit {c : Char} (hc : c.isDigit = true) : isPrintable c = true := by
  obtain ⟨hzero, hnine⟩ := Char.isDigit_iff_toNat.mp hc
  rw [isPrintable_of_lt (Nat.lt_of_le_of_lt hnine (by decide))]
  exact decide_eq_true (Nat.le_trans (by decide) hzero)

/-- A natural number is shown. -/
theorem isShown_toDigits (n : Nat) : IsShown (Nat.toDigits 10 n) := by
  intro c hc
  exact isPrintable_of_isDigit (isDigit_of_mem_toDigits hc)

/-- An integer is shown. -/
theorem isShown_decimal (n : Int) : IsShown (decimal n) := by
  cases n with
  | ofNat n => exact isShown_toDigits n
  | negSucc n => exact .cons rfl (isShown_toDigits (n + 1))

/-- Hexadecimal digits are shown. -/
theorem isShown_hex (width n : Nat) : IsShown (hex width n) := by
  have hdigits : ∀ d < 16, isPrintable (Nat.digitChar d) = true := by decide
  induction width generalizing n with
  | zero => exact fun _ hc => absurd hc List.not_mem_nil
  | succ width ih => exact (ih (n / 16)).append (.single (hdigits _ (Nat.mod_lt n (by decide))))

/-! ## Quoted texts -/

/-- The escape of a code is shown. -/
theorem isShown_escapeCode (n : Nat) : IsShown (escapeCode n) := by
  unfold escapeCode
  split
  · exact .cons rfl (.cons rfl (isShown_hex 2 n))
  split
  · exact .cons rfl (.cons rfl (isShown_hex 4 n))
  · exact .cons rfl (.cons rfl (isShown_hex 8 n))

/-- **The escape of any character is shown**, whether it is printable or not. -/
theorem isShown_escape {mark : Char} (hmark : isPrintable mark = true) (c : Char) :
    IsShown (escape mark c) := by
  unfold escape
  split
  · next hself =>
    refine .cons rfl (.single ?_)
    rcases hself with rfl | rfl
    · rfl
    · exact hmark
  split
  · exact .cons rfl (.single rfl)
  split
  · exact .cons rfl (.single rfl)
  split
  · exact .cons rfl (.single rfl)
  split
  · next hprintable => exact .single hprintable
  · exact isShown_escapeCode c.toNat

/-- **A quoted text is printable**, whatever is quoted. -/
theorem isShown_quote (s : String) : IsShown (quote s).toList := by
  have hmark : isPrintable (quoteMark s.toList) = true := by
    unfold quoteMark
    split <;> rfl
  rw [quote, String.toList_ofList, quoteChars]
  refine (IsShown.cons hmark ?_).append (.single hmark)
  intro c hc
  obtain ⟨d, -, hd⟩ := List.mem_flatMap.mp hc
  exact isShown_escape hmark d c hd

end RegexCompiler.Text

/-! ## Refusals -/

namespace RegexCompiler

open Text (IsShown)

/-- The message of any error is shown. -/
theorem RegexError.isShown_message (e : RegexError) : IsShown e.message.toList := by
  cases e with
  | foreignCharacter c i =>
      rw [message.eq_def]
      dsimp only
      rw [String.toList_append]
      exact IsShown.append (by decide +kernel) (Text.isShown_quote _)
  | unclosed count i =>
      rw [message.eq_def]
      dsimp only
      rw [String.toList_append, Text.ofNat, String.toList_ofList]
      exact (Text.isShown_toDigits count).append (by decide +kernel)
  | emptyText | extraClosing _ | nothingToRepeat _ | missingLeft _ | emptyGroup _ | danglingEnd _ =>
      rw [message.eq_def]
      dsimp only
      decide +kernel

/-- **What is told about a refusal is printable.** -/
theorem RegexError.isShown_text (e : RegexError) : IsShown e.text.toList := by
  have hmessage := e.isShown_message
  rw [text, report, Report.text]
  cases e.position? with
  | none => exact hmessage
  | some i =>
      have hplace : IsShown (Text.ofInt i).toList := by
        rw [Text.toList_ofInt]
        exact Text.isShown_decimal i
      simp only [Option.map_some, String.toList_append]
      exact ((hmessage.append (by decide +kernel)).append hplace).append (by decide +kernel)

end RegexCompiler
