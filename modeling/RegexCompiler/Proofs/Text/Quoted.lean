import RegexCompiler.Proofs.Text.Delimited
import RegexCompiler.Text.Quoted

/-!
# Quoted text is read as it was written

Between quotation marks a character is written as itself or as an escape, and either is read back
whatever stands behind it (`readChar?_escape`): the sign behind a backslash says how many digits
follow.  No character is written with the mark in front, so a quoted text ends at its mark
(`delimits_quote`).  It tells its text, although the mark depends on it.
-/

namespace RegexCompiler.Text

/-- Reads a character by the digits of its code point. -/
def readCode? (width : Nat) (cs : List Char) : Option (Char × List Char) :=
  (ofHex? (cs.take width)).map fun n => (Char.ofNat n, cs.drop width)

/-- Reads the character that stands for itself or for its escape at the front of quoted text. -/
def readChar? : List Char → Option (Char × List Char)
  | [] => none
  | c :: rest =>
    if c ≠ backslash then some (c, rest)
    else match rest with
      | 'n' :: rest => some ('\n', rest)
      | 'r' :: rest => some ('\r', rest)
      | 't' :: rest => some ('\t', rest)
      | 'x' :: rest => readCode? 2 rest
      | 'u' :: rest => readCode? 4 rest
      | 'U' :: rest => readCode? 8 rest
      | d :: rest => some (d, rest)
      | [] => none

/-- Hexadecimal digits fill their width. -/
theorem length_hex (width n : Nat) : (hex width n).length = width := by
  induction width generalizing n with
  | zero => rfl
  | succ width ih => simp [hex, ih]

/-- A character is read back from the hexadecimal digits of its code. -/
theorem readCode?_hex {width : Nat} {c : Char} (hc : c.toNat < 16 ^ width) (rest : List Char) :
    readCode? width (hex width c.toNat ++ rest) = some (c, rest) := by
  have hlength := length_hex width c.toNat
  have htake : (hex width c.toNat ++ rest).take width = hex width c.toNat := List.take_left' hlength
  have hdrop : (hex width c.toNat ++ rest).drop width = rest := List.drop_left' hlength
  rw [readCode?, htake, hdrop, ofHex?_hex hc, Option.map_some, Char.ofNat_toNat]

/-- A character other than the backslash stands for itself. -/
theorem readChar?_of_ne {c : Char} (hc : c ≠ backslash) (rest : List Char) :
    readChar? (c :: rest) = some (c, rest) := if_pos hc

/-- An escape by the code point is read as its character. -/
theorem readChar?_escapeCode (c : Char) (rest : List Char) :
    readChar? (escapeCode c.toNat ++ rest) = some (c, rest) := by
  have hvalid : c.toNat < 0xD800 ∨ 0xDFFF < c.toNat ∧ c.toNat < 0x110000 := c.valid
  unfold escapeCode
  split
  · next hlt => exact readCode?_hex hlt rest
  split
  · next hlt => exact readCode?_hex hlt rest
  · have hlt : c.toNat < 16 ^ 8 := by omega
    exact readCode?_hex hlt rest

/-- **A character is read as it was written.** -/
theorem readChar?_escape {mark : Char} (hmark : mark = singleMark ∨ mark = doubleMark) (c : Char)
    (rest : List Char) : readChar? (escape mark c ++ rest) = some (c, rest) := by
  unfold escape
  split
  · next hself =>
    -- neither the backslash nor a mark says how to read what follows
    rcases hself with rfl | rfl
    · rfl
    · rcases hmark with rfl | rfl <;> rfl
  next hself =>
  split
  · next hc => rw [hc]; rfl
  split
  · next hc => rw [hc]; rfl
  split
  · next hc => rw [hc]; rfl
  split
  · exact readChar?_of_ne (fun hc => hself (.inl hc)) rest
  · exact readChar?_escapeCode c rest

/-- A text is quoted with a single mark or with a double one. -/
theorem quoteMark_cases (cs : List Char) :
    quoteMark cs = singleMark ∨ quoteMark cs = doubleMark := by
  unfold quoteMark
  split
  · exact .inr rfl
  · exact .inl rfl

/-- **No character is written with the mark in front**, the mark itself included. -/
theorem escape_append_ne {mark : Char} (hmark : mark = singleMark ∨ mark = doubleMark) (c : Char)
    (xs ys : List Char) : escape mark c ++ xs ≠ mark :: ys := by
  have hslash : mark ≠ backslash := by rcases hmark with rfl | rfl <;> decide
  intro h
  have hread := readChar?_escape hmark c xs
  rw [h, readChar?_of_ne hslash] at hread
  obtain ⟨rfl, -⟩ := Prod.mk.inj (Option.some.inj hread)
  -- the mark is written behind a backslash
  rw [escape, if_pos (.inr rfl)] at h
  exact hslash (List.cons.inj h).1.symm

/-- Characters between marks show where they end. -/
theorem delimits_quoteChars : Delimits quoteChars := by
  intro cs ds xs ys h
  obtain ⟨hmark, hbody⟩ := List.cons.inj h
  rw [← hmark] at hbody
  have hmarks := quoteMark_cases cs
  have hescape : Delimits (escape (quoteMark cs)) := .of_read (readChar?_escape hmarks)
  exact hescape.flatMap (escape_append_ne hmarks) cs ds xs ys hbody

/-- **A quoted text shows where it ends**, whatever it quotes and whatever follows it. -/
theorem delimits_quote : Delimits fun s : String => (quote s).toList := by
  intro s t xs ys h
  simp only [quote, String.toList_ofList] at h
  obtain ⟨hchars, hrest⟩ := delimits_quoteChars _ _ _ _ h
  exact ⟨String.toList_inj.mp hchars, hrest⟩

end RegexCompiler.Text
