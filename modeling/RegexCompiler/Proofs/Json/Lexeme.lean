import RegexCompiler.Json.Reader
import RegexCompiler.Json.Writer
import RegexCompiler.Proofs.Text.Digits

/-!
# The lexemes of JSON are read as they are written

What is written of a text or of a whole number is read back, whatever stands behind it.  A text
ends at its own mark, so anything may follow; a number ends where nothing follows that it could go
on with (`Closes`).

A text is written in UTF-16 units, and read as units first: `units?_escapeChar` gives the units of a
character for its escape, and `ofUnits_flatMap_units` joins them to the character again.
-/

namespace RegexCompiler

/-! ## UTF-16 units -/

namespace Text

/-- A character is no half of a pair. -/
theorem not_half (c : Char) : isHighHalf c.toNat = false ∧ isLowHalf c.toNat = false := by
  have hvalid : c.toNat < 0xD800 ∨ 0xDFFF < c.toNat ∧ c.toNat < 0x110000 := c.valid
  simp only [isHighHalf, isLowHalf, Bool.and_eq_false_iff, decide_eq_false_iff_not]
  omega

/-- A character has no code of half a pair, so it is read from its own code. -/
theorem ofCode_toNat (c : Char) : ofCode c.toNat = c := by
  obtain ⟨hhigh, hlow⟩ := not_half c
  simp [ofCode, hhigh, hlow]

/-- A character that is one unit is joined with no unit behind it. -/
theorem ofUnits_toNat_cons (c : Char) (rest : List Nat) :
    ofUnits (c.toNat :: rest) = c :: ofUnits rest := by
  cases rest with
  | nil => rw [ofUnits.eq_2, ofCode_toNat, ofUnits]
  | cons m rest =>
      rw [ofUnits, (not_half c).1, Bool.false_and, if_neg Bool.false_ne_true, ofCode_toNat]

/-- Every unit is a number of two octets. -/
theorem lt_of_mem_units {c : Char} {n : Nat} (hn : n ∈ units c) : n < 0x10000 := by
  have hvalid : c.toNat < 0xD800 ∨ 0xDFFF < c.toNat ∧ c.toNat < 0x110000 := c.valid
  unfold units at hn
  split at hn
  · rw [List.mem_singleton] at hn
    omega
  · simp only [List.mem_cons, List.not_mem_nil, or_false] at hn
    omega

/-- The units of a character are joined to it again. -/
theorem ofUnits_units_append (c : Char) (rest : List Nat) :
    ofUnits (units c ++ rest) = c :: ofUnits rest := by
  have hvalid : c.toNat < 0xD800 ∨ 0xDFFF < c.toNat ∧ c.toNat < 0x110000 := c.valid
  by_cases hone : c.toNat < 0x10000
  · rw [units, if_pos hone]
    exact ofUnits_toNat_cons c rest
  · rw [units, if_neg hone]
    have hhigh : isHighHalf (0xD800 + (c.toNat - 0x10000) / 0x400) = true := by
      simp only [isHighHalf, Bool.and_eq_true, decide_eq_true_eq]
      omega
    have hlow : isLowHalf (0xDC00 + (c.toNat - 0x10000) % 0x400) = true := by
      simp only [isLowHalf, Bool.and_eq_true, decide_eq_true_eq]
      omega
    have hpair : ofPair (0xD800 + (c.toNat - 0x10000) / 0x400)
        (0xDC00 + (c.toNat - 0x10000) % 0x400) = c := by
      have hcode : 0x10000 + (0xD800 + (c.toNat - 0x10000) / 0x400 - 0xD800) * 0x400 +
          (0xDC00 + (c.toNat - 0x10000) % 0x400 - 0xDC00) = c.toNat := by omega
      rw [ofPair, hcode, Char.ofNat_toNat]
    simp only [List.cons_append, List.nil_append]
    rw [ofUnits, hhigh, hlow, Bool.and_self, if_pos rfl, hpair]

/-- **A text is read from its units.** -/
theorem ofUnits_flatMap_units (cs : List Char) : ofUnits (cs.flatMap units) = cs := by
  induction cs with
  | nil => rfl
  | cons c cs ih => rw [List.flatMap_cons, ofUnits_units_append, ih]

end Text

namespace Json

open Text (backslash doubleMark hex isDigit_of_mem_toDigits ofHex? ofUnits toDigits_eq_cons)

/-! ## Texts -/

/-- The four digits of an escape are read as the unit. -/
theorem units?_escapeUnit {n : Nat} (hn : n < 0x10000) (rest : List Char) :
    units? (escapeUnit n ++ rest) = (units? rest).map fun p => (n :: p.1, p.2) := by
  have hread : ofHex? (hex 4 n) = some n := Text.ofHex?_hex hn
  simp only [hex, List.nil_append, List.cons_append] at hread
  simp only [escapeUnit, hex, List.nil_append, List.cons_append]
  rw [units?]
  simp [backslash, doubleMark, hread]

/-- Units that are written as escapes are read back. -/
theorem units?_flatMap_escapeUnit {units : List Nat} (hunits : ∀ n ∈ units, n < 0x10000)
    (rest : List Char) :
    units? (units.flatMap escapeUnit ++ rest) =
      (units? rest).map fun p => (units ++ p.1, p.2) := by
  induction units with
  | nil => simp
  | cons n units ih =>
      obtain ⟨hn, hunits⟩ := List.forall_mem_cons.mp hunits
      rw [List.flatMap_cons, List.append_assoc, units?_escapeUnit hn, ih hunits, Option.map_map]
      rfl

/-- An escape of two characters is read as the character that its second one stands for. -/
theorem units?_backslash {c d : Char} (hc : unescape? c = some d) (hu : c ≠ 'u')
    (rest : List Char) :
    units? (backslash :: c :: rest) = (units? rest).map fun p => (d.toNat :: p.1, p.2) := by
  rw [units?]
  · simp [backslash, doubleMark, hc]
  · intro h1 h2 h3 h4 rest' hescape
    exact absurd hescape hu

/-- A character that needs no escape is read as itself. -/
theorem units?_cons {c : Char} (hmark : c ≠ doubleMark) (hslash : c ≠ backslash)
    (hprintable : 0x20 ≤ c.toNat) (rest : List Char) :
    units? (c :: rest) = (units? rest).map fun p => (c.toNat :: p.1, p.2) := by
  rw [units?.eq_def]
  dsimp only
  rw [if_neg hmark, if_neg (Nat.not_lt.mpr hprintable), if_pos hslash]

/-- The closing mark ends a text. -/
theorem units?_doubleMark (rest : List Char) : units? (doubleMark :: rest) = some ([], rest) := by
  rw [units?.eq_def]
  exact if_pos rfl

/-- What is written of a character is read as its units. -/
theorem units?_escapeChar (c : Char) (rest : List Char) :
    units? (escapeChar c ++ rest) = (units? rest).map fun p => (Text.units c ++ p.1, p.2) := by
  -- the cases are those of the definition, in its order
  unfold escapeChar
  split
  · next hself =>
    rcases hself with rfl | rfl
    · exact units?_backslash rfl (by decide) rest
    · exact units?_backslash rfl (by decide) rest
  split
  · next hc => exact hc ▸ units?_backslash rfl (by decide) rest
  split
  · next hc => exact hc ▸ units?_backslash rfl (by decide) rest
  split
  · next hc => exact hc ▸ units?_backslash rfl (by decide) rest
  split
  · next hc =>
    obtain rfl : c = '\x0c' := Char.toNat_inj.mp hc
    exact units?_backslash rfl (by decide) rest
  split
  · next hc =>
    obtain rfl : c = '\x08' := Char.toNat_inj.mp hc
    exact units?_backslash rfl (by decide) rest
  split
  · next hself _ _ _ _ _ hprintable =>
    rw [not_or] at hself
    have hunits : Text.units c = [c.toNat] := if_pos (by omega)
    rw [hunits]
    exact units?_cons hself.2 hself.1 hprintable.1 rest
  · exact units?_flatMap_escapeUnit (fun n hn => Text.lt_of_mem_units hn) rest

/-- **A text is read as it is written**, whatever follows it. -/
theorem string?_writeString (s : String) (rest : List Char) :
    string? (s.toList.flatMap escapeChar ++ doubleMark :: rest) = some (s, rest) := by
  have hunits : ∀ cs : List Char, units? (cs.flatMap escapeChar ++ doubleMark :: rest) =
      some (cs.flatMap Text.units, rest) := by
    intro cs
    induction cs with
    | nil =>
        rw [List.flatMap_nil, List.nil_append, units?_doubleMark, List.flatMap_nil]
    | cons c cs ih =>
        rw [List.flatMap_cons, List.append_assoc, units?_escapeChar, ih, List.flatMap_cons]
        rfl
  rw [string?, hunits, Option.map_some, Text.ofUnits_flatMap_units, String.ofList_toList]

/-! ## Whole numbers -/

/-- Nothing stands at the front that a whole number could go on with. -/
def Closes (rest : List Char) : Prop :=
  ∀ c ∈ rest.head?, c.isDigit = false ∧ c ≠ '.' ∧ c ≠ 'e' ∧ c ≠ 'E'

namespace Closes

variable {rest : List Char}

/-- The end of the text does not go on with a number. -/
theorem nil : Closes [] := by
  intro c hc
  cases hc

/-- A character that belongs to no number does not go on with one. -/
theorem cons {c : Char} (hc : c.isDigit = false ∧ c ≠ '.' ∧ c ≠ 'e' ∧ c ≠ 'E') :
    Closes (c :: rest) := by
  intro d hd
  cases hd
  exact hc

/-- No digits are read behind a number. -/
theorem takeWhile_eq_nil (h : Closes rest) : rest.takeWhile Char.isDigit = [] := by
  cases rest with
  | nil => rfl
  | cons c rest => simp [(h c rfl).1]

/-- Nothing is passed over behind a number. -/
theorem dropWhile_eq_self (h : Closes rest) : rest.dropWhile Char.isDigit = rest := by
  cases rest with
  | nil => rfl
  | cons c rest => simp [(h c rfl).1]

/-- No fraction is read behind a whole number. -/
theorem fraction_eq (h : Closes rest) : fraction rest = ([], rest) := by
  cases rest with
  | nil => rfl
  | cons c rest =>
      obtain ⟨-, hpoint, -⟩ := h c rfl
      unfold fraction
      split
      · next heq => exact absurd (List.cons.inj heq).1 hpoint
      · rfl

/-- No exponent is read behind a whole number. -/
theorem exponent_eq (h : Closes rest) : exponent rest = ([], rest) := by
  cases rest with
  | nil => rfl
  | cons c rest =>
      obtain ⟨-, -, hsmall, hcapital⟩ := h c rfl
      simp [exponent, hsmall, hcapital]

end Closes

/-- The digits of a number are read, and no others. -/
theorem wholeDigits?_toDigits (n : Nat) {rest : List Char} (hrest : Closes rest) :
    wholeDigits? (Nat.toDigits 10 n ++ rest) = some (Nat.toDigits 10 n, rest) := by
  by_cases hn : n = 0
  · subst hn
    rfl
  · obtain ⟨c, cs, hcs, -, hzero⟩ := toDigits_eq_cons n
    have hdigits : ∀ c ∈ Nat.toDigits 10 n, c.isDigit = true := fun _ => isDigit_of_mem_toDigits
    unfold wholeDigits?
    split
    · next rest' heq =>
      rw [hcs] at heq
      exact absurd (hzero (List.cons.inj heq).1) hn
    · rw [List.takeWhile_append_of_pos hdigits, List.dropWhile_append_of_pos hdigits,
        hrest.takeWhile_eq_nil, hrest.dropWhile_eq_self, List.append_nil]
      exact if_neg (by simp [Nat.toDigits_ne_nil])

/-- A whole number without its sign is read as it is written, if the limit allows its digits. -/
theorem unsigned?_toDigits {limit n : Nat} (hlimit : (Nat.toDigits 10 n).length ≤ limit)
    (negative : Bool) {rest : List Char} (hrest : Closes rest) :
    unsigned? limit negative (Nat.toDigits 10 n ++ rest) =
      some (.int (if negative then -n else n), rest) := by
  rw [unsigned?, wholeDigits?_toDigits n hrest]
  simp only [Option.bind_eq_bind, Option.bind_some, hrest.fraction_eq, hrest.exponent_eq,
    List.append_nil, ofDigits?, List.isEmpty_nil, if_true, if_neg (Nat.not_lt.mpr hlimit),
    Nat.ofDigitChars_ten_toDigits]
  rfl

/-- **A whole number is read as it is written**, where it closes. -/
theorem number?_decimal {limit : Nat} {n : Int}
    (hlimit : (Nat.toDigits 10 n.natAbs).length ≤ limit) {rest : List Char}
    (hrest : Closes rest) : number? limit (Text.decimal n ++ rest) = some (.int n, rest) := by
  cases n with
  | ofNat n =>
      obtain ⟨c, cs, hcs, hdigit, -⟩ := toDigits_eq_cons n
      have hread := unsigned?_toDigits (n := n) hlimit false hrest
      rw [Text.decimal, number?.eq_def]
      split
      · next heq =>
        rw [hcs] at heq
        obtain rfl : c = '-' := (List.cons.inj heq).1
        cases hdigit
      · exact hread
  | negSucc n => exact unsigned?_toDigits (n := n + 1) hlimit true hrest

/-- No word starts as a number does. -/
theorem word?_decimal (n : Int) (rest : List Char) : word? (Text.decimal n ++ rest) = none := by
  obtain ⟨c, cs, hdigit, hcs⟩ := Text.decimal_eq_cons n
  have hletters : c ≠ 'n' ∧ c ≠ 't' ∧ c ≠ 'f' ∧ c ≠ 'N' ∧ c ≠ 'I' ∧ c ≠ '-' := by
    refine ⟨?_, ?_, ?_, ?_, ?_, ?_⟩ <;> (rintro rfl; cases hdigit)
  obtain ⟨hn, ht, hf, hN, hI, hsign⟩ := hletters
  rcases hcs with hcs | hcs <;> rw [hcs] <;>
    simp [word?, words, dropWord?, Ne.symm hn, Ne.symm ht, Ne.symm hf, Ne.symm hN, Ne.symm hI,
      Ne.symm hsign]

end Json

end RegexCompiler
