import Mathlib.Algebra.Group.Nat.Defs
import RegexCompiler.Text.Decimal
import RegexCompiler.Text.Hex

/-!
# Digits

Numbers are read from their digits: hexadecimal ones of a fixed width (`ofHex?_hex`), and decimal
ones, which have no leading zeros (`toDigits_eq_cons`) and may have a sign (`toInt_decimal`).
-/

namespace RegexCompiler.Text

/-! ## Hexadecimal digits -/

/-- A hexadecimal digit is read back. -/
theorem hexDigit?_digitChar {d : Nat} (hd : d < 16) : hexDigit? (Nat.digitChar d) = some d := by
  have hall : ∀ d < 16, hexDigit? (Nat.digitChar d) = some d := by decide
  exact hall d hd

/-- Reading digits goes on from what was read before them. -/
theorem foldlM_hex (width n start : Nat) :
    (hex width n).foldlM (fun n c => (hexDigit? c).map (16 * n + ·)) start =
      some (16 ^ width * start + n % 16 ^ width) := by
  induction width generalizing n with
  | zero => simp [hex, Nat.mod_one]
  | succ width ih =>
      have hdigit := hexDigit?_digitChar (Nat.mod_lt n (show 0 < 16 by decide))
      have hsplit : n % 16 ^ (width + 1) = n % 16 + 16 * (n / 16 % 16 ^ width) := by
        rw [Nat.pow_succ', Nat.mod_mul]
      have hstart : 16 * (16 ^ width * start) = 16 ^ (width + 1) * start := by
        rw [Nat.pow_succ', Nat.mul_assoc]
      rw [hex, List.foldlM_append, ih]
      simp only [Option.bind_eq_bind, Option.bind_some, List.foldlM_cons, List.foldlM_nil, hdigit,
        Option.map_some, Option.pure_def]
      rw [hsplit, Nat.mul_add, hstart]
      congr 1
      omega

/-- A number that fits into the width is read back from its hexadecimal digits. -/
theorem ofHex?_hex {width n : Nat} (hn : n < 16 ^ width) : ofHex? (hex width n) = some n := by
  rw [ofHex?, foldlM_hex, Nat.mod_eq_of_lt hn, Nat.mul_zero, Nat.zero_add]

/-! ## Decimal digits -/

/-- A natural number is written in digits only. -/
theorem isDigit_of_mem_toDigits {n : Nat} {c : Char} (hc : c ∈ Nat.toDigits 10 n) :
    c.isDigit = true :=
  Nat.isDigit_of_mem_toDigits (by decide) (by decide) hc

/-- A number starts with a digit, and with a zero only if it is zero. -/
theorem toDigits_eq_cons (n : Nat) :
    ∃ c cs, Nat.toDigits 10 n = c :: cs ∧ c.isDigit = true ∧ (c = '0' → n = 0) := by
  induction n using Nat.strongRecOn with
  | ind n ih =>
      by_cases hn : n < 10
      · have hdigits : Nat.toDigits 10 n = [Nat.digitChar n] := Nat.toDigits_of_lt_base hn
        exact ⟨_, [], hdigits, isDigit_of_mem_toDigits (by rw [hdigits]; exact List.mem_cons_self),
          Nat.digitChar_eq_zero.mp⟩
      · obtain ⟨c, cs, hdigits, hdigit, hzero⟩ := ih (n / 10) (by omega)
        refine ⟨c, cs ++ [Nat.digitChar (n % 10)], ?_, hdigit, ?_⟩
        · rw [Nat.toDigits_of_base_le (by decide) (Nat.not_lt.mp hn), hdigits, List.cons_append]
        · intro hc
          have := hzero hc
          omega

/-- How a whole number starts: with a digit, perhaps behind a sign. -/
theorem decimal_eq_cons (n : Int) :
    ∃ c cs, c.isDigit = true ∧ (decimal n = c :: cs ∨ decimal n = '-' :: c :: cs) := by
  cases n with
  | ofNat n =>
      obtain ⟨c, cs, hcs, hdigit, -⟩ := toDigits_eq_cons n
      exact ⟨c, cs, hdigit, .inl hcs⟩
  | negSucc n =>
      obtain ⟨c, cs, hcs, hdigit, -⟩ := toDigits_eq_cons (n + 1)
      exact ⟨c, cs, hdigit, .inr (congrArg _ hcs)⟩

/-- The whole number that is written with these characters. -/
def toInt : List Char → Int
  | '-' :: digits => -(Nat.ofDigitChars 10 digits 0 : Int)
  | digits => Nat.ofDigitChars 10 digits 0

/-- An integer is read back from its decimal digits. -/
theorem toInt_decimal (n : Int) : toInt (decimal n) = n := by
  cases n with
  | ofNat n =>
      obtain ⟨c, cs, hcs, hdigit, -⟩ := toDigits_eq_cons n
      have hsign : ∀ digits, Nat.toDigits 10 n = '-' :: digits → False := by
        intro digits hdigits
        rw [hcs] at hdigits
        obtain rfl := (List.cons.inj hdigits).1
        cases hdigit
      rw [decimal, toInt.eq_2 _ hsign, Nat.ofDigitChars_ten_toDigits]
      rfl
  | negSucc n =>
      rw [decimal, toInt, Nat.ofDigitChars_ten_toDigits]
      rfl

/-- **Different integers are written differently.** -/
theorem decimal_injective : Function.Injective decimal := by
  intro m n h
  rw [← toInt_decimal m, h, toInt_decimal]

/-- The text of an integer is its sign and its digits. -/
theorem toList_ofInt (n : Int) : (ofInt n).toList = decimal n := String.toList_ofList

/-- No character but a digit and a sign is in a number. -/
theorem not_mem_decimal {c : Char} (hdigit : c.isDigit = false) (hsign : c ≠ '-') (n : Int) :
    c ∉ decimal n := by
  have hdigits : ∀ m, c ∉ Nat.toDigits 10 m := by
    intro m hc
    rw [isDigit_of_mem_toDigits hc] at hdigit
    cases hdigit
  cases n with
  | ofNat n => exact hdigits n
  | negSucc n => simpa [decimal, hsign] using hdigits (n + 1)

end RegexCompiler.Text
