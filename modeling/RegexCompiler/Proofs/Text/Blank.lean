import Mathlib.Data.List.TakeWhile
import RegexCompiler.Proofs.Alphabet
import RegexCompiler.Text.Blank

/-!
# What trimming leaves

Trimming takes the blanks at both ends away, and nothing else: a text is what is left of it with
blanks around (`exists_blanks`), and blanks around a text do not matter (`trim_append`).  A text of
the alphabet holds no blank at all, so trimming leaves it alone.
-/

namespace RegexCompiler.Text

variable {cs ws vs : List Char}

/-- Whether a text consists of blanks. -/
def AreBlank (ws : List Char) : Prop := ∀ c ∈ ws, isBlank c = true

/-- Blanks behind blanks are blanks. -/
theorem AreBlank.append (hws : AreBlank ws) (hvs : AreBlank vs) : AreBlank (ws ++ vs) :=
  List.forall_mem_append.mpr ⟨hws, hvs⟩

/-- Blanks in reverse order are blanks. -/
theorem AreBlank.reverse (hws : AreBlank ws) : AreBlank ws.reverse :=
  fun c hc => hws c (List.mem_reverse.mp hc)

/-- Only blanks are trimmed to nothing. -/
theorem trimLeft_eq_nil_iff : trimLeft cs = [] ↔ AreBlank cs :=
  List.dropWhile_eq_nil_iff

/-- Blanks at the end stay where they are while those at the start are taken away. -/
theorem trimLeft_append_of_ne_nil (hcs : trimLeft cs ≠ []) (ws : List Char) :
    trimLeft (cs ++ ws) = trimLeft cs ++ ws := by
  unfold trimLeft at hcs ⊢
  rw [List.dropWhile_append, if_neg (by simpa using hcs)]

/-- Blanks are trimmed to nothing. -/
theorem trim_of_areBlank (hcs : AreBlank cs) : trim cs = [] := by
  rw [trim, trimLeft_eq_nil_iff.mpr hcs]
  rfl

/-- **Blanks around a text do not matter.** -/
theorem trim_append (hws : AreBlank ws) (hvs : AreBlank vs) (cs : List Char) :
    trim (ws ++ cs ++ vs) = trim cs := by
  by_cases hcs : AreBlank cs
  · rw [trim_of_areBlank ((hws.append hcs).append hvs), trim_of_areBlank hcs]
  · have hne : trimLeft cs ≠ [] := fun hnil => hcs (trimLeft_eq_nil_iff.mp hnil)
    rw [trim, List.append_assoc, trimLeft_append_of_blank _ hws, trimLeft_append_of_ne_nil hne,
      List.reverse_append, trimLeft_append_of_blank _ hvs.reverse]
    rfl

/-- A text is blanks and what trimming leaves of it. -/
theorem exists_trimLeft (cs : List Char) : ∃ ws, AreBlank ws ∧ cs = ws ++ trimLeft cs :=
  ⟨cs.takeWhile isBlank, fun _ hc => List.all_eq_true.mp List.all_takeWhile _ hc,
    List.takeWhile_append_dropWhile.symm⟩

/-- **A text is what trimming leaves of it, with blanks around.** -/
theorem exists_blanks (cs : List Char) :
    ∃ ws vs, AreBlank ws ∧ AreBlank vs ∧ cs = ws ++ trim cs ++ vs := by
  obtain ⟨ws, hws, hleft⟩ := exists_trimLeft cs
  obtain ⟨vs, hvs, hright⟩ := exists_trimLeft (trimLeft cs).reverse
  refine ⟨ws, vs.reverse, hws, hvs.reverse, ?_⟩
  have htrim : trimLeft cs = trim cs ++ vs.reverse := by
    rw [← List.reverse_reverse (trimLeft cs), hright, List.reverse_append]
    rfl
  rw [List.append_assoc, ← htrim]
  exact hleft

/-- A text without blanks is not trimmed. -/
theorem trim_of_no_blank (hcs : ∀ c ∈ cs, isBlank c = false) : trim cs = cs := by
  have hleft : ∀ ds : List Char, (∀ c ∈ ds, isBlank c = false) → trimLeft ds = ds := by
    intro ds hds
    cases ds with
    | nil => rfl
    | cons d ds => exact trimLeft_cons_of_not_blank ds (hds d List.mem_cons_self)
  rw [trim, hleft cs hcs, hleft _ fun c hc => hcs c (List.mem_reverse.mp hc), List.reverse_reverse]

/-- A blank is foreign. -/
theorem not_isBlank_of_not_isForeign {c : Char} (hc : Alphabet.isForeign c = false) :
    isBlank c = false := by
  obtain ⟨token, htoken⟩ := Alphabet.exists_token_of_not_isForeign hc
  have hchar := Token.char_eq_of_ofChar? htoken
  cases token with
  | symbol d =>
      obtain rfl : d = c := hchar
      have hsymbol := Token.isSymbol_of_ofChar? htoken
      have hcode : 0x61 ≤ d.toNat ∧ d.toNat ≤ 0x7A ∨ d.toNat = 0x45 := by
        simp only [Alphabet.isSymbol, Alphabet.isLetter, Bool.or_eq_true, Bool.and_eq_true,
          decide_eq_true_eq, beq_iff_eq, ← Char.toNat_inj, Char.le_def,
          UInt32.le_iff_toNat_le] at hsymbol
        exact hsymbol
      simp only [isBlank, blankRanges, List.any_cons, List.any_nil, Bool.or_false,
        Bool.or_eq_false_iff, Bool.and_eq_false_iff, decide_eq_false_iff_not]
      omega
  | opening => exact hchar ▸ rfl
  | closing => exact hchar ▸ rfl
  | star => exact hchar ▸ rfl
  | bar => exact hchar ▸ rfl

/-- Trimming leaves a text of the alphabet alone. -/
theorem trim_of_not_isForeign (hcs : ∀ c ∈ cs, Alphabet.isForeign c = false) : trim cs = cs :=
  trim_of_no_blank fun c hc => not_isBlank_of_not_isForeign (hcs c hc)

end RegexCompiler.Text
