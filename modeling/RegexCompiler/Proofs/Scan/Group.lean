import RegexCompiler.Expr.Language
import RegexCompiler.Proofs.Expr.Walk
import RegexCompiler.Proofs.Scan.Gap

/-!
# A group in any text

What stands in a group matters to the rest of a text only as one operand.  Reading the group does
not touch what waits around it (`advance_group`), so the rest is read as over a gap
(`read_grouped`).  Hence the text around a group alone decides what becomes of the whole: an
expression with one hole, into which the expression of the group is put, or a refusal, in front of
the group or behind it.

The main statement, `group_substitution`, also says what follows for two groups in the same place:
both texts are accepted or none, and groups with one language make texts with one language.
-/

namespace RegexCompiler

namespace Reading

variable {r r' : Reading} {i : Nat}

/-! ## Around what is read -/

/-- The reading with more groups around it. -/
def under (r : Reading) (around : List Frame) : Reading := { r with outer := r.outer ++ around }

/-- Making room does not look at the groups around. -/
theorem makeRoom_under (r : Reading) (around : List Frame) :
    (r.under around).makeRoom = r.makeRoom.under around := by
  obtain ⟨item, f, outer⟩ := r
  cases item <;> rfl

/-- What is read is read alike with more groups around it, and it leaves them as they are. -/
theorem Takes.under {token : Option Token} (h : r.Takes token r') (around : List Frame) :
    (r.under around).Takes token (r'.under around) := by
  cases h with
  | pass => exact .pass _
  | symbol _ c =>
      have hsymbol := Takes.symbol (r.under around) c
      rw [makeRoom_under] at hsymbol
      exact hsymbol
  | opening =>
      have hopening := Takes.opening (r.under around)
      rw [makeRoom_under] at hopening
      exact hopening
  | star e f outer => exact .star e f _
  | bar e f outer => exact .bar e f _
  | closing e f g outer => exact .closing e f g _

/-- What a character does inside a group it does in any surroundings. -/
theorem step_under {c : Char} (h : r.step i c = .ok r') (around : List Frame) (j : Nat) :
    (r.under around).step j c = .ok (r'.under around) := by
  rw [step_eq_ok_iff] at h ⊢
  exact h.under around

/-- So does a run. -/
theorem advance_under {cs : List Char} (h : r.advance i cs = .ok r') (around : List Frame)
    (j : Nat) : (r.under around).advance j cs = .ok (r'.under around) := by
  induction cs generalizing r i j with
  | nil =>
      cases h
      rfl
  | cons c cs ih =>
      obtain ⟨next, hstep, h⟩ := advance_cons_eq_ok_iff.mp h
      rw [advance_cons_of_eq_ok (step_under hstep around j)]
      exact ih h (j + 1)

/-- A text that is read by itself is read as a union at the start of any group. -/
theorem reads_union_of_read {cs : List Char} {e : Expr} (h : read cs = .ok e) :
    Reads .union cs e := by
  intro around j
  obtain ⟨⟨item, frame, outer⟩, hadvance, hfinish⟩ := read_eq_ok_iff.mp h
  cases outer with
  | cons g outer => cases hfinish
  | nil =>
      cases item with
      | none => cases hfinish
      | some d => exact ⟨frame, d, advance_under hadvance around j, Except.ok.inj hfinish⟩

/-- **A group** becomes the next operand, whatever waits around it. -/
theorem advance_group {cs : List Char} {e : Expr} (h : read cs = .ok e) (r : Reading) (i : Nat) :
    r.advance i ('(' :: cs ++ [')']) = .ok { r.makeRoom with item := some e } :=
  (reads_union_of_read h).group r i

/-! ## A group between two texts -/

/-- The text `cs` as a group between `x` and `y`. -/
def grouped (x cs y : List Char) : List Char := x ++ (('(' :: cs ++ [')']) ++ y)

/-- The parentheses of a group count. -/
theorem length_grouped (x cs y : List Char) :
    (grouped x cs y).length = x.length + cs.length + 2 + y.length := by
  simp [grouped]
  omega

/-- A reading behind a group that is left open. -/
def afterGap (r : Reading) : Reading := { r.makeRoom with item := some .gap }

/-- Behind a gap the reading has one literal more, that of the gap. -/
theorem symbols_afterGap (r : Reading) : r.afterGap.symbols = r.symbols ++ [""] := by
  simp [afterGap, symbols, symbols_makeRoom, Expr.gap, Expr.symbols]

/-- A text behind the gap adds no other one. -/
theorem count_of_afterGap {x y : List Char} {d : Expr} (hx : advance {} 0 x = .ok r)
    (hrest : r.afterGap.complete i y = .ok d) : d.symbols.count "" = 1 := by
  have hleft := List.count_eq_zero.mpr (Alphabet.empty_not_mem_symbols x)
  have hright := List.count_eq_zero.mpr (Alphabet.empty_not_mem_symbols y)
  have hsymbols : r.symbols = Alphabet.symbols x := symbols_of_advance hx
  rw [symbols_of_complete hrest, symbols_afterGap, hsymbols, List.count_append,
    List.count_append, hleft, hright]
  rfl

/-- The gap is where the group stands. -/
theorem plug_afterGap (h : "" ∉ r.symbols) (e : Expr) :
    r.afterGap.plug e = { r.makeRoom with item := some e } := by
  have hroom : "" ∉ r.makeRoom.symbols := by
    have hsame : r.makeRoom.symbols = r.symbols := by simp [symbols, symbols_makeRoom]
    rwa [hsame]
  have hplug := plug_eq_self hroom e
  rw [plug, Reading.mk.injEq] at hplug
  rw [afterGap, plug, Reading.mk.injEq]
  exact ⟨rfl, hplug.2⟩

/-- **Behind the group** the text is read as over a gap, only later. -/
theorem read_grouped {x cs : List Char} {e : Expr} (hx : advance {} 0 x = .ok r)
    (h : read cs = .ok e) (y : List Char) :
    read (grouped x cs y) = ((r.afterGap.complete 0 y).map (·.plug e)).mapError
      (RegexError.mapPosition (· + (x.length + cs.length + 2))) := by
  have hclean : "" ∉ r.symbols := by
    rw [symbols_of_advance hx]
    exact Alphabet.empty_not_mem_symbols x
  -- the group takes up the characters of `cs` and two more
  have hlength : 0 + x.length + ('(' :: cs ++ [')']).length = 0 + (x.length + cs.length + 2) := by
    simp
    omega
  rw [read_eq_complete, grouped, complete_append_of_eq_ok hx,
    complete_append_of_eq_ok (advance_group h r _), ← plug_afterGap hclean, hlength, complete_add,
    complete_plug]

/-- In front of the group the text is refused whatever the group is. -/
theorem read_grouped_of_refused {x : List Char} {error : RegexError}
    (hx : advance {} 0 x = .error error) (cs y : List Char) :
    read (grouped x cs y) = .error error := by
  rw [read_eq_complete]
  exact complete_append_of_eq_error hx _

end Reading

open Reading (grouped)

/-- Expressions of one language make expressions of one language, in any context. -/
theorem Context.language_fill {e d : Expr} (h : e.language = d.language) (k : Context) :
    (k.fill e).language = (k.fill d).language := by
  induction k with
  | hole => exact h
  | star k ih => exact congrArg KStar.kstar ih
  | concatLeft k r ih => exact congrArg (· * r.language) ih
  | concatRight l k ih => exact congrArg (l.language * ·) ih
  | unionLeft k r ih => exact congrArg (· + r.language) ih
  | unionRight l k ih => exact congrArg (l.language + ·) ih

/-- Whether a text is refused with a given report. -/
def Refused (cs : List Char) (report : Report) : Prop :=
  ∃ error, Expr.parse cs = .error (.refused error) ∧ error.report = report

/-- **What becomes of a text with a group in it**, whatever the group is. -/
inductive GroupOutcome where
  /-- The expression of the group is put into a context. -/
  | fills (k : Context)
  /-- The text is refused in front of the group, at a given position. -/
  | refusedBefore (kind : Kind) (message : String) (position : Nat)
  /-- The text is refused behind the group, at a given distance from its end. -/
  | refusedBehind (kind : Kind) (message : String) (distance : Nat)

/-- Whether an outcome is that of the text with the group `cs`, read as `e`, between `x` and `y`. -/
def GroupOutcome.Holds (x y cs : List Char) (e : Expr) : GroupOutcome → Prop
  | fills k => Expr.parse (grouped x cs y) = .ok (k.fill e)
  | refusedBefore kind message p => p < x.length ∧ Refused (grouped x cs y) ⟨kind, message, some p⟩
  | refusedBehind kind message d => d ≤ y.length ∧
      Refused (grouped x cs y) ⟨kind, message, some ((grouped x cs y).length - d)⟩

/-- An error with a position is reported with that position. -/
theorem RegexError.report_eq {error : RegexError} {p : Nat} (h : error.position? = some p) :
    error.report = ⟨error.kind, error.message, some p⟩ := by
  rw [report, h]
  rfl

/-- **The outcome is fixed** by the text around the group. -/
theorem exists_groupOutcome (x y : List Char) :
    ∃ outcome : GroupOutcome, ∀ cs e, Expr.parse cs = .ok e → outcome.Holds x y cs e := by
  -- the group is read as one item, so the text before it decides first, then the text behind it
  cases hx : Reading.advance {} 0 x with
  | error error =>
      obtain ⟨p, hp, hposition⟩ := Reading.position?_of_advance hx
      rw [Nat.zero_add] at hposition
      refine ⟨.refusedBefore error.kind error.message p, ?_⟩
      intro cs e _
      have hrefused := Reading.read_grouped_of_refused hx cs y
      exact ⟨hp, error, Reading.parse_eq_error_iff.mpr hrefused, RegexError.report_eq hposition⟩
  | ok r =>
      cases hrest : r.afterGap.complete 0 y with
      | ok d =>
          obtain ⟨k, hk⟩ := Expr.exists_context (Reading.count_of_afterGap hx hrest)
          refine ⟨.fills k, ?_⟩
          intro cs e h
          apply Reading.parse_eq_ok_iff.mpr
          rw [Reading.read_grouped hx (Reading.parse_eq_ok_iff.mp h), hrest]
          exact congrArg Except.ok (hk e)
      | error error =>
          obtain ⟨j, hj, hposition⟩ := Reading.position?_of_complete hrest
          refine ⟨.refusedBehind error.kind error.message (y.length - j), ?_⟩
          intro cs e h
          have hrefused : Reading.read (grouped x cs y) =
              .error (error.mapPosition (· + (x.length + cs.length + 2))) := by
            rw [Reading.read_grouped hx (Reading.parse_eq_ok_iff.mp h), hrest]
            rfl
          have hlater : (error.mapPosition (· + (x.length + cs.length + 2))).position? =
              some (0 + j + (x.length + cs.length + 2)) := by
            rw [RegexError.position?_mapPosition, hposition]
            rfl
          have hlength := Reading.length_grouped x cs y
          refine ⟨Nat.sub_le _ _, _, Reading.parse_eq_error_iff.mpr hrefused, ?_⟩
          rw [RegexError.report_eq hlater, RegexError.kind_mapPosition,
            RegexError.message_mapPosition, Report.mk.injEq, Option.some.injEq]
          refine ⟨rfl, rfl, ?_⟩
          omega

namespace GroupOutcome

variable {outcome : GroupOutcome} {x y cs ds : List Char} {e d : Expr}

/-- A text is accepted where the group fills a context. -/
theorem Holds.accepted_iff (h : outcome.Holds x y cs e) :
    (∃ t, Expr.parse (grouped x cs y) = .ok t) ↔ ∃ k, outcome = fills k := by
  cases outcome with
  | fills k => exact ⟨fun _ => ⟨k, rfl⟩, fun _ => ⟨_, h⟩⟩
  | refusedBefore kind message p =>
      obtain ⟨-, error, herror, -⟩ := h
      simp [herror]
  | refusedBehind kind message distance =>
      obtain ⟨-, error, herror, -⟩ := h
      simp [herror]

/-- Two groups of one language in the same place make texts of one language. -/
theorem Holds.language_eq (h : outcome.Holds x y cs e) (h' : outcome.Holds x y ds d)
    (hsame : e.language = d.language) {t u : Expr} (ht : Expr.parse (grouped x cs y) = .ok t)
    (hu : Expr.parse (grouped x ds y) = .ok u) : t.language = u.language := by
  obtain ⟨k, rfl⟩ := h.accepted_iff.mp ⟨t, ht⟩
  obtain rfl : k.fill e = t := Except.ok.inj (h.symm.trans ht)
  obtain rfl : k.fill d = u := Except.ok.inj (h'.symm.trans hu)
  exact k.language_fill hsame

end GroupOutcome

/-- **A group may stand in any text.**  The texts `x` and `y` around it alone decide the outcome:
whatever is accepted as a group, its expression fills the hole of one context, or the whole is
refused with one kind and message, at one position in `x` or at one distance from the end.  So of
two such groups both are accepted between `x` and `y` or none is, and if they have one language, so
do the automata of the two texts. -/
theorem group_substitution (x y : List Char) :
    ∃ outcome : GroupOutcome,
      (∀ r e, Expr.parse r = .ok e → outcome.Holds x y r e) ∧
      ∀ r s e d, Expr.parse r = .ok e → Expr.parse s = .ok d →
        ((∃ t, Expr.parse (grouped x r y) = .ok t) ↔
          ∃ u, Expr.parse (grouped x s y) = .ok u) ∧
        (e.language = d.language → ∀ t u, Expr.parse (grouped x r y) = .ok t →
          Expr.parse (grouped x s y) = .ok u →
            ∃ a b, t.build = .ok a ∧ u.build = .ok b ∧ a.language = b.language) := by
  obtain ⟨outcome, houtcome⟩ := exists_groupOutcome x y
  refine ⟨outcome, houtcome, ?_⟩
  intro r s e d hr hs
  have hfirst := houtcome r e hr
  have hsecond := houtcome s d hs
  refine ⟨hfirst.accepted_iff.trans hsecond.accepted_iff.symm, ?_⟩
  intro hsame t u ht hu
  obtain ⟨a, ha, -, hlanguage⟩ := t.exists_build
  obtain ⟨b, hb, -, hlanguage'⟩ := u.exists_build
  refine ⟨a, b, ha, hb, ?_⟩
  rw [hlanguage, hlanguage', hfirst.language_eq hsecond hsame ht hu]

/-- Two alternatives in either order, in a group that is repeated between two letters. -/
theorem group_substitution_swapped :
    let x := "c|a".toList
    let y := "*b".toList
    let e : Expr := .union (.literal "a") (.literal "b")
    let d : Expr := .union (.literal "b") (.literal "a")
    ∃ outcome : GroupOutcome,
      outcome.Holds x y "a|b".toList e ∧ outcome.Holds x y "b|a".toList d ∧
      ∃ t u a b, Expr.parse (grouped x "a|b".toList y) = .ok t ∧
        Expr.parse (grouped x "b|a".toList y) = .ok u ∧
        t.build = .ok a ∧ u.build = .ok b ∧ a.language = b.language := by
  intro x y e d
  have hr : Expr.parse "a|b".toList = .ok e := by decide
  have hs : Expr.parse "b|a".toList = .ok d := by decide
  obtain ⟨outcome, houtcome, hsame⟩ := group_substitution x y
  obtain ⟨haccepted, hlanguages⟩ := hsame _ _ e d hr hs
  have ht : ∃ t, Expr.parse (grouped x "a|b".toList y) = .ok t := ⟨_, rfl⟩
  obtain ⟨t, ht⟩ := ht
  obtain ⟨u, hu⟩ := haccepted.mp ⟨t, ht⟩
  obtain ⟨a, b, ha, hb, hlanguage⟩ := hlanguages (add_comm _ _) t u ht hu
  exact ⟨outcome, houtcome _ e hr, houtcome _ d hs, t, u, a, b, ht, hu, ha, hb, hlanguage⟩

example : Expr.parse (grouped "a".toList "b|c".toList "*)d".toList) =
    .error (.refused (.extraClosing 7)) := by decide

end RegexCompiler
