import RegexCompiler.Proofs.Compile.Basic

/-!
# The verdict on a text

Whether a text compiles, and what is told if it does not, is read off the text position by
position, without a scan: a position is *open* as many groups deep as `(` outnumbers `)` before
it (`depth`), and it *lacks an operand* if it is the first one or stands behind `(` or `|`
(`lacksOperand`).  `verdict` asks in this order:

1. is the text empty;
2. which is the first character outside the alphabet and the signs (`foreignAt?`);
3. which is the first sign that is out of place (`misplacedAt?`);
4. what does the end lack (`missingAtEnd?`).

The main statement, `compile_verdict`, says that a compilation follows the verdict, in kind,
message and position.  A scan keeps the two facts in its state (`Tracks`): the number of groups
that it holds open is the depth, and it has no operand where one is lacking.
-/

namespace RegexCompiler

namespace Verdict

/-- The characters of expressions: the letters, the mark of the empty word, and the signs. -/
def characters : List Char := "abcdefghijklmnopqrstuvwxyzE()*|".toList

/-- By how much `(` outnumbers `)` before position `i`. -/
def depth (cs : List Char) (i : Nat) : Int := (cs.take i).count '(' - (cs.take i).count ')'

/-- Whether no operand ends directly before position `i`. -/
def lacksOperand (cs : List Char) (i : Nat) : Bool :=
  i = 0 || cs[i - 1]? = some '(' || cs[i - 1]? = some '|'

/-- What is told of the character at position `i` if it is no character of expressions. -/
def foreignAt? (cs : List Char) (i : Nat) : Option Report :=
  match cs[i]? with
  | some c =>
    if c ∈ characters then none
    else some {
      kind := .invalidInput
      message := "unexpected character " ++ Text.quote (String.singleton c)
      position := some i }
  | none => none

/-- What is told of the sign at position `i` if it is out of place.  A `)` that closes no group is
told of as such, whatever stands before it. -/
def misplacedAt? (cs : List Char) (i : Nat) : Option Report :=
  if cs[i]? = some ')' ∧ depth cs i = 0 then
    some ⟨.unbalancedParentheses, "more ')' than '('", some i⟩
  else if lacksOperand cs i then
    match cs[i]? with
    | some '*' => some ⟨.stackImbalance, "nothing to repeat", some i⟩
    | some '|' => some ⟨.stackImbalance, "'|' is missing its left operand", some i⟩
    | some ')' => some ⟨.stackImbalance, "empty group or dangling operator before ')'", some i⟩
    | _ => none
  else none

/-- What is told of the end of the text if something is missing there. -/
def missingAtEnd? (cs : List Char) : Option Report :=
  if 0 < depth cs cs.length then
    some ⟨.unbalancedParentheses, Text.ofNat (depth cs cs.length).toNat ++ " unclosed '('",
      some cs.length⟩
  else if lacksOperand cs cs.length then
    some ⟨.stackImbalance, "expression ends with a dangling operator", some cs.length⟩
  else none

/-- What is told of the first position of which something is told. -/
def first? (tell : List Char → Nat → Option Report) (cs : List Char) : Option Report :=
  (List.range cs.length).findSome? (tell cs)

end Verdict

open Verdict in
/-- **The verdict on a text**: what is told of it, nothing if it is an expression. -/
def verdict (cs : List Char) : Option Report :=
  if cs = [] then some ⟨.invalidInput, "empty regular expression", none⟩
  else (first? foreignAt? cs).or ((first? misplacedAt? cs).or (missingAtEnd? cs))

namespace Verdict

/-- What is told first of the positions of `rest`, the end of a text. -/
def firstFrom? (tell : List Char → Nat → Option Report) (before rest : List Char) :
    Option Report :=
  (List.range' before.length rest.length).findSome? (tell (before ++ rest))

/-- What is told first is told of the next position, or else of the positions behind it. -/
theorem firstFrom?_cons (tell : List Char → Nat → Option Report) (before : List Char) (c : Char)
    (rest : List Char) :
    firstFrom? tell before (c :: rest) =
      (tell (before ++ c :: rest) before.length).or (firstFrom? tell (before ++ [c]) rest) := by
  unfold firstFrom?
  rw [List.length_cons, List.range'_succ, List.findSome?_cons, List.append_assoc,
    List.singleton_append, List.length_append, List.length_singleton]
  cases tell (before ++ c :: rest) before.length <;> rfl

/-- In front of the whole text nothing has been passed. -/
theorem first?_eq_firstFrom? (tell : List Char → Nat → Option Report) (cs : List Char) :
    first? tell cs = firstFrom? tell [] cs := by
  rw [first?, firstFrom?, List.range_eq_range']
  rfl

/-! ## Foreign characters -/

/-- The table of characters knows just the characters of expressions. -/
theorem isForeign_eq_false_iff {c : Char} : Alphabet.isForeign c = false ↔ c ∈ characters := by
  constructor
  · intro h
    have hall : ∀ n, n < 0x80 → Alphabet.isForeign (Char.ofNat n) = false →
        Char.ofNat n ∈ characters := by decide
    have hlt : c.toNat < 0x80 := by
      obtain ⟨token, htoken⟩ := Alphabet.exists_token_of_not_isForeign h
      obtain rfl := Token.char_eq_of_ofChar? htoken
      cases token with
      | symbol c =>
          have hsymbol := Token.isSymbol_of_ofChar? htoken
          simp only [Alphabet.isSymbol, Alphabet.isLetter, Bool.or_eq_true, Bool.and_eq_true,
            decide_eq_true_eq, beq_iff_eq] at hsymbol
          rcases hsymbol with ⟨-, hz⟩ | rfl
          · exact Nat.lt_of_le_of_lt hz (by decide)
          · decide
      | _ => decide
    have hc := hall c.toNat hlt
    rw [Char.ofNat_toNat] at hc
    exact hc h
  · intro h
    have hnone : Alphabet.foreign? characters = none := by decide
    exact Alphabet.foreign?_eq_none_iff.mp hnone c h

/-- What is told of a character by the alphabet, seen from what stands before it. -/
theorem foreignAt?_append (before : List Char) (c : Char) (rest : List Char) :
    foreignAt? (before ++ c :: rest) before.length =
      if Alphabet.isForeign c then some (RegexError.foreignCharacter c before.length).report
      else none := by
  have hhere : (before ++ c :: rest)[before.length]? = some c := by simp
  simp only [foreignAt?, hhere]
  cases hc : Alphabet.isForeign c with
  | false => rw [if_pos (isForeign_eq_false_iff.mp hc), if_neg Bool.false_ne_true]
  | true =>
      have hnot : c ∉ characters := by
        rw [← isForeign_eq_false_iff, hc]
        decide
      rw [if_neg hnot, if_pos rfl]
      rfl

/-- The alphabet tells of the first foreign character. -/
theorem firstFrom?_foreignAt? (before rest : List Char) :
    firstFrom? foreignAt? before rest =
      ((rest.zipIdx before.length).find? fun p => Alphabet.isForeign p.1).map fun p =>
        (RegexError.foreignCharacter p.1 p.2).report := by
  induction rest generalizing before with
  | nil => rfl
  | cons c rest ih =>
      have hrest := ih (before ++ [c])
      rw [List.length_append, List.length_singleton] at hrest
      rw [firstFrom?_cons, foreignAt?_append, hrest, List.zipIdx_cons, List.find?_cons]
      cases Alphabet.isForeign c <;> rfl

/-- **The first foreign character** is what the alphabet refuses. -/
theorem first?_foreignAt? (cs : List Char) :
    first? foreignAt? cs = (Alphabet.foreign? cs).map fun p =>
      (RegexError.foreignCharacter p.1 p.2).report := by
  rw [first?_eq_firstFrom?, firstFrom?_foreignAt?]
  rfl

/-! ## Signs out of place -/

/-- Whether a text ends where an operand should follow. -/
def endsOpen (before : List Char) : Bool := before.getLast?.all fun c => c = '(' || c = '|'

/-- Behind a `(` and behind a `|` an operand should follow, and nowhere else in a text. -/
@[simp] theorem endsOpen_concat (before : List Char) (c : Char) :
    endsOpen (before ++ [c]) = (c = '(' || c = '|') := by
  simp [endsOpen]

/-- The depth at a position is counted in what stands before it. -/
theorem depth_append (before rest : List Char) :
    depth (before ++ rest) before.length = before.count '(' - before.count ')' := by
  simp [depth]

/-- Whether an operand is missing is seen from what stands before a position. -/
theorem lacksOperand_append (before rest : List Char) :
    lacksOperand (before ++ rest) before.length = endsOpen before := by
  rcases List.eq_nil_or_concat' before with rfl | ⟨front, c, rfl⟩
  · rfl
  · have hlast : (front ++ [c] ++ rest)[(front ++ [c]).length - 1]? = some c := by simp
    have hlength : (front ++ [c]).length ≠ 0 := by simp
    simp only [lacksOperand, hlast, hlength, decide_false, Bool.false_or, Option.some.injEq,
      endsOpen_concat]

/-- What a reading knows of the text that it has read: its depth, and whether it ends open. -/
structure Tracks (before : List Char) (r : Reading) : Prop where
  depth_eq : (r.outer.length : Int) = before.count '(' - before.count ')'
  item_isNone : r.item.isNone = endsOpen before

/-- What is told of the sign behind a text that a reading has read. -/
theorem misplacedAt?_append {before : List Char} {r : Reading} (h : Tracks before r) (c : Char)
    (rest : List Char) :
    misplacedAt? (before ++ c :: rest) before.length =
      if c = ')' ∧ r.outer = [] then some (RegexError.extraClosing before.length).report
      else if r.item = none then
        if c = '*' then some (RegexError.nothingToRepeat before.length).report
        else if c = '|' then some (RegexError.missingLeft before.length).report
        else if c = ')' then some (RegexError.emptyGroup before.length).report
        else none
      else none := by
  have hhere : (before ++ c :: rest)[before.length]? = some c := by simp
  have hdepth : depth (before ++ c :: rest) before.length = 0 ↔ r.outer = [] := by
    rw [depth_append, ← h.depth_eq, ← List.length_eq_zero_iff]
    omega
  have hitem : lacksOperand (before ++ c :: rest) before.length = true ↔ r.item = none := by
    rw [lacksOperand_append, ← h.item_isNone, Option.isNone_iff_eq_none]
  unfold misplacedAt?
  simp only [hhere, hdepth, hitem, Option.some.injEq]
  split_ifs <;> simp_all <;> rfl

/-- Nothing has been read of the empty text. -/
theorem tracks_nil : Tracks [] {} := ⟨rfl, rfl⟩

/-- What a reading knows of a text with one more character. -/
theorem Tracks.concat {before : List Char} {c : Char} {r : Reading}
    (hdepth : (r.outer.length : Int) =
      (before.count '(' + if c = '(' then 1 else 0) - (before.count ')' + if c = ')' then 1 else 0))
    (hitem : r.item.isNone = (c = '(' || c = '|')) : Tracks (before ++ [c]) r := by
  refine ⟨?_, by rw [hitem, endsOpen_concat]⟩
  rw [List.count_append, List.count_append, List.count_singleton, List.count_singleton, hdepth]
  simp only [beq_iff_eq]
  split_ifs <;> omega

/-- **One character.**  Either it is read, and nothing is told of it, or it is refused with what
is told of it. -/
theorem Tracks.step {before : List Char} {r : Reading} (h : Tracks before r) {c : Char}
    (hc : Alphabet.isForeign c = false) (rest : List Char) :
    (∃ r', r.step before.length c = .ok r' ∧ Tracks (before ++ [c]) r' ∧
      misplacedAt? (before ++ c :: rest) before.length = none) ∨
    (∃ error, r.step before.length c = .error error ∧
      misplacedAt? (before ++ c :: rest) before.length = some error.report) := by
  obtain ⟨token, htoken⟩ := Alphabet.exists_token_of_not_isForeign hc
  obtain rfl := Token.char_eq_of_ofChar? htoken
  rw [misplacedAt?_append h]
  have hdepth := h.depth_eq
  obtain ⟨item, frame, outer⟩ := r
  unfold Reading.step
  rw [htoken]
  -- what a token needs before it: nothing, an item, or an item and an open group
  cases token with
  | symbol c =>
      have hsymbol := Token.isSymbol_of_ofChar? htoken
      have hsigns : c ≠ '(' ∧ c ≠ ')' ∧ c ≠ '*' ∧ c ≠ '|' := by
        refine ⟨?_, ?_, ?_, ?_⟩ <;> (rintro rfl; revert hsymbol; decide)
      refine .inl ⟨_, rfl, Tracks.concat ?_ ?_, ?_⟩ <;> simp_all [Token.char]
  | opening =>
      refine .inl ⟨_, rfl, Tracks.concat ?_ ?_, ?_⟩
      · simp [Token.char] at hdepth ⊢
        omega
      · rfl
      · simp [Token.char]
  | star =>
      cases item with
      | none => exact .inr ⟨_, rfl, by simp [Token.char]⟩
      | some e =>
          refine .inl ⟨_, rfl, Tracks.concat ?_ rfl, by simp [Token.char]⟩
          simpa [Token.char] using hdepth
  | bar =>
      cases item with
      | none => exact .inr ⟨_, rfl, by simp [Token.char]⟩
      | some e =>
          refine .inl ⟨_, rfl, Tracks.concat ?_ rfl, by simp [Token.char]⟩
          simpa [Token.char] using hdepth
  | closing =>
      cases outer with
      | nil => exact .inr ⟨_, rfl, by simp [Token.char]⟩
      | cons f outer =>
          cases item with
          | none => exact .inr ⟨_, rfl, by simp [Token.char]⟩
          | some e =>
              refine .inl ⟨_, rfl, Tracks.concat ?_ rfl, by simp [Token.char]⟩
              simp [Token.char] at hdepth ⊢
              omega

/-- **A run of characters.**  Either all are read, and nothing is told of any, or the run is
refused with what is told first. -/
theorem Tracks.advance {before rest : List Char} {r : Reading} (h : Tracks before r)
    (hrest : ∀ c ∈ rest, Alphabet.isForeign c = false) :
    (∃ r', r.advance before.length rest = .ok r' ∧ Tracks (before ++ rest) r' ∧
      firstFrom? misplacedAt? before rest = none) ∨
    (∃ error, r.advance before.length rest = .error error ∧
      firstFrom? misplacedAt? before rest = some error.report) := by
  induction rest generalizing before r with
  | nil => exact .inl ⟨r, rfl, by rwa [List.append_nil], rfl⟩
  | cons c rest ih =>
      obtain ⟨hc, hrest⟩ := List.forall_mem_cons.mp hrest
      rw [firstFrom?_cons]
      rcases h.step hc rest with ⟨r', hstep, htracks, hnone⟩ | ⟨error, hstep, hsome⟩
      · rw [hnone, Option.none_or, Reading.advance_cons_of_eq_ok hstep]
        have hgo := ih htracks hrest
        rwa [List.length_append, List.length_singleton, List.append_assoc,
          List.singleton_append] at hgo
      · refine .inr ⟨error, ?_, by rw [hsome, Option.some_or]⟩
        simp [Reading.advance, hstep, bind, Except.bind]

/-- **The end of the text.**  Either a reading ends well, and nothing is missing, or it is refused
with what is told of the end. -/
theorem Tracks.finish {cs : List Char} {r : Reading} (h : Tracks cs r) :
    (∃ e, r.finish cs.length = .ok e ∧ missingAtEnd? cs = none) ∨
    (∃ error, r.finish cs.length = .error error ∧ missingAtEnd? cs = some error.report) := by
  have hdepth : depth cs cs.length = r.outer.length := by
    have happend := depth_append cs []
    rw [List.append_nil] at happend
    rw [happend, h.depth_eq]
  have hitem : lacksOperand cs cs.length = r.item.isNone := by
    have happend := lacksOperand_append cs []
    rw [List.append_nil] at happend
    rw [happend, h.item_isNone]
  unfold missingAtEnd?
  rw [hdepth, hitem]
  obtain ⟨item, frame, outer⟩ := r
  cases outer with
  | cons f outer => exact .inr ⟨_, rfl, if_pos (by simp)⟩
  | nil =>
      cases item with
      | none => exact .inr ⟨_, rfl, rfl⟩
      | some e => exact .inl ⟨_, rfl, rfl⟩

/-- **A whole text** without foreign characters. -/
theorem read_verdict {cs : List Char} (hcs : ∀ c ∈ cs, Alphabet.isForeign c = false) :
    (∃ e, Reading.read cs = .ok e ∧ (first? misplacedAt? cs).or (missingAtEnd? cs) = none) ∨
    (∃ error, Reading.read cs = .error error ∧
      (first? misplacedAt? cs).or (missingAtEnd? cs) = some error.report) := by
  unfold Reading.read
  rw [first?_eq_firstFrom?]
  rcases tracks_nil.advance hcs with ⟨r, hadvance, htracks, hnone⟩ | ⟨error, hadvance, hsome⟩
  · rw [show Reading.advance {} 0 cs = _ from hadvance, hnone, Option.none_or]
    exact htracks.finish
  · rw [show Reading.advance {} 0 cs = _ from hadvance, hsome, Option.some_or]
    exact .inr ⟨error, rfl, rfl⟩

end Verdict

/-- **The verdict decides.**  Whatever the text, its compilation ends with an answer: what the
verdict tells of the text, with its kind, message and position, is what the refusal reports, and a
text of which nothing is told is compiled. -/
theorem compile_verdict (regex : String) :
    ∃ c, Compilation.ofText regex = .ok c ∧
      c.error.map RegexError.report = verdict regex.toList := by
  unfold verdict
  -- the tests in the order of the verdict: an empty text, a foreign character, the structure
  by_cases hempty : regex.toList = []
  · have hcheck : Alphabet.check regex.toList = .error .emptyText := by rw [hempty]; rfl
    refine ⟨_, Compilation.ofText_of_compile_eq_error (compile_of_check_eq_error hcheck), ?_⟩
    rw [if_pos hempty]
    rfl
  rw [if_neg hempty, Verdict.first?_foreignAt?]
  cases hforeign : Alphabet.foreign? regex.toList with
  | some p =>
      obtain ⟨c, i⟩ := p
      have hcheck : Alphabet.check regex.toList = .error (.foreignCharacter c i) := by
        simp [Alphabet.check, hempty, hforeign]
      exact ⟨_, Compilation.ofText_of_compile_eq_error (compile_of_check_eq_error hcheck), rfl⟩
  | none =>
      have hwritten := Alphabet.foreign?_eq_none_iff.mp hforeign
      have hcheck := Alphabet.check_eq_ok_iff.mpr ⟨hempty, hwritten⟩
      have hcompile := compile_of_check_eq_ok hcheck
      rw [Option.map_none, Option.none_or]
      rcases Verdict.read_verdict hwritten with ⟨e, hread, hnone⟩ | ⟨error, hread, hsome⟩
      · obtain ⟨a, hbuild, -, -⟩ := e.exists_build
        rw [hread] at hcompile
        have hok : compile regex = .ok a := by
          rw [hcompile]
          show e.build.mapError Failure.broken = _
          rw [hbuild]
          rfl
        rw [hnone]
        exact ⟨_, Compilation.ofText_of_compile_eq_ok hok, rfl⟩
      · rw [hread] at hcompile
        rw [hsome]
        exact ⟨_, Compilation.ofText_of_compile_eq_error hcompile, rfl⟩

example : verdict "(a))*&".toList =
    some ⟨.invalidInput, "unexpected character '&'", some 5⟩ := by decide

example : verdict "(|))".toList =
    some ⟨.stackImbalance, "'|' is missing its left operand", some 1⟩ := by decide

example : verdict "(a|E)*b".toList = none := by decide

end RegexCompiler
