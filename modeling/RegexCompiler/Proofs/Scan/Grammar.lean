import RegexCompiler.Expr.Grammar
import RegexCompiler.Proofs.Alphabet
import RegexCompiler.Proofs.Scan.Frames

/-!
# A scan reads exactly the grammar

The two directions are of different kind.

* **Soundness.**  What has been read so far is split by the frames of the reading: every frame
  spells the text of its alternatives and of its chain, and the operand spells the text after
  them (`Reading.Spells`).  One character keeps this (`Spells.step`).
* **Completeness.**  A derivation drives any reading that stands where its text may begin: the
  reading ends with the derived expression as its operand, and what waits around is untouched
  (`Reads`, `reads_of_derives`).

Since a scan has one result, completeness also says that a text has one derivation at most.
-/

namespace RegexCompiler

/-! ## Completeness -/

namespace Reading

/-- A run goes on from the state behind its first character. -/
theorem advance_cons_of_eq_ok {r r' : Reading} {i : Nat} {c : Char} (h : r.step i c = .ok r')
    (cs : List Char) : r.advance i (c :: cs) = r'.advance (i + 1) cs := by
  simp [advance, h, bind, Except.bind]

/-- A run that ends well reads its first character well. -/
theorem advance_cons_eq_ok_iff {r r' : Reading} {i : Nat} {c : Char} {cs : List Char} :
    r.advance i (c :: cs) = .ok r' ↔
      ∃ next, r.step i c = .ok next ∧ next.advance (i + 1) cs = .ok r' := by
  cases hstep : r.step i c with
  | error e => simp [advance, hstep, bind, Except.bind]
  | ok next => simp [advance_cons_of_eq_ok hstep]

/-- A run over two texts is one run after the other. -/
theorem advance_append (r : Reading) (i : Nat) (xs ys : List Char) :
    r.advance i (xs ++ ys) =
      (r.advance i xs).bind fun r' => r'.advance (i + xs.length) ys := by
  induction xs generalizing r i with
  | nil => rfl
  | cons c xs ih =>
      cases hstep : r.step i c with
      | error e => simp [advance, hstep, bind, Except.bind]
      | ok r' =>
          have hlength : i + 1 + xs.length = i + (xs.length + 1) := by omega
          simp [advance, hstep, bind, Except.bind, ih, hlength]

/-- A run that ends well can be gone on with. -/
theorem advance_append_of_eq_ok {r r' : Reading} {i : Nat} {xs : List Char}
    (h : r.advance i xs = .ok r') (ys : List Char) :
    r.advance i (xs ++ ys) = r'.advance (i + xs.length) ys := by
  rw [advance_append, h]
  rfl

/-- A run over one character is a step. -/
theorem advance_singleton (r : Reading) (i : Nat) (c : Char) : r.advance i [c] = r.step i c := by
  cases h : r.step i c <;> simp [advance, h, bind, Except.bind]

/-- **The refused character.**  A run that is refused is read up to the character that refuses
it. -/
theorem exists_step_of_advance_eq_error {r : Reading} {i : Nat} {cs : List Char}
    {error : RegexError} (h : r.advance i cs = .error error) :
    ∃ before c after r', cs = before ++ c :: after ∧ r.advance i before = .ok r' ∧
      r'.step (i + before.length) c = .error error := by
  induction cs generalizing r i with
  | nil => cases h
  | cons c cs ih =>
      cases hstep : r.step i c with
      | error e =>
          rw [advance, hstep] at h
          cases h
          exact ⟨[], c, cs, r, rfl, rfl, hstep⟩
      | ok next =>
          rw [advance_cons_of_eq_ok hstep] at h
          obtain ⟨before, d, after, r', rfl, hbefore, hrefused⟩ := ih h
          refine ⟨c :: before, d, after, r', rfl, ?_, ?_⟩
          · rw [advance_cons_of_eq_ok hstep]
            exact hbefore
          · rw [List.length_cons, Nat.add_comm before.length, ← Nat.add_assoc]
            exact hrefused

/-- How a text at a level of the grammar is read as `e`, wherever it may begin: an item after
anything, a chain at the start of an alternative, a union at the start of a group. -/
def Reads : Level → List Char → Expr → Prop
  | .item, cs, e => ∀ r i, advance r i cs = .ok { r.makeRoom with item := some e }
  | .chain, cs, e => ∀ alternatives outer i, ∃ chain item,
      advance ⟨none, ⟨alternatives, none⟩, outer⟩ i cs =
        .ok ⟨some item, ⟨alternatives, chain⟩, outer⟩ ∧
      Frame.join ⟨alternatives, chain⟩ item = e
  | .union, cs, e => ∀ outer i, ∃ frame item,
      advance ⟨none, {}, outer⟩ i cs = .ok ⟨some item, frame, outer⟩ ∧ frame.close item = e

/-- A chain is read as a union of one. -/
theorem Reads.single {cs : List Char} {e : Expr} (h : Reads .chain cs e) : Reads .union cs e := by
  intro outer i
  obtain ⟨chain, item, hadvance, hjoin⟩ := h none outer i
  exact ⟨⟨none, chain⟩, item, hadvance, hjoin⟩

/-- A chain behind a `|` becomes the right side of a union. -/
theorem Reads.alternative {r s : List Char} {l e : Expr} (hl : Reads .union r l)
    (he : Reads .chain s e) : Reads .union (r ++ '|' :: s) (.union l e) := by
  intro outer i
  obtain ⟨frame, item, hadvance, rfl⟩ := hl outer i
  obtain ⟨chain, last, hlast, rfl⟩ := he (some (frame.close item)) outer (i + r.length + 1)
  refine ⟨⟨some (frame.close item), chain⟩, last, ?_, rfl⟩
  rw [advance_append_of_eq_ok hadvance]
  exact hlast

/-- An item is read as a chain of one. -/
theorem Reads.link {cs : List Char} {e : Expr} (h : Reads .item cs e) : Reads .chain cs e := by
  intro alternatives outer i
  exact ⟨none, e, h _ i, rfl⟩

/-- An item behind a chain is joined to it. -/
theorem Reads.next {r s : List Char} {l e : Expr} (hl : Reads .chain r l)
    (he : Reads .item s e) : Reads .chain (r ++ s) (.concat l e) := by
  intro alternatives outer i
  obtain ⟨chain, item, hadvance, rfl⟩ := hl alternatives outer i
  refine ⟨some (Frame.join ⟨alternatives, chain⟩ item), e, ?_, rfl⟩
  rw [advance_append_of_eq_ok hadvance]
  exact he _ _

/-- A symbol is read as a literal. -/
theorem Reads.symbol {c : Char} (h : Alphabet.isSymbol c = true) :
    Reads .item [c] (.literal (String.singleton c)) := by
  intro r i
  rw [advance_singleton, step, Token.ofChar?_of_isSymbol h]

/-- A union between parentheses is read as an item. -/
theorem Reads.group {cs : List Char} {e : Expr} (h : Reads .union cs e) :
    Reads .item ('(' :: cs ++ [')']) e := by
  intro r i
  obtain ⟨frame, item, hadvance, rfl⟩ := h (r.makeRoom.frame :: r.outer) (i + 1)
  have hopen : r.step i '(' = .ok ⟨none, {}, r.makeRoom.frame :: r.outer⟩ := rfl
  have hclose : step ⟨some item, frame, r.makeRoom.frame :: r.outer⟩ (i + 1 + cs.length) ')' =
      .ok ⟨some (frame.close item), r.makeRoom.frame, r.outer⟩ := rfl
  rw [List.cons_append, advance_cons_of_eq_ok hopen, advance_append_of_eq_ok hadvance,
    advance_singleton, hclose, ← makeRoom_outer]

/-- An item before a `*` is read as its repetition. -/
theorem Reads.star {cs : List Char} {e : Expr} (h : Reads .item cs e) :
    Reads .item (cs ++ ['*']) (.star e) := by
  intro r i
  rw [advance_append_of_eq_ok (h r i), advance_singleton]
  rfl

/-- **Completeness.**  What the grammar derives is read so. -/
theorem reads_of_derives {level : Level} {cs : List Char} {e : Expr} (h : Derives level cs e) :
    Reads level cs e := by
  induction h with
  | single _ ih => exact ih.single
  | alternative _ _ ihl ihe => exact ihl.alternative ihe
  | link _ ih => exact ih.link
  | next _ _ ihl ihe => exact ihl.next ihe
  | symbol hc => exact Reads.symbol hc
  | group _ ih => exact ih.group
  | star _ ih => exact ih.star

/-- A whole text that the grammar derives is read as what it derives. -/
theorem read_of_derives {cs : List Char} {e : Expr} (h : Derives .union cs e) :
    read cs = .ok e := by
  obtain ⟨frame, item, hadvance, hclose⟩ := reads_of_derives h [] 0
  exact read_eq_ok_iff.mpr ⟨_, hadvance, congrArg Except.ok hclose⟩

end Reading

/-- **The grammar is unambiguous**: what it derives is what is read. -/
theorem Derives.unique {cs : List Char} {e e' : Expr} (h : Derives .union cs e)
    (h' : Derives .union cs e') : e = e' :=
  Except.ok.inj ((Reading.read_of_derives h).symm.trans (Reading.read_of_derives h'))

/-! ## Soundness -/

/-- What an optional expression spells at a level of the grammar. -/
inductive SpellsPart (level : Level) : Option Expr → List Char → Prop
  /-- Nothing spells no text. -/
  | none : SpellsPart level none []
  /-- An expression spells what derives it. -/
  | some {cs : List Char} {e : Expr} : Derives level cs e → SpellsPart level (some e) cs

/-- What the alternatives before the last `|` spell, the sign included. -/
inductive SpellsAlternatives : Option Expr → List Char → Prop
  /-- There is no `|` yet. -/
  | none : SpellsAlternatives none []
  /-- The last `|` ends them. -/
  | some {cs : List Char} {e : Expr} :
      Derives .union cs e → SpellsAlternatives (some e) (cs ++ ['|'])

/-- What a frame spells: its alternatives, then its chain. -/
def Frame.Spells (f : Frame) (cs : List Char) : Prop :=
  ∃ before chain, cs = before ++ chain ∧ SpellsAlternatives f.alternatives before ∧
    SpellsPart .chain f.chain chain

/-- What the outer groups spell, each up to the `(` of the next one. -/
inductive SpellsOuter : List Frame → List Char → Prop
  /-- There are no groups. -/
  | nil : SpellsOuter [] []
  /-- The next group is the last one. -/
  | cons {f : Frame} {outer : List Frame} {around inside : List Char} :
      SpellsOuter outer around → f.Spells inside →
      SpellsOuter (f :: outer) (around ++ inside ++ ['('])

/-- **What a reading spells**: the outer groups, the innermost one, then the operand. -/
def Reading.Spells (r : Reading) (cs : List Char) : Prop :=
  ∃ around inside last, cs = around ++ (inside ++ last) ∧ SpellsOuter r.outer around ∧
    r.frame.Spells inside ∧ SpellsPart .item r.item last

/-- An empty frame spells the empty text. -/
theorem Frame.spells_empty : Frame.Spells {} [] := ⟨[], [], rfl, .none, .none⟩

/-- An item joins the chain before it. -/
theorem SpellsPart.join {f : Frame} {cs s : List Char} {e : Expr}
    (hchain : SpellsPart .chain f.chain cs) (he : Derives .item s e) :
    Derives .chain (cs ++ s) (f.join e) := by
  obtain ⟨alternatives, chain⟩ := f
  cases hchain with
  | none => exact .link he
  | some hk => exact .next hk he

/-- An item closes the frame before it. -/
theorem Frame.Spells.close {f : Frame} {cs s : List Char} {e : Expr} (hf : f.Spells cs)
    (he : Derives .item s e) : Derives .union (cs ++ s) (f.close e) := by
  obtain ⟨before, chain, rfl, halternatives, hchain⟩ := hf
  have hjoin := hchain.join he
  obtain ⟨alternatives, k⟩ := f
  cases halternatives with
  | none => exact .single hjoin
  | some hu => simpa [Frame.close] using Derives.alternative hu hjoin

namespace Reading

/-- Making room changes nothing of what is spelt, and leaves no operand. -/
theorem Spells.makeRoom {r : Reading} {cs : List Char} (h : r.Spells cs) :
    ∃ around inside, cs = around ++ inside ∧ SpellsOuter r.outer around ∧
      r.makeRoom.frame.Spells inside := by
  obtain ⟨around, inside, last, rfl, houter, hframe, hitem⟩ := h
  obtain ⟨item, f, outer⟩ := r
  cases hitem with
  | none => exact ⟨around, inside, by simp, houter, hframe⟩
  | some he =>
      obtain ⟨before, chain, rfl, halternatives, hchain⟩ := hframe
      exact ⟨around, before ++ (chain ++ last), by simp, houter, before, chain ++ last, rfl,
        halternatives, .some (hchain.join he)⟩

/-- **One character.**  A reading goes on spelling what it has read. -/
theorem Spells.step {r r' : Reading} {cs : List Char} {i : Nat} {c : Char} (h : r.Spells cs)
    (hc : Alphabet.isForeign c = false) (hstep : r.step i c = .ok r') :
    r'.Spells (cs ++ [c]) := by
  obtain ⟨token, htoken⟩ := Alphabet.exists_token_of_not_isForeign hc
  have hchar := Token.char_eq_of_ofChar? htoken
  rw [step_eq_ok_iff, htoken] at hstep
  subst hchar
  -- a token changes the innermost group only, and what the outer ones spell stays
  cases hstep with
  | symbol _ c =>
      obtain ⟨around, inside, rfl, houter, hframe⟩ := h.makeRoom
      exact ⟨around, inside, [c], by simp [Token.char], by simpa using houter, hframe,
        .some (.symbol (Token.isSymbol_of_ofChar? htoken))⟩
  | opening =>
      obtain ⟨around, inside, rfl, houter, hframe⟩ := h.makeRoom
      exact ⟨around ++ inside ++ ['('], [], [], by simp [Token.char], .cons houter hframe,
        Frame.spells_empty, .none⟩
  | star =>
      obtain ⟨around, inside, last, rfl, houter, hframe, hitem⟩ := h
      cases hitem with
      | some he =>
          exact ⟨around, inside, last ++ ['*'], by simp [Token.char], houter, hframe,
            .some he.star⟩
  | bar e f outer =>
      obtain ⟨around, inside, last, rfl, houter, hframe, hitem⟩ := h
      cases hitem with
      | some he =>
          have hnew : Frame.Spells { alternatives := some (f.close e) } (inside ++ last ++ ['|']) :=
            ⟨_, [], by simp, .some (hframe.close he), .none⟩
          exact ⟨around, _, [], by simp [Token.char], houter, hnew, .none⟩
  | closing =>
      obtain ⟨around, inside, last, rfl, houter, hframe, hitem⟩ := h
      cases houter with
      | cons houter hnext =>
          cases hitem with
          | some he =>
              exact ⟨_, _, _, by simp [Token.char], houter, hnext, .some (.group (hframe.close he))⟩

/-- **A reading spells what it has read**, step by step. -/
theorem Spells.advance {r r' : Reading} {cs s : List Char} {i : Nat} (h : r.Spells cs)
    (hs : ∀ c ∈ s, Alphabet.isForeign c = false) (hadvance : r.advance i s = .ok r') :
    r'.Spells (cs ++ s) := by
  induction s generalizing r cs i with
  | nil =>
      cases hadvance
      simpa using h
  | cons c s ih =>
      obtain ⟨next, hstep, hadvance⟩ := advance_cons_eq_ok_iff.mp hadvance
      have hnext : next.Spells (cs ++ [c]) := h.step (hs c List.mem_cons_self) hstep
      simpa using ih hnext (fun d hd => hs d (List.mem_cons_of_mem c hd)) hadvance

/-- **Soundness.**  What a reading makes of a text is what the grammar derives of it. -/
theorem derives_of_read {cs : List Char} {e : Expr} (hcs : ∀ c ∈ cs, Alphabet.isForeign c = false)
    (h : read cs = .ok e) : Derives .union cs e := by
  obtain ⟨r, hadvance, hfinish⟩ := read_eq_ok_iff.mp h
  have hstart : Spells {} [] := ⟨[], [], [], rfl, .nil, Frame.spells_empty, .none⟩
  obtain ⟨around, inside, last, hcs, houter, hframe, hitem⟩ := hstart.advance hcs hadvance
  obtain ⟨item, f, outer⟩ := r
  cases houter with
  | cons _ _ => cases hfinish
  | nil =>
      cases hitem with
      | none => cases hfinish
      | some he =>
          cases hfinish
          rw [List.nil_append, List.nil_append] at hcs
          exact hcs ▸ hframe.close he

end Reading

/-! ## The scan and the grammar -/

/-- What the grammar derives is parsed. -/
theorem parse_of_derives {cs : List Char} {e : Expr} (h : Derives .union cs e) :
    Expr.parse cs = .ok e :=
  Reading.parse_eq_ok_iff.mpr (Reading.read_of_derives h)

/-- A scan that succeeds has read a text of the grammar, unless it passed over something. -/
theorem derives_of_parse {cs : List Char} {e : Expr}
    (hcs : ∀ c ∈ cs, Alphabet.isForeign c = false) (h : Expr.parse cs = .ok e) :
    Derives .union cs e :=
  Reading.derives_of_read hcs (Reading.parse_eq_ok_iff.mp h)

/-- A text is parsed or refused, and nothing else can happen. -/
theorem parse_total (cs : List Char) :
    (∃ e, Expr.parse cs = .ok e) ∨ ∃ error, Expr.parse cs = .error (.refused error) := by
  rw [Reading.parse_eq_read]
  cases Reading.read cs with
  | error error => exact .inr ⟨error, rfl⟩
  | ok e => exact .inl ⟨e, rfl⟩

/-- **How the operators bind.**  `*` binds tighter than juxtaposition and juxtaposition tighter
than `|`, on either side, and both join to the left. -/
theorem parse_binding {u k s t : List Char} {a b c d : Expr} (hu : Derives .union u a)
    (hk : Derives .chain k b) (hs : Derives .item s c) (ht : Derives .item t d) :
    Expr.parse (k ++ (s ++ ['*'])) = .ok (.concat b (.star c)) ∧
    Expr.parse (u ++ '|' :: (k ++ s)) = .ok (.union a (.concat b c)) ∧
    Expr.parse (k ++ s ++ '|' :: t) = .ok (.union (.concat b c) d) ∧
    Expr.parse (k ++ s ++ t) = .ok (.concat (.concat b c) d) ∧
    Expr.parse (u ++ '|' :: k ++ '|' :: t) = .ok (.union (.union a b) d) := by
  have hks : Derives .chain (k ++ s) (.concat b c) := .next hk hs
  refine ⟨?_, ?_, ?_, ?_, ?_⟩
  · exact parse_of_derives (.single (.next hk hs.star))
  · exact parse_of_derives (.alternative hu hks)
  · exact parse_of_derives (.alternative (.single hks) (.link ht))
  · exact parse_of_derives (.single (.next hks ht))
  · exact parse_of_derives (.alternative (.alternative hu hk) (.link ht))

/-- **A scan reads exactly the grammar.**  Of a text without foreign characters it makes an
expression just where the grammar derives it; the grammar derives no other expression of the text;
where it derives none the text is refused; and the operators bind as the levels say. -/
theorem parse_iff_derives {cs : List Char} (hcs : ∀ c ∈ cs, Alphabet.isForeign c = false) :
    (∀ e, Expr.parse cs = .ok e ↔ Derives .union cs e) ∧
    (∀ e e', Derives .union cs e → Derives .union cs e' → e = e') ∧
    ((¬ ∃ e, Derives .union cs e) → ∃ error, Expr.parse cs = .error (.refused error)) ∧
    (∀ u k s t a b c d, Derives .union u a → Derives .chain k b → Derives .item s c →
      Derives .item t d →
      Expr.parse (k ++ (s ++ ['*'])) = .ok (.concat b (.star c)) ∧
      Expr.parse (u ++ '|' :: (k ++ s)) = .ok (.union a (.concat b c)) ∧
      Expr.parse (k ++ s ++ '|' :: t) = .ok (.union (.concat b c) d) ∧
      Expr.parse (k ++ s ++ t) = .ok (.concat (.concat b c) d) ∧
      Expr.parse (u ++ '|' :: k ++ '|' :: t) = .ok (.union (.union a b) d)) := by
  refine ⟨?_, ?_, ?_, ?_⟩
  · intro e
    exact ⟨derives_of_parse hcs, parse_of_derives⟩
  · intro e e' h h'
    exact h.unique h'
  · intro hnone
    obtain ⟨e, he⟩ | hrefused := parse_total cs
    · exact absurd ⟨e, derives_of_parse hcs he⟩ hnone
    · exact hrefused
  · intro u k s t a b c d hu hk hs ht
    exact parse_binding hu hk hs ht

/-- `a|b*c` has the one tree that the levels give it. -/
theorem parse_iff_derives_mixed :
    (∀ c ∈ ['a', '|', 'b', '*', 'c'], Alphabet.isForeign c = false) ∧
    (Expr.parse ['a', '|', 'b', '*', 'c'] =
        .ok (.union (.literal "a") (.concat (.star (.literal "b")) (.literal "c"))) ↔
      Derives .union ['a', '|', 'b', '*', 'c']
        (.union (.literal "a") (.concat (.star (.literal "b")) (.literal "c")))) ∧
    Expr.parse ['a', '|', 'b', '*', 'c'] =
      .ok (.union (.literal "a") (.concat (.star (.literal "b")) (.literal "c"))) := by
  have hnone : Alphabet.foreign? ['a', '|', 'b', '*', 'c'] = none := by decide
  have hcs := Alphabet.foreign?_eq_none_iff.mp hnone
  exact ⟨hcs, (parse_iff_derives hcs).1 _, rfl⟩

end RegexCompiler
