import RegexCompiler.Proofs.Scan.Grammar

/-!
# What a scan keeps of the text

A scan keeps the symbols of the text, and keeps them in order.  The expressions that wait in its
frames, from the outermost group inwards, hold the symbols that are read, each as often as it is
read (`symbols_of_step`); so the expression of a text has the symbols of the text
(`symbols_of_parse`).  This needs no grammar, and foreign characters do no harm.

The operators of a text become the nodes of its expression, one for one (`operators_of_derives`).
-/

namespace RegexCompiler

/-- The symbols of a text, in order. -/
def Alphabet.symbols (cs : List Char) : List String := (cs.filter isSymbol).map String.singleton

namespace Expr

/-- The symbols of an expression, from left to right. -/
def symbols : Expr → List String
  | literal s => [s]
  | star e => e.symbols
  | concat l r | union l r => l.symbols ++ r.symbols

/-- The number of repetitions in an expression. -/
def stars : Expr → Nat
  | literal _ => 0
  | star e => e.stars + 1
  | concat l r | union l r => l.stars + r.stars

/-- The number of unions in an expression. -/
def unions : Expr → Nat
  | literal _ => 0
  | star e => e.unions
  | concat l r => l.unions + r.unions
  | union l r => l.unions + r.unions + 1

/-- The symbols of an expression that may be missing. -/
def symbolsOf (e : Option Expr) : List String := e.toList.flatMap symbols

/-- No expression has no symbols. -/
@[simp] theorem symbolsOf_none : symbolsOf none = [] := rfl

/-- One expression has its own. -/
@[simp] theorem symbolsOf_some (e : Expr) : symbolsOf (some e) = e.symbols := by
  simp [symbolsOf]

end Expr

namespace Alphabet

/-- The symbols of a text are collected part by part. -/
theorem symbols_append (cs ds : List Char) : symbols (cs ++ ds) = symbols cs ++ symbols ds := by
  simp [symbols]

/-- A character is a symbol or none. -/
theorem symbols_singleton (c : Char) :
    symbols [c] =
      match Token.ofChar? c with
      | some (.symbol d) => [String.singleton d]
      | _ => [] := by
  cases hc : isSymbol c with
  | true => simp [symbols, hc, Token.ofChar?_of_isSymbol hc]
  | false =>
      have hnone : ∀ d, Token.ofChar? c ≠ some (.symbol d) := by
        intro d htoken
        have hd := Token.isSymbol_of_ofChar? htoken
        rw [show d = c from Token.char_eq_of_ofChar? htoken, hc] at hd
        cases hd
      have hempty : symbols [c] = [] := by simp [symbols, hc]
      rw [hempty]
      split
      · exact absurd ‹_› (hnone _)
      · rfl

/-- No symbol of a text is without a character. -/
theorem empty_not_mem_symbols (cs : List Char) : "" ∉ symbols cs := by
  intro h
  obtain ⟨c, -, hc⟩ := List.mem_map.mp h
  exact String.singleton_ne_empty hc

end Alphabet

open RegexCompiler.Expr (symbolsOf)

namespace Frame

/-- The symbols of what waits inside a group. -/
def symbols (f : Frame) : List String := symbolsOf f.alternatives ++ symbolsOf f.chain

/-- The empty frame has no symbols. -/
theorem symbols_empty : symbols {} = [] := rfl

/-- Joining an item puts its symbols behind those of the chain. -/
theorem symbols_join (f : Frame) (e : Expr) :
    (f.join e).symbols = symbolsOf f.chain ++ e.symbols := by
  obtain ⟨alternatives, chain⟩ := f
  cases chain <;> simp [join, Expr.symbols]

/-- Closing a frame keeps all symbols in their order. -/
theorem symbols_close (f : Frame) (e : Expr) : (f.close e).symbols = f.symbols ++ e.symbols := by
  unfold symbols close
  rw [List.append_assoc, ← symbols_join]
  cases f.alternatives <;> simp [Expr.symbols]

end Frame

namespace Reading

/-- The symbols of what a reading holds, the outermost group first. -/
def symbols (r : Reading) : List String :=
  r.outer.reverse.flatMap Frame.symbols ++ (r.frame.symbols ++ symbolsOf r.item)

variable {r r' : Reading} {i : Nat}

/-- Making room for an operand moves the one before it into the frame. -/
theorem symbols_makeRoom (r : Reading) :
    r.makeRoom.frame.symbols = r.frame.symbols ++ symbolsOf r.item := by
  obtain ⟨item, f, outer⟩ := r
  cases item with
  | none => simp [makeRoom]
  | some e => simp [makeRoom, Frame.symbols, Frame.symbols_join]

/-- **One character** adds its symbol, if it is one. -/
theorem symbols_of_step {c : Char} (h : r.step i c = .ok r') :
    r'.symbols = r.symbols ++ Alphabet.symbols [c] := by
  rw [Alphabet.symbols_singleton]
  rw [step_eq_ok_iff] at h
  generalize Token.ofChar? c = token at h ⊢
  cases h with
  | pass => simp
  | symbol d => simp [symbols, symbols_makeRoom, Expr.symbols]
  | opening => simp [symbols, symbols_makeRoom, Frame.symbols_empty]
  | star => simp [symbols, Expr.symbols]
  | bar => simp [symbols, Frame.symbols, Frame.symbols_close]
  | closing => simp [symbols, Frame.symbols_close]

/-- **A run of characters** adds its symbols. -/
theorem symbols_of_advance {cs : List Char} (h : r.advance i cs = .ok r') :
    r'.symbols = r.symbols ++ Alphabet.symbols cs := by
  induction cs generalizing r i with
  | nil =>
      cases h
      simp [Alphabet.symbols]
  | cons c cs ih =>
      obtain ⟨next, hstep, h⟩ := advance_cons_eq_ok_iff.mp h
      rw [ih h, symbols_of_step hstep, List.append_assoc, ← Alphabet.symbols_append,
        List.singleton_append]

/-- The end of a reading leaves its symbols. -/
theorem symbols_of_finish {length : Nat} {e : Expr} (h : r.finish length = .ok e) :
    e.symbols = r.symbols := by
  obtain ⟨item, f, outer⟩ := r
  cases outer with
  | cons g outer => cases h
  | nil =>
      cases item with
      | none => cases h
      | some e =>
          cases h
          simp [symbols, Frame.symbols_close]

end Reading

/-- **The symbols of a text** are those of its expression, in the same order. -/
theorem symbols_of_parse {cs : List Char} {e : Expr} (h : Expr.parse cs = .ok e) :
    e.symbols = Alphabet.symbols cs := by
  obtain ⟨r, hadvance, hfinish⟩ := Reading.read_eq_ok_iff.mp (Reading.parse_eq_ok_iff.mp h)
  rw [Reading.symbols_of_finish hfinish, Reading.symbols_of_advance hadvance]
  rfl

/-- **The operators of a text** are those of its expression, one for one. -/
theorem operators_of_derives {level : Level} {cs : List Char} {e : Expr}
    (h : Derives level cs e) : e.stars = cs.count '*' ∧ e.unions = cs.count '|' := by
  induction h with
  | single _ ih => exact ih
  | alternative _ _ ihl ihe => simp [Expr.stars, Expr.unions, ihl, ihe, Nat.add_assoc]
  | link _ ih => exact ih
  | next _ _ ihl ihe => simp [Expr.stars, Expr.unions, ihl, ihe]
  | @symbol c hc =>
      have hstar : c ≠ '*' := by
        rintro rfl
        revert hc
        decide
      have hbar : c ≠ '|' := by
        rintro rfl
        revert hc
        decide
      simp [Expr.stars, Expr.unions, hstar, hbar]
  | group _ ih => simp [ih]
  | star _ ih => simp [Expr.stars, Expr.unions, ih]

end RegexCompiler
