import Mathlib.Logic.Basic
import RegexCompiler.Expr.Context
import RegexCompiler.Proofs.Scan.Position
import RegexCompiler.Proofs.Scan.Symbols

/-!
# Scans over a gap

A scan joins the expressions that it has made and never looks into them.  So one of them may be
left open, and put in afterwards: to put it into what a scan holds and to go on, or to go on and to
put it into the result, is the same (`complete_plug`).

What is left open is written as a symbol without characters.  No text has such a symbol
(`Alphabet.empty_not_mem_symbols`), and a scan keeps each symbol once, so the gap stands in the
result at one place: the result is an expression with one hole (`exists_context`).
-/

namespace RegexCompiler

namespace Expr

/-- What is left open: a symbol without characters. -/
def gap : Expr := literal ""

/-- The expression with `e` at the place of each gap. -/
def plug : Expr → Expr → Expr
  | literal s, e => if s = "" then e else literal s
  | star d, e => star (d.plug e)
  | concat l r, e => concat (l.plug e) (r.plug e)
  | union l r, e => union (l.plug e) (r.plug e)

/-- A symbol of the alphabet is no gap. -/
theorem plug_symbol (c : Char) (e : Expr) :
    (literal (String.singleton c)).plug e = literal (String.singleton c) :=
  if_neg String.singleton_ne_empty

/-- Without a gap nothing is put in. -/
theorem plug_eq_self {d : Expr} (h : "" ∉ d.symbols) (e : Expr) : d.plug e = d := by
  induction d with
  | literal s =>
      have hne : s ≠ "" := by
        rintro rfl
        exact h (List.mem_singleton_self _)
      exact if_neg hne
  | star d ih => exact congrArg star (ih h)
  | concat l r ihl ihr =>
      rw [symbols, List.mem_append, not_or] at h
      exact congrArg₂ concat (ihl h.1) (ihr h.2)
  | union l r ihl ihr =>
      rw [symbols, List.mem_append, not_or] at h
      exact congrArg₂ union (ihl h.1) (ihr h.2)

/-- One of two parts holds the gap, and the other one is left as it is. -/
theorem count_append_eq_one {xs ys : List String} (h : (xs ++ ys).count "" = 1) :
    (xs.count "" = 1 ∧ "" ∉ ys) ∨ ("" ∉ xs ∧ ys.count "" = 1) := by
  rw [List.count_append] at h
  rcases Nat.add_eq_one_iff.mp h with ⟨hx, hy⟩ | ⟨hx, hy⟩
  · exact .inr ⟨List.count_eq_zero.mp hx, hy⟩
  · exact .inl ⟨hx, List.count_eq_zero.mp hy⟩

/-- **One gap is one hole.** -/
theorem exists_context {d : Expr} (h : d.symbols.count "" = 1) :
    ∃ k : Context, ∀ e, d.plug e = k.fill e := by
  induction d with
  | literal s =>
      by_cases hempty : s = ""
      · exact ⟨.hole, fun e => if_pos hempty⟩
      · simp [symbols, hempty] at h
  | star d ih =>
      obtain ⟨k, hk⟩ := ih h
      exact ⟨.star k, fun e => congrArg star (hk e)⟩
  | concat l r ihl ihr =>
      rcases count_append_eq_one h with ⟨hl, hr⟩ | ⟨hl, hr⟩
      · obtain ⟨k, hk⟩ := ihl hl
        exact ⟨.concatLeft k r, fun e => congrArg₂ concat (hk e) (plug_eq_self hr e)⟩
      · obtain ⟨k, hk⟩ := ihr hr
        exact ⟨.concatRight l k, fun e => congrArg₂ concat (plug_eq_self hl e) (hk e)⟩
  | union l r ihl ihr =>
      rcases count_append_eq_one h with ⟨hl, hr⟩ | ⟨hl, hr⟩
      · obtain ⟨k, hk⟩ := ihl hl
        exact ⟨.unionLeft k r, fun e => congrArg₂ union (hk e) (plug_eq_self hr e)⟩
      · obtain ⟨k, hk⟩ := ihr hr
        exact ⟨.unionRight l k, fun e => congrArg₂ union (plug_eq_self hl e) (hk e)⟩

/-- Without a gap an expression that may be missing stays as it is. -/
theorem map_plug_eq_self {d : Option Expr} (h : "" ∉ symbolsOf d) (e : Expr) :
    d.map (·.plug e) = d := by
  cases d with
  | none => rfl
  | some d =>
      rw [symbolsOf_some] at h
      exact congrArg some (plug_eq_self h e)

end Expr

namespace Frame

/-- The frame with `e` at the place of each gap. -/
def plug (f : Frame) (e : Expr) : Frame :=
  ⟨f.alternatives.map (·.plug e), f.chain.map (·.plug e)⟩

/-- Filling the gap and joining an item may be done in either order. -/
theorem plug_join (f : Frame) (d e : Expr) :
    (f.plug e).join (d.plug e) = (f.join d).plug e := by
  obtain ⟨alternatives, chain⟩ := f
  cases chain <;> rfl

/-- Filling the gap and closing a frame may be done in either order. -/
theorem plug_close (f : Frame) (d e : Expr) :
    (f.plug e).close (d.plug e) = (f.close d).plug e := by
  unfold close
  rw [plug_join]
  obtain ⟨alternatives, chain⟩ := f
  cases alternatives <;> rfl

/-- Nothing is to be filled in a frame without a gap. -/
theorem plug_eq_self {f : Frame} (h : "" ∉ f.symbols) (e : Expr) : f.plug e = f := by
  rw [symbols, List.mem_append, not_or] at h
  rw [plug, Expr.map_plug_eq_self h.1, Expr.map_plug_eq_self h.2]

end Frame

namespace Reading

/-- The reading with `e` at the place of each gap. -/
def plug (r : Reading) (e : Expr) : Reading where
  item := r.item.map (·.plug e)
  frame := r.frame.plug e
  outer := r.outer.map (·.plug e)

/-- Nothing is to be filled in a reading without a gap. -/
theorem plug_eq_self {r : Reading} (h : "" ∉ r.symbols) (e : Expr) : r.plug e = r := by
  simp only [symbols, List.mem_append, List.mem_flatMap, List.mem_reverse, not_or,
    not_exists, not_and] at h
  obtain ⟨houter, hframe, hitem⟩ := h
  have hsame : r.outer.map (·.plug e) = r.outer.map id :=
    List.map_congr_left fun f hf => Frame.plug_eq_self (houter f hf) e
  rw [plug, Expr.map_plug_eq_self hitem, Frame.plug_eq_self hframe, hsame, List.map_id]

/-- Making room and filling the gap may be done in either order. -/
theorem makeRoom_plug (r : Reading) (e : Expr) :
    (r.plug e).makeRoom = r.makeRoom.plug e := by
  obtain ⟨item, f, outer⟩ := r
  cases item with
  | none => rfl
  | some d =>
      show Reading.mk none { f.plug e with chain := some ((f.plug e).join (d.plug e)) } _ = _
      rw [Frame.plug_join]
      rfl

/-- **One character** is read alike over a gap and over what is put in. -/
theorem step_plug (r : Reading) (e : Expr) (i : Nat) (c : Char) :
    (r.plug e).step i c = (r.step i c).map (·.plug e) := by
  have hroom := makeRoom_plug r e
  unfold step
  rw [hroom]
  -- no token looks into an item, so it makes no difference what the gap holds
  cases Token.ofChar? c with
  | none => rfl
  | some token =>
      obtain ⟨item, f, outer⟩ := r
      cases token with
      | symbol c =>
          simp only [Except.map, plug, Option.map_some, Expr.plug_symbol]
      | opening => rfl
      | star => cases item <;> rfl
      | bar =>
          cases item with
          | none => rfl
          | some d =>
              show Except.ok (Reading.mk none ⟨some ((f.plug e).close (d.plug e)), none⟩ _) = _
              rw [Frame.plug_close]
              rfl
      | closing =>
          cases outer with
          | nil => rfl
          | cons g outer =>
              cases item with
              | none => rfl
              | some d => simp [plug, Except.map, Frame.plug_close]

/-- **A run does not look into the gap.** -/
theorem advance_plug (r : Reading) (e : Expr) (i : Nat) (cs : List Char) :
    (r.plug e).advance i cs = (r.advance i cs).map (·.plug e) := by
  induction cs generalizing r i with
  | nil => rfl
  | cons c cs ih =>
      have hstep := step_plug r e i c
      cases hok : r.step i c with
      | error error =>
          rw [hok] at hstep
          have hsame : (r.plug e).step i c = .error error := hstep
          simp [advance, hok, hsame, bind, Except.bind, Except.map]
      | ok r' =>
          rw [hok] at hstep
          rw [advance_cons_of_eq_ok hok, advance_cons_of_eq_ok hstep]
          exact ih r' (i + 1)

/-- Nor does the end of the text. -/
theorem finish_plug (r : Reading) (e : Expr) (length : Nat) :
    (r.plug e).finish length = (r.finish length).map (·.plug e) := by
  obtain ⟨item, f, outer⟩ := r
  cases outer with
  | cons g outer => simp [plug, finish, Except.map]
  | nil =>
      cases item with
      | none => rfl
      | some d => exact congrArg Except.ok (f.plug_close d e)

/-- **The rest of a text** is read alike over a gap and over what is put in. -/
theorem complete_plug (r : Reading) (e : Expr) (i : Nat) (cs : List Char) :
    (r.plug e).complete i cs = (r.complete i cs).map (·.plug e) := by
  unfold complete
  rw [advance_plug]
  cases r.advance i cs with
  | error error => rfl
  | ok r' => exact finish_plug r' e _

/-- What the rest of a text adds to the symbols that a reading holds. -/
theorem symbols_of_complete {r : Reading} {i : Nat} {cs : List Char} {e : Expr}
    (h : r.complete i cs = .ok e) : e.symbols = r.symbols ++ Alphabet.symbols cs := by
  unfold complete at h
  cases hadvance : r.advance i cs with
  | error error =>
      rw [hadvance] at h
      cases h
  | ok r' =>
      rw [hadvance] at h
      rw [symbols_of_finish h, symbols_of_advance hadvance]

end Reading

end RegexCompiler
