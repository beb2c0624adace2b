import RegexCompiler.Expr.Scan

/-!
# A scan by its groups

The two stacks of a scan are one stack of *frames*, one for every open group and one for the text
outside of all groups.  Inside a group at most two things can wait for the next operand: the
alternatives before the last `|`, and a chain of items.  A `Reading` is a stack of frames together
with the operand that ends directly before the next character.

* `Reading.step` reads one character, `Reading.advance` a run of them, `Reading.finish` ends;
* `Takes`, `step_eq_ok_iff` — all that one character can do, in one place;
* `step_toScan`, `finish_toScan` — on the two stacks that a reading stands for (`toScan`), a scan
  does what the reading does, so it never finds a stack too short;
* `parse_eq_read` — a whole scan is a whole reading.
-/

namespace RegexCompiler

/-- What waits inside one group. -/
structure Frame where
  /-- The alternatives before the last `|`, as one expression. -/
  alternatives : Option Expr := none
  /-- The chain that waits for its next item. -/
  chain : Option Expr := none
  deriving DecidableEq, Repr

namespace Frame

/-- The chain of a frame with `e` as its last item. -/
def join (f : Frame) (e : Expr) : Expr :=
  match f.chain with
  | some k => .concat k e
  | none => e

/-- The alternatives of a frame, the last of which ends with the item `e`. -/
def close (f : Frame) (e : Expr) : Expr :=
  match f.alternatives with
  | some u => .union u (f.join e)
  | none => f.join e

/-- The operators of a frame on the operator stack. -/
def operators (f : Frame) : List Pending :=
  f.chain.toList.map (fun _ => .operator .concat) ++
    f.alternatives.toList.map (fun _ => .operator .union)

/-- The expressions of a frame on the operand stack. -/
def operands (f : Frame) : List Expr := f.chain.toList ++ f.alternatives.toList

end Frame

/-- **A scan by its groups.** -/
structure Reading where
  /-- The operand that ends directly before the next character. -/
  item : Option Expr := none
  /-- What waits inside the innermost group. -/
  frame : Frame := {}
  /-- What waits around it, the next group first. -/
  outer : List Frame := []
  deriving DecidableEq, Repr

namespace Reading

/-- The operators of the outer groups, each group below its sign. -/
def outerOperators : List Frame → List Pending
  | [] => []
  | f :: outer => .group :: (f.operators ++ outerOperators outer)

/-- The operands of the outer groups. -/
def outerOperands (outer : List Frame) : List Expr := outer.flatMap Frame.operands

/-- **The two stacks** that a reading stands for. -/
def toScan (r : Reading) : Scan where
  operands := r.item.toList ++ (r.frame.operands ++ outerOperands r.outer)
  operators := r.frame.operators ++ outerOperators r.outer
  ready := r.item.isSome
  depth := r.outer.length

/-- Makes room for an operand: the one before it becomes the last item of the waiting chain. -/
def makeRoom (r : Reading) : Reading :=
  match r.item with
  | some e => { r with item := none, frame := { r.frame with chain := some (r.frame.join e) } }
  | none => r

/-- Reads the character `c` at position `i`. -/
def step (r : Reading) (i : Nat) (c : Char) : Except RegexError Reading :=
  match Token.ofChar? c with
  | none => .ok r
  | some (.symbol c) => .ok { r.makeRoom with item := some (.literal (String.singleton c)) }
  | some .opening =>
    .ok { item := none, frame := {}, outer := r.makeRoom.frame :: r.outer }
  | some .star =>
    match r.item with
    | some e => .ok { r with item := some (.star e) }
    | none => .error (.nothingToRepeat i)
  | some .bar =>
    match r.item with
    | some e => .ok { r with item := none, frame := { alternatives := some (r.frame.close e) } }
    | none => .error (.missingLeft i)
  | some .closing =>
    match r.outer, r.item with
    | [], _ => .error (.extraClosing i)
    | _ :: _, none => .error (.emptyGroup i)
    | f :: outer, some e => .ok { item := some (r.frame.close e), frame := f, outer }

/-- Reads the characters `cs`, the first of which is at position `i`. -/
def advance (r : Reading) (i : Nat) : List Char → Except RegexError Reading
  | [] => .ok r
  | c :: cs => do (← r.step i c).advance (i + 1) cs

/-- Ends a reading of `length` characters. -/
def finish (r : Reading) (length : Nat) : Except RegexError Expr :=
  match r.outer, r.item with
  | f :: outer, _ => .error (.unclosed (f :: outer).length length)
  | [], none => .error (.danglingEnd length)
  | [], some e => .ok (r.frame.close e)

/-- A whole reading. -/
def read (cs : List Char) : Except RegexError Expr := do
  (← advance {} 0 cs).finish cs.length

/-! ## What one character does -/

/-- **What a character does** to a reading that it does not refuse, by what the character means. -/
inductive Takes : Reading → Option Token → Reading → Prop where
  /-- A foreign character is passed over. -/
  | pass (r : Reading) : Takes r none r
  /-- A symbol is the next operand. -/
  | symbol (r : Reading) (c : Char) :
      Takes r (some (.symbol c)) { r.makeRoom with item := some (.literal (String.singleton c)) }
  /-- A `(` puts what waits around a new group. -/
  | opening (r : Reading) : Takes r (some .opening) ⟨none, {}, r.makeRoom.frame :: r.outer⟩
  /-- A `*` repeats the operand. -/
  | star (e : Expr) (f : Frame) (outer : List Frame) :
      Takes ⟨some e, f, outer⟩ (some .star) ⟨some (.star e), f, outer⟩
  /-- A `|` closes the frame, which becomes the alternatives of a new one. -/
  | bar (e : Expr) (f : Frame) (outer : List Frame) :
      Takes ⟨some e, f, outer⟩ (some .bar) ⟨none, { alternatives := some (f.close e) }, outer⟩
  /-- A `)` closes the frame, which becomes an operand of the next one. -/
  | closing (e : Expr) (f g : Frame) (outer : List Frame) :
      Takes ⟨some e, f, g :: outer⟩ (some .closing) ⟨some (f.close e), g, outer⟩

/-- **A step, by its cases**: a character that is read is one that the reading takes. -/
theorem step_eq_ok_iff {r r' : Reading} {i : Nat} {c : Char} :
    r.step i c = .ok r' ↔ r.Takes (Token.ofChar? c) r' := by
  obtain ⟨item, f, outer⟩ := r
  unfold step
  generalize Token.ofChar? c = token
  constructor
  · intro h
    cases token with
    | none =>
        cases h
        exact .pass _
    | some token =>
        cases token with
        | symbol d =>
            cases h
            exact .symbol _ _
        | opening =>
            cases h
            exact .opening _
        | star =>
            cases item <;> cases h
            exact .star _ _ _
        | bar =>
            cases item <;> cases h
            exact .bar _ _ _
        | closing =>
            cases outer <;> cases item <;> cases h
            exact .closing _ _ _ _
  · intro h
    cases h <;> rfl

/-! ## The stacks follow the reading -/

open Scan (reduceWhile)

/-- Below the innermost group nothing is reduced. -/
theorem reduceWhile_outerOperators (p : Binary → Bool) (outer : List Frame)
    (operands : List Expr) :
    reduceWhile p (outerOperators outer) operands = .ok (outerOperators outer, operands) := by
  cases outer with
  | nil => simp [outerOperators, reduceWhile]
  | cons f outer => simp [outerOperators, reduceWhile]

/-- Reducing only what binds as tightly as juxtaposition joins the operand to the chain. -/
theorem reduceWhile_concat (f : Frame) (e : Expr) (outer : List Frame) (rest : List Expr) :
    reduceWhile (fun o => Binary.concat.precedence ≤ o.precedence)
        (f.operators ++ outerOperators outer) (e :: (f.operands ++ rest)) =
      .ok ({ f with chain := none }.operators ++ outerOperators outer,
        f.join e :: (f.alternatives.toList ++ rest)) := by
  have hstop := reduceWhile_outerOperators (fun o => Binary.concat.precedence ≤ o.precedence) outer
  obtain ⟨alternatives, chain⟩ := f
  cases chain <;> cases alternatives <;>
    simp [Frame.operators, Frame.operands, Frame.join, reduceWhile, Binary.precedence,
      Binary.apply] at hstop ⊢ <;> exact hstop _

/-- Reducing everything closes the frame. -/
theorem reduceWhile_close {p : Binary → Bool} (hp : ∀ op, p op = true) (f : Frame) (e : Expr)
    (outer : List Frame) (rest : List Expr) :
    reduceWhile p (f.operators ++ outerOperators outer) (e :: (f.operands ++ rest)) =
      .ok (outerOperators outer, f.close e :: rest) := by
  have hstop := reduceWhile_outerOperators p outer
  obtain ⟨alternatives, chain⟩ := f
  cases chain <;> cases alternatives <;>
    simp [Frame.operators, Frame.operands, Frame.join, Frame.close, reduceWhile, hp,
      Binary.apply, hstop]

/-- What pushing an operator leaves, once it is known what is reduced before it. -/
theorem pushBinary_eq_of_reduceWhile {s : Scan} {op : Binary} {operators : List Pending}
    {operands : List Expr}
    (h : reduceWhile (fun o => op.precedence ≤ o.precedence) s.operators s.operands =
      .ok (operators, operands)) :
    s.pushBinary op =
      .ok { s with operators := .operator op :: operators, operands, ready := false } := by
  simp [Scan.pushBinary, h, bind, Except.bind, pure, Except.pure]

/-- What closing a group leaves, once it is known what is reduced inside it. -/
theorem closeGroup_eq_of_reduceWhile {s : Scan} {i : Nat} {operators : List Pending}
    {operands : List Expr} (hdepth : s.depth ≠ 0) (hready : s.ready = true)
    (h : reduceWhile (fun _ => true) s.operators s.operands =
      .ok (.group :: operators, operands)) :
    s.closeGroup i = .ok { operators, operands, ready := true, depth := s.depth - 1 } := by
  simp [Scan.closeGroup, hdepth, hready, h, bind, Except.bind, pure, Except.pure]

/-- Making room for an operand is what the stacks do before one. -/
theorem juxtapose_toScan (r : Reading) : r.toScan.juxtapose = .ok r.makeRoom.toScan := by
  obtain ⟨item, f, outer⟩ := r
  cases item with
  | none => rfl
  | some e =>
      have hpush := pushBinary_eq_of_reduceWhile (s := toScan ⟨some e, f, outer⟩)
        (reduceWhile_concat f e outer (outerOperands outer))
      exact hpush

/-- A `|` after an operand closes the frame, which becomes the alternatives of a new one. -/
theorem pushBinary_union_toScan (f : Frame) (e : Expr) (outer : List Frame) :
    (toScan ⟨some e, f, outer⟩).pushBinary .union =
      .ok (toScan ⟨none, { alternatives := some (f.close e) }, outer⟩) := by
  have hall : ∀ o : Binary, decide (Binary.union.precedence ≤ o.precedence) = true := by
    intro o
    cases o <;> rfl
  exact pushBinary_eq_of_reduceWhile (s := toScan ⟨some e, f, outer⟩)
    (reduceWhile_close hall f e outer (outerOperands outer))

/-- A `)` after an operand closes the frame, which becomes an operand of the next one. -/
theorem closeGroup_toScan (f g : Frame) (e : Expr) (outer : List Frame) (i : Nat) :
    (toScan ⟨some e, f, g :: outer⟩).closeGroup i = .ok (toScan ⟨some (f.close e), g, outer⟩) := by
  have hclose := closeGroup_eq_of_reduceWhile (s := toScan ⟨some e, f, g :: outer⟩) (i := i)
    (Nat.succ_ne_zero _) rfl
    (reduceWhile_close (fun _ => rfl) f e (g :: outer) (outerOperands (g :: outer)))
  exact hclose

/-- Where room was made there is no item. -/
@[simp] theorem makeRoom_item (r : Reading) : r.makeRoom.item = none := by
  obtain ⟨item, f, outer⟩ := r
  cases item <;> rfl

/-- Making room does not touch the outer groups. -/
@[simp] theorem makeRoom_outer (r : Reading) : r.makeRoom.outer = r.outer := by
  obtain ⟨item, f, outer⟩ := r
  cases item <;> rfl

/-- A symbol becomes the item, on the stacks as in the frames. -/
theorem symbol_toScan (r : Reading) (c : Char) :
    r.toScan.symbol c =
      .ok { r.makeRoom with item := some (.literal (String.singleton c)) }.toScan := by
  have hroom : r.toScan.symbol c =
      .ok { r.makeRoom.toScan with
        operands := .literal (String.singleton c) :: r.makeRoom.toScan.operands
        ready := true } := by
    simp [Scan.symbol, juxtapose_toScan, bind, Except.bind, pure, Except.pure]
  rw [hroom]
  simp [toScan]

/-- A group that is opened has an empty frame of its own. -/
theorem openGroup_toScan (r : Reading) :
    r.toScan.openGroup =
      .ok (toScan { item := none, frame := {}, outer := r.makeRoom.frame :: r.outer }) := by
  have hroom : r.toScan.openGroup =
      .ok { r.makeRoom.toScan with
        operators := .group :: r.makeRoom.toScan.operators, ready := false,
        depth := r.makeRoom.toScan.depth + 1 } := by
    simp [Scan.openGroup, juxtapose_toScan, bind, Except.bind, pure, Except.pure]
  rw [hroom]
  simp [toScan, outerOperators, outerOperands, Frame.operators, Frame.operands]

/-- **One character.**  The stacks do what the reading does. -/
theorem step_toScan (r : Reading) (i : Nat) (c : Char) :
    r.toScan.step i c = ((r.step i c).map toScan).mapError .refused := by
  unfold Scan.step step
  obtain ⟨item, f, outer⟩ := r
  cases Token.ofChar? c with
  | none => rfl
  | some token =>
      cases token with
      | symbol c => exact symbol_toScan _ c
      | opening => exact openGroup_toScan _
      | star => cases item <;> rfl
      | bar =>
          cases item with
          | none => rfl
          | some e => exact pushBinary_union_toScan f e outer
      | closing =>
          cases outer with
          | nil => rfl
          | cons g outer =>
              cases item with
              | none => rfl
              | some e => exact closeGroup_toScan f g e outer i

/-- **A run on the stacks is one in the frames.** -/
theorem advance_toScan (r : Reading) (i : Nat) (cs : List Char) :
    r.toScan.advance i cs = ((r.advance i cs).map toScan).mapError .refused := by
  induction cs generalizing r i with
  | nil => rfl
  | cons c cs ih =>
      have hstep := step_toScan r i c
      show r.toScan.step i c >>= (fun s => s.advance (i + 1) cs) =
        ((r.step i c >>= fun r => r.advance (i + 1) cs).map toScan).mapError .refused
      rw [hstep]
      cases r.step i c with
      | error e => rfl
      | ok r' => exact ih r' (i + 1)

/-- **The end.**  One operand is left where the reading ends well. -/
theorem finish_toScan (r : Reading) (length : Nat) :
    r.toScan.finish length = (r.finish length).mapError .refused := by
  obtain ⟨item, f, outer⟩ := r
  cases outer with
  | cons g outer => rfl
  | nil =>
      cases item with
      | none => rfl
      | some e =>
          have hreduce : reduceWhile (fun _ => true) (toScan ⟨some e, f, []⟩).operators
              (toScan ⟨some e, f, []⟩).operands = .ok ([], [f.close e]) :=
            reduceWhile_close (fun _ => rfl) f e [] (outerOperands [])
          have hdepth : (toScan ⟨some e, f, []⟩).depth = 0 := rfl
          have hready : (toScan ⟨some e, f, []⟩).ready = true := rfl
          have hscan : (toScan ⟨some e, f, []⟩).finish length = .ok (f.close e) := by
            simp [Scan.finish, hreduce, hdepth, hready, bind, Except.bind, pure, Except.pure]
          rw [hscan]
          rfl

/-- A scan from the start is a reading from the start. -/
theorem scan_eq_advance (cs : List Char) :
    Scan.advance {} 0 cs = ((advance {} 0 cs).map toScan).mapError .refused :=
  advance_toScan {} 0 cs

/-- **A whole scan is a whole reading.**  In particular it ends with an expression or with a
refusal, and never for want of an operand. -/
theorem parse_eq_read (cs : List Char) : Expr.parse cs = (read cs).mapError .refused := by
  unfold Expr.parse read
  rw [scan_eq_advance]
  cases advance {} 0 cs with
  | error e => rfl
  | ok r => exact finish_toScan r cs.length

/-- What the stacks accept is what the frames accept. -/
theorem parse_eq_ok_iff {cs : List Char} {e : Expr} :
    Expr.parse cs = .ok e ↔ read cs = .ok e := by
  rw [parse_eq_read]
  constructor
  · intro h
    cases hread : read cs <;> rw [hread] at h <;> cases h
    rfl
  · intro h
    rw [h]
    rfl

/-- What the stacks refuse is what the frames refuse, for the same error. -/
theorem parse_eq_error_iff {cs : List Char} {error : RegexError} :
    Expr.parse cs = .error (.refused error) ↔ read cs = .error error := by
  rw [parse_eq_read]
  constructor
  · intro h
    cases hread : read cs <;> rw [hread] at h <;> cases h
    rfl
  · intro h
    rw [h]
    rfl

/-- A reading that ends well has read all characters. -/
theorem read_eq_ok_iff {cs : List Char} {e : Expr} :
    read cs = .ok e ↔ ∃ r, advance {} 0 cs = .ok r ∧ r.finish cs.length = .ok e := by
  unfold read
  cases advance {} 0 cs <;> simp [bind, Except.bind]

end Reading

end RegexCompiler
