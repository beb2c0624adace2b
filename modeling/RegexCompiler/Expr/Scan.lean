import RegexCompiler.Alphabet
import RegexCompiler.Error
import RegexCompiler.Expr.Basic

/-!
# Reading an expression

An expression is read from left to right in one scan with two stacks: the operands read so far,
and the operators and open groups that wait for their right side.  `*` binds tightest and is
applied at once; juxtaposition binds tighter than `|`; both join to the left.  Foreign
characters are passed over, but they count in positions.

* `Scan.step` reads one character, `Scan.advance` a run of them, `Scan.finish` ends the scan;
* `Expr.parse` is a whole scan.

A scan that takes from a stack what is not there says so by `Fault.starved`.
-/

namespace RegexCompiler

/-- The operators with two operands. -/
inductive Binary where
  /-- Juxtaposition. -/
  | concat
  /-- `|`. -/
  | union
  deriving DecidableEq, Repr

namespace Binary

/-- How tightly an operator binds. -/
def precedence : Binary → Nat
  | union => 1
  | concat => 2

/-- The expression that an operator makes of its operands. -/
def apply : Binary → Expr → Expr → Expr
  | concat, l, r => .concat l r
  | union, l, r => .union l r

end Binary

/-- What waits on the operator stack. -/
inductive Pending where
  /-- An open group. -/
  | group
  /-- An operator whose right operand is still being read. -/
  | operator (op : Binary)
  deriving DecidableEq, Repr

/-- **The state of a scan.**  Both stacks have their top first. -/
structure Scan where
  /-- The expressions read so far that no operator has taken yet. -/
  operands : List Expr := []
  /-- The operators and open groups that wait. -/
  operators : List Pending := []
  /-- Whether an operand ends directly before the next character. -/
  ready : Bool := false
  /-- The number of open groups. -/
  depth : Nat := 0
  deriving DecidableEq, Repr

namespace Scan

/-- Applies the operators on top of the stack as long as they satisfy `p`; an open group stops
it. -/
def reduceWhile (p : Binary → Bool) :
    List Pending → List Expr → Except Failure (List Pending × List Expr)
  | .operator op :: operators, operands =>
    if p op then
      match operands with
      | r :: l :: rest => reduceWhile p operators (op.apply l r :: rest)
      | _ => .error (.broken .starved)
    else .ok (.operator op :: operators, operands)
  | operators, operands => .ok (operators, operands)

/-- Puts an operator on the stack, after those that bind at least as tightly. -/
def pushBinary (s : Scan) (op : Binary) : Except Failure Scan := do
  let (operators, operands) ←
    reduceWhile (fun o => op.precedence ≤ o.precedence) s.operators s.operands
  return { s with operators := .operator op :: operators, operands, ready := false }

/-- Makes room for an operand: one that follows another is joined to it. -/
def juxtapose (s : Scan) : Except Failure Scan :=
  if s.ready then s.pushBinary .concat else .ok s

/-- Takes in one symbol. -/
def symbol (s : Scan) (c : Char) : Except Failure Scan := do
  let s ← s.juxtapose
  return { s with operands := .literal (String.singleton c) :: s.operands, ready := true }

/-- Opens a group. -/
def openGroup (s : Scan) : Except Failure Scan := do
  let s ← s.juxtapose
  return { s with operators := .group :: s.operators, ready := false, depth := s.depth + 1 }

/-- Repeats the operand before position `i`. -/
def repeatLast (s : Scan) (i : Nat) : Except Failure Scan :=
  if !s.ready then .error (.refused (.nothingToRepeat i))
  else match s.operands with
    | e :: rest => .ok { s with operands := .star e :: rest }
    | [] => .error (.broken .starved)

/-- Starts the right side of a union. -/
def alternate (s : Scan) (i : Nat) : Except Failure Scan :=
  if !s.ready then .error (.refused (.missingLeft i)) else s.pushBinary .union

/-- Closes the innermost group, which becomes one operand. -/
def closeGroup (s : Scan) (i : Nat) : Except Failure Scan :=
  if s.depth = 0 then .error (.refused (.extraClosing i))
  else if !s.ready then .error (.refused (.emptyGroup i))
  else do
    match ← reduceWhile (fun _ => true) s.operators s.operands with
    | (.group :: operators, operands) =>
      return { operators, operands, ready := true, depth := s.depth - 1 }
    | _ => .error (.broken .starved)

/-- Reads the character `c` at position `i`. -/
def step (s : Scan) (i : Nat) (c : Char) : Except Failure Scan :=
  match Token.ofChar? c with
  | none => .ok s
  | some (.symbol c) => s.symbol c
  | some .opening => s.openGroup
  | some .star => s.repeatLast i
  | some .bar => s.alternate i
  | some .closing => s.closeGroup i

/-- Reads the characters `cs`, the first of which is at position `i`. -/
def advance (s : Scan) (i : Nat) : List Char → Except Failure Scan
  | [] => .ok s
  | c :: cs => do (← s.step i c).advance (i + 1) cs

/-- Ends a scan of `length` characters: every group is closed, and one operand is left. -/
def finish (s : Scan) (length : Nat) : Except Failure Expr :=
  if 0 < s.depth then .error (.refused (.unclosed s.depth length))
  else if !s.ready then .error (.refused (.danglingEnd length))
  else do
    match ← reduceWhile (fun _ => true) s.operators s.operands with
    | ([], [e]) => return e
    | _ => .error (.broken .starved)

end Scan

/-- **Reading an expression.**  Foreign characters are passed over. -/
def Expr.parse (cs : List Char) : Except Failure Expr := do
  (← Scan.advance {} 0 cs).finish cs.length

end RegexCompiler
