import RegexCompiler.Text.Decimal
import RegexCompiler.Text.Quoted

/-!
# Why an expression is refused

A text that is no expression is refused for one of eight causes (`RegexError`).  A cause is
shown as a `Report`: its kind, a message, and the position in the text where it was noticed,
counted in characters from 0; only the empty text has no position.

A `Fault` is something else: it says that an automaton was used against the rules of its owner,
or that a part of the library left its own discipline.  A `Failure` is either of the two.
-/

namespace RegexCompiler

/-- The kinds of reports. -/
inductive Kind where
  /-- A report of no special kind. -/
  | general
  /-- The text is empty or holds a foreign character. -/
  | invalidInput
  /-- The parentheses do not match. -/
  | unbalancedParentheses
  /-- An operator or a group lacks an operand. -/
  | stackImbalance
  deriving DecidableEq, Repr

/-- The name of a kind, as reports carry it. -/
def Kind.name : Kind → String
  | .general => "regex_error"
  | .invalidInput => "invalid_input"
  | .unbalancedParentheses => "unbalanced_parentheses"
  | .stackImbalance => "stack_imbalance"

/-- What is told about a refusal. -/
structure Report where
  /-- What sort of refusal it is. -/
  kind : Kind
  /-- The message, without the position. -/
  message : String
  /-- Where in the text it was noticed, if anywhere. -/
  position : Option Int
  deriving DecidableEq, Repr

/-- The full text of a report: the message, then the position if there is one. -/
def Report.text (r : Report) : String :=
  match r.position with
  | none => r.message
  | some i => r.message ++ " (at position " ++ Text.ofInt i ++ ")"

/-- **The causes of refusal.** -/
inductive RegexError where
  /-- There is no character at all. -/
  | emptyText
  /-- A character outside the alphabet and the four signs. -/
  | foreignCharacter (c : Char) (position : Nat)
  /-- A `)` that closes no group. -/
  | extraClosing (position : Nat)
  /-- Groups that are still open at the end of the text. -/
  | unclosed (count position : Nat)
  /-- A `*` without an operand in front of it. -/
  | nothingToRepeat (position : Nat)
  /-- A `|` without an operand in front of it. -/
  | missingLeft (position : Nat)
  /-- A `)` without an operand in front of it. -/
  | emptyGroup (position : Nat)
  /-- The text ends where an operand should follow. -/
  | danglingEnd (position : Nat)
  deriving DecidableEq, Repr

namespace RegexError

/-- The kind of a cause. -/
def kind : RegexError → Kind
  | emptyText | foreignCharacter .. => .invalidInput
  | extraClosing _ | unclosed .. => .unbalancedParentheses
  | nothingToRepeat _ | missingLeft _ | emptyGroup _ | danglingEnd _ => .stackImbalance

/-- The message of a cause. -/
def message : RegexError → String
  | emptyText => "empty regular expression"
  | foreignCharacter c _ => "unexpected character " ++ Text.quote (String.singleton c)
  | extraClosing _ => "more ')' than '('"
  | unclosed count _ => Text.ofNat count ++ " unclosed '('"
  | nothingToRepeat _ => "nothing to repeat"
  | missingLeft _ => "'|' is missing its left operand"
  | emptyGroup _ => "empty group or dangling operator before ')'"
  | danglingEnd _ => "expression ends with a dangling operator"

/-- Where a cause was noticed. -/
def position? : RegexError → Option Nat
  | emptyText => none
  | foreignCharacter _ i | extraClosing i | unclosed _ i | nothingToRepeat i | missingLeft i
  | emptyGroup i | danglingEnd i => some i

/-- The report of a cause. -/
def report (e : RegexError) : Report :=
  { kind := e.kind, message := e.message, position := e.position?.map Int.ofNat }

/-- The full text of a cause. -/
def text (e : RegexError) : String := e.report.text

end RegexError

/-- **Breaches of discipline.** -/
inductive Fault where
  /-- An automaton is used after another one was built from it. -/
  | consumed
  /-- A construction needs the final state of an automaton that has none. -/
  | finalUnset
  /-- A stack holds less, or something else, than its user takes off. -/
  | starved
  deriving DecidableEq, Repr

/-- What is told about a breach. -/
def Fault.message : Fault → String
  | .consumed => "automaton was already consumed by a construction primitive"
  | .finalUnset => "automaton has no final state"
  | .starved => "stack holds too little"

/-- Why a compilation ends without an automaton. -/
inductive Failure where
  /-- The text is no expression. -/
  | refused (error : RegexError)
  /-- The library left its own discipline. -/
  | broken (fault : Fault)
  deriving DecidableEq, Repr

end RegexCompiler
