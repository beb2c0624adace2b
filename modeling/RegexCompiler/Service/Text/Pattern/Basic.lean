/-!
# Patterns

A pattern takes a part of a text that starts at a place, and may take several such parts: they are
tried in a fixed order, and the first one is taken with which the rest succeeds.  So `run` is given
what is to come next, and answers with the first place that both lead to.

* Of a choice the left side is tried first.
* A repetition tries one more round first, or last if it is reluctant.  A round after the least
  number of them that took nothing is the last one.
* `kept` remembers the part that it took, under a number; `again` takes the same part once more.
* `first` and the looks to the left and the right stick to the first part that they find.
-/

namespace RegexCompiler.Text

/-- **A place** in a text. -/
structure Place where
  /-- What stands to the left, the nearest character first. -/
  before : List Char := []
  /-- What stands to the right. -/
  after : List Char
  /-- The parts that are remembered, by their numbers. -/
  parts : List (Nat × List Char) := []
  deriving DecidableEq, Repr

namespace Place

/-- The place one character further. -/
def pass (s : Place) (c : Char) (rest : List Char) : Place :=
  { s with before := c :: s.before, after := rest }

/-- The place some characters further, if the text goes on with them. -/
def passAll? (same : Char → Char → Bool) : List Char → Place → Option Place
  | [], s => some s
  | d :: ds, s =>
    match s.after with
    | c :: rest => if same c d then passAll? same ds (s.pass c rest) else none
    | [] => none

/-- The place some characters back, if there are so many. -/
def back? : Nat → Place → Option Place
  | 0, s => some s
  | n + 1, s =>
    match s.before with
    | c :: rest => back? n { s with before := rest, after := c :: s.after }
    | [] => none

/-- The place `t`, where the part since `s` is remembered. -/
def keep (n : Nat) (s t : Place) : Place :=
  let part := (t.before.take (t.before.length - s.before.length)).reverse
  { t with parts := (n, part) :: t.parts.filter (·.1 ≠ n) }

end Place

/-- **How a repetition goes on.** -/
inductive Manner where
  /-- It tries one more round first. -/
  | eager
  /-- It tries one more round last. -/
  | reluctant
  /-- It goes on as long as it can, and sticks to that. -/
  | stubborn
  deriving DecidableEq, Repr

/-- **A pattern.** -/
inductive Pattern where
  /-- Takes nothing. -/
  | empty
  /-- Takes one character. -/
  | one (fits : Char → Bool)
  /-- Takes nothing, at a place between fitting sides. -/
  | edge (holds : (before after : List Char) → Bool)
  /-- One after the other. -/
  | seq (p q : Pattern)
  /-- One or the other. -/
  | either (p q : Pattern)
  /-- Many times, at least `least` of them and at most `most`. -/
  | repeated (p : Pattern) (least : Nat) (most : Option Nat) (manner : Manner)
  /-- Remembers what it takes. -/
  | kept (n : Nat) (p : Pattern)
  /-- Takes what is remembered. -/
  | again (n : Nat) (same : Char → Char → Bool)
  /-- One if something is remembered, the other if not. -/
  | whether (n : Nat) (p q : Pattern)
  /-- Sticks to the first part that it finds. -/
  | first (p : Pattern)
  /-- Takes nothing, where something fits to the right, or where it does not. -/
  | ahead (wanted : Bool) (p : Pattern)
  /-- Takes nothing, where something fits to the left, `width` characters back, or where it does
  not. -/
  | behind (wanted : Bool) (width : Nat) (p : Pattern)

namespace Pattern

/-- What comes next, from a place on. -/
abbrev Next := Place → Option Place

/-- A number of rounds that must be. -/
def runMust (body : Place → Next → Option Place) : Nat → Place → Next → Option Place
  | 0, s, k => k s
  | n + 1, s, k => body s fun t => runMust body n t k

/-- Rounds that may be, at most `most`.  The last optional round started with `last` characters to
the right. -/
def runMay (body : Place → Next → Option Place) (isReluctant : Bool) :
    (fuel : Nat) → (most last : Option Nat) → Place → Next → Option Place
  | 0, _, _, s, k => k s
  | fuel + 1, most, last, s, k =>
    if most = some 0 ∨ last = some s.after.length then k s
    else
      let more := fun (_ : Unit) => body s fun t =>
        runMay body isReluctant fuel (most.map (· - 1)) (some s.after.length) t k
      if isReluctant then k s <|> more () else more () <|> k s

/-- Rounds: those that must be, and then those that may be, of which every one but the last leaves
less to the right. -/
def runRounds (body : Place → Next → Option Place) (least : Nat) (most : Option Nat)
    (isReluctant : Bool) (s : Place) (k : Next) : Option Place :=
  runMust body least s fun t =>
    runMay body isReluctant (t.after.length + 1) (most.map (· - least)) none t k

/-- **Running** a pattern at a place, before what comes next. -/
def run : Pattern → Place → Next → Option Place
  | empty, s, k => k s
  | one fits, s, k =>
    match s.after with
    | c :: rest => if fits c then k (s.pass c rest) else none
    | [] => none
  | edge holds, s, k => if holds s.before s.after then k s else none
  | seq p q, s, k => p.run s fun t => q.run t k
  | either p q, s, k => p.run s k <|> q.run s k
  | repeated p least most manner, s, k =>
    match manner with
    | .eager => runRounds p.run least most false s k
    | .reluctant => runRounds p.run least most true s k
    | .stubborn =>
      runRounds (fun s k => (p.run s some).bind k) least most false s some |>.bind k
  | kept n p, s, k => p.run s fun t => k (.keep n s t)
  | again n same, s, k =>
    match s.parts.lookup n with
    | some part => (s.passAll? same part).bind k
    | none => none
  | whether n p q, s, k => if (s.parts.lookup n).isSome then p.run s k else q.run s k
  | first p, s, k => (p.run s some).bind k
  | ahead wanted p, s, k =>
    match wanted, p.run s some with
    | true, some t => k { s with parts := t.parts }
    | false, none => k s
    | _, _ => none
  | behind wanted width p, s, k =>
    match wanted, (s.back? width).bind fun t => p.run t some with
    | true, some t => k { s with parts := t.parts }
    | false, none => k s
    | _, _ => none

/-- **Taking.**  Whether a pattern takes the front of a text. -/
def takes (p : Pattern) (cs : List Char) : Bool := (p.run { after := cs } some).isSome

/-! ## Widths -/

/-- **A width**: the least and the greatest number of characters that a pattern takes. -/
structure Width where
  /-- The least number. -/
  least : Nat
  /-- The greatest number, if there is one. -/
  most : Option Nat
  deriving DecidableEq, Repr

namespace Width

/-- The width of a single text. -/
def exactly (n : Nat) : Width := ⟨n, some n⟩

/-- The width of both, one after the other. -/
def add (v w : Width) : Width := ⟨v.least + w.least, do return (← v.most) + (← w.most)⟩

/-- The width of one or the other. -/
def join (v w : Width) : Width := ⟨min v.least w.least, do return max (← v.most) (← w.most)⟩

/-- The width of many rounds. -/
def times (w : Width) (least : Nat) (most : Option Nat) : Width :=
  ⟨w.least * least, if w.most = some 0 then some 0 else do return (← w.most) * (← most)⟩

/-- The number of characters, if it is fixed. -/
def fixed? (w : Width) : Option Nat := if w.most = some w.least then w.most else none

end Width

/-- The width of a pattern; the first argument gives that of the parts that are remembered. -/
def width (parts : Nat → Width) : Pattern → Width
  | empty | edge _ | ahead _ _ | behind _ _ _ => .exactly 0
  | one _ => .exactly 1
  | seq p q => (p.width parts).add (q.width parts)
  | either p q | whether _ p q => (p.width parts).join (q.width parts)
  | repeated p least most _ => (p.width parts).times least most
  | kept _ p | first p => p.width parts
  | again n _ => parts n

end Pattern

end RegexCompiler.Text
