import RegexCompiler.Text.Hex
import RegexCompiler.Service.Text.Pattern.Basic
import RegexCompiler.Service.Text.Pattern.CharClass

/-!
# Reading patterns

A pattern is written as a text.  A character stands for itself, but for the marks: a backslash
starts an escape, a point is any character, brackets hold a class, parentheses a group, a bar
stands between choices, and `*`, `+`, `?` and braces repeat what is before them.  `^` and `$` are
the edges of the text.  What follows an open parenthesis and a question mark says what the group
is for.

`Reader` holds what was read so far, with a frame for every group that is open.  `Reader.step`
reads one thing more; nothing is the answer to a text that is no pattern.  Such are those that
repeat nothing, or an edge, or repeat twice, that leave a group or a class open, that speak of a
group which is not there or is still open, or that look back over parts of several widths.
Characters cannot be given by their names.
-/

namespace RegexCompiler.Text

/-! ## Tokens -/

/-- **A token**: a character, or one after a backslash. -/
inductive Token where
  /-- A character. -/
  | plain (c : Char)
  /-- A character after a backslash. -/
  | escaped (c : Char)
  deriving DecidableEq, Repr

namespace Token

/-- The tokens of a text; a backslash must not be the last character. -/
def ofText? : List Char → Option (List Token)
  | [] => some []
  | ['\\'] => none
  | '\\' :: c :: rest => (ofText? rest).map (.escaped c :: ·)
  | c :: rest => (ofText? rest).map (.plain c :: ·)

/-- The character of a token without a backslash. -/
def plain? : Token → Option Char
  | plain c => some c
  | escaped _ => none

/-- Whether a token is a character with a property. -/
def fits (p : Char → Bool) (t : Token) : Bool := t.plain?.any p

/-- The characters with a property at the front, at most `most` of them, and the rest. -/
def span (p : Char → Bool) (most : Nat) (ts : List Token) : List Char × List Token :=
  let taken := (ts.take most).takeWhile (fits p)
  (taken.filterMap plain?, ts.drop taken.length)

/-- The characters up to a mark, and what follows the mark: none, if there is no character or a
backslash among them. -/
def until? (mark : Char) (ts : List Token) : Option (List Char × List Token) :=
  match span (· ≠ mark) ts.length ts with
  | (c :: cs, .plain _ :: rest) => some (c :: cs, rest)
  | _ => none

end Token

/-! ## Escapes -/

/-- The largest code point. -/
def maxCode : Nat := 0x10FFFF

/-- The code points of letters after a backslash, where they are controls. -/
def controlLetters : List (Char × Nat) :=
  [('a', 7), ('f', 12), ('n', 10), ('r', 13), ('t', 9), ('v', 11)]

/-- The number of hexadecimal digits after a letter and a backslash. -/
def hexLetters : List (Char × Nat) := [('x', 2), ('u', 4), ('U', 8)]

/-- The families of letters after a backslash. -/
def familyLetters : List (Char × ClassItem) :=
  [('d', .family .digit true), ('D', .family .digit false), ('s', .family .blank true),
   ('S', .family .blank false), ('w', .family .word true), ('W', .family .word false)]

/-- Whether a character is an octal digit. -/
def isOctal (c : Char) : Bool := '0' ≤ c && c ≤ '7'

/-- The code point that is written with octal digits, if it has an octet. -/
def ofOctal? (digits : List Char) : Option Nat :=
  let n := Nat.ofDigitChars 8 digits 0
  if n ≤ 0xFF then some n else none

/-- The code point that an escape stands for, after its first character: a control, a code point
in hexadecimal digits, or a character that is no letter and no digit. -/
def escapedCode? (c : Char) (rest : List Token) : Option (Nat × List Token) :=
  match controlLetters.lookup c, hexLetters.lookup c with
  | some n, _ => some (n, rest)
  | none, some count => do
    let (digits, rest) := Token.span (hexDigit? · |>.isSome) count rest
    let n ← ofHex? digits
    if digits.length = count ∧ n ≤ maxCode then some (n, rest) else none
  | none, none => if c.isAlphanum then none else some (c.toNat, rest)

/-! ## Classes -/

/-- Reads one item of a class, no range: a code point or a family. -/
def classItem? (t : Token) (rest : List Token) : Option ((Nat ⊕ ClassItem) × List Token) :=
  match t with
  | .plain c => some (.inl c.toNat, rest)
  | .escaped 'b' => some (.inl 8, rest)
  | .escaped c =>
    match familyLetters.lookup c with
    | some f => some (.inr f, rest)
    | none =>
      if isOctal c then
        let (digits, rest) := Token.span isOctal 2 rest
        (ofOctal? (c :: digits)).map (.inl ·, rest)
      else (escapedCode? c rest).map fun p => (.inl p.1, p.2)

/-- The item of a class that a single thing is. -/
def toItem : Nat ⊕ ClassItem → ClassItem
  | .inl n => .range n n
  | .inr f => f

/-- The range between two things, which must be code points in order. -/
def range? : Nat ⊕ ClassItem → Nat ⊕ ClassItem → Option ClassItem
  | .inl first, .inl last => if first ≤ last then some (.range first last) else none
  | _, _ => none

/-- Reads the items of a class up to its closing bracket, after the items `taken`. -/
def classItems? : (fuel : Nat) → (taken : List ClassItem) → List Token →
    Option (List ClassItem × List Token)
  | 0, _, _ | _, _, [] => none
  | fuel + 1, taken, t :: rest =>
    if t = .plain ']' ∧ taken ≠ [] then some (taken, rest)
    else do
      let (low, rest) ← classItem? t rest
      match rest with
      | .plain '-' :: .plain ']' :: rest => return (.range 0x2D 0x2D :: toItem low :: taken, rest)
      | .plain '-' :: u :: rest => do
        let (high, rest) ← classItem? u rest
        classItems? fuel ((← range? low high) :: taken) rest
      | rest => classItems? fuel (toItem low :: taken) rest

/-- Reads a class after its opening bracket. -/
def charClass? (ts : List Token) : Option (CharClass × List Token) := do
  let (isNegated, ts) := match ts with
    | .plain '^' :: rest => (true, rest)
    | ts => (false, ts)
  let (items, rest) ← classItems? (ts.length + 1) [] ts
  return ({ items := items.reverse, isNegated }, rest)

/-! ## Flags -/

namespace Flags

/-- Sets a flag by its letter. -/
def set (flags : Flags) (value : Bool) : Char → Flags
  | 'i' => { flags with ignoresCase := value }
  | 'm' => { flags with isLinewise := value }
  | 's' => { flags with takesLineFeeds := value }
  | 'x' => { flags with isSpaced := value }
  | 'a' => { flags with isAscii := value }
  | 'u' => { flags with isAscii := !value }
  | _ => flags

/-- The letters of flags. -/
def letters : List Char := "imsxau".toList

/-- The letters of flags that cannot be unset. -/
def firmLetters : List Char := ['a', 'u']

end Flags

/-- Reads letters of flags: those to set, those to unset, and the mark that follows them, which is
a colon or a closing parenthesis. -/
def flagLetters? (ts : List Token) : Option (List Char × List Char × Char × List Token) :=
  match Token.span Flags.letters.contains ts.length ts with
  | (on, .plain '-' :: rest) =>
    match Token.span Flags.letters.contains rest.length rest with
    | (off, .plain ':' :: rest) =>
      if off.isEmpty || off.any (fun c => Flags.firmLetters.contains c || on.contains c) then none
      else some (on, off, ':', rest)
    | _ => none
  | (on, .plain c :: rest) =>
    if (c = ':' ∨ c = ')') ∧ !on.isEmpty then some (on, [], c, rest) else none
  | _ => none

/-! ## Repetitions -/

/-- The most rounds that can be asked for, and one. -/
def roundLimit : Nat := 4294967295

/-- The least and the greatest number of rounds, as they stand in braces: the rest is what follows
the closing brace.  Braces with anything else in them stand for themselves. -/
def bounds? (ts : List Token) : Option ((List Char × List Char) × List Token) :=
  if ts.head? = some (.plain '\x7d') then none
  else
    let (low, ts) := Token.span Char.isDigit ts.length ts
    let (high, ts) := match ts with
      | .plain ',' :: rest => Token.span Char.isDigit rest.length rest
      | ts => (low, ts)
    match ts with
    | .plain '\x7d' :: rest => some ((low, high), rest)
    | _ => none

/-- The number of some digits, if there are any. -/
def count? (digits : List Char) : Option Nat :=
  if digits.isEmpty then none else some (Nat.ofDigitChars 10 digits 0)

/-- The manner that a mark after a repetition stands for. -/
def manner : List Token → Manner × List Token
  | .plain '?' :: rest => (.reluctant, rest)
  | .plain '+' :: rest => (.stubborn, rest)
  | rest => (.eager, rest)

/-! ## The reader -/

/-- **What a group is for.** -/
inductive Opening where
  /-- The pattern as a whole. -/
  | whole
  /-- Nothing else. -/
  | plain
  /-- To remember what it takes. -/
  | kept (n : Nat)
  /-- To stick to the first part. -/
  | first
  /-- To look to the right. -/
  | ahead (wanted : Bool)
  /-- To look to the left; `count` groups were opened before. -/
  | behind (wanted : Bool) (count : Nat)
  /-- To choose by what is remembered. -/
  | whether (n : Nat)
  deriving DecidableEq, Repr

/-- **An open group.** -/
structure Frame where
  /-- What it is for. -/
  opening : Opening
  /-- The flags inside. -/
  flags : Flags
  /-- The choices that were read, the last one first. -/
  choices : List Pattern := []
  /-- What was read of the next choice, the last thing first, and what can be repeated of it. -/
  things : List (Pattern × Bool) := []

namespace Frame

/-- The choice that is being read. -/
def choice (f : Frame) : Pattern :=
  match f.things.map (·.1) with
  | [] => .empty
  | last :: others => others.foldl (fun rest p => .seq p rest) last

/-- The pattern of the group. -/
def pattern (f : Frame) : Pattern :=
  f.choices.foldl (fun rest choice => .either choice rest) f.choice

/-- The frame after one thing more. -/
def add (f : Frame) (p : Pattern) (isRepeatable : Bool := true) : Frame :=
  { f with things := (p, isRepeatable) :: f.things }

/-- The frame at the start of another choice. -/
def next (f : Frame) : Frame := { f with choices := f.choice :: f.choices, things := [] }

/-- The frame after one of the edges. -/
def addEdge (f : Frame) (holds : List Char → List Char → Bool) : Frame := f.add (.edge holds) false

/-- The frame after a class of characters. -/
def addClass (f : Frame) (k : CharClass) : Frame := f.add (.one (k.holds f.flags))

end Frame

/-- **A reader.** -/
structure Reader where
  /-- The innermost open group. -/
  frame : Frame
  /-- The groups around it, from the inside to the outside. -/
  outer : List Frame := []
  /-- The widths of the groups that remember something; none if still open. -/
  widths : List (Option Pattern.Width) := []
  /-- The numbers of groups by their names. -/
  names : List (List Char × Nat) := []
  /-- The numbers of groups that choices depend on. -/
  tests : List Nat := []

namespace Reader

/-- The reader after one thing more. -/
def add (r : Reader) (p : Pattern) (isRepeatable : Bool := true) : Reader :=
  { r with frame := r.frame.add p isRepeatable }

/-- The flags at this point. -/
def flags (r : Reader) : Flags := r.frame.flags

/-! ### Edges -/

/-- Whether a place starts a text, or a line of it. -/
def isStart (flags : Flags) (before _after : List Char) : Bool :=
  before.isEmpty || flags.isLinewise && before.head? == some '\n'

/-- Whether a place ends a text, or stands before a line feed that does, or ends a line of it. -/
def isEnd (flags : Flags) (_before after : List Char) : Bool :=
  after.isEmpty || after == ['\n'] || flags.isLinewise && after.head? == some '\n'

/-- Whether words start or end at a place of a text that is not empty, or whether they do not. -/
def isWordEdge (flags : Flags) (wanted : Bool) (before after : List Char) : Bool :=
  let isInWord (c? : Option Char) := c?.any fun c => Family.word.holds flags c
  !(before.isEmpty && after.isEmpty) && (isInWord before.head? != isInWord after.head?) == wanted

/-! ### Groups -/

/-- Opens a group. -/
def openGroup (r : Reader) (opening : Opening) (flags : Flags) : Reader :=
  { r with frame := { opening, flags }, outer := r.frame :: r.outer }

/-- Opens a group that remembers what it takes, perhaps under a name. -/
def openKept (r : Reader) (name? : Option (List Char)) : Reader :=
  let n := r.widths.length + 1
  { r.openGroup (.kept n) r.flags with
    widths := r.widths ++ [none]
    names := (name?.map (·, n)).toList ++ r.names }

/-- The number of groups before the outermost look to the left. -/
def behindCount? (r : Reader) : Option Nat :=
  (r.frame :: r.outer).reverse.findSome? fun f =>
    match f.opening with
    | .behind _ count => some count
    | _ => none

/-- The width of a group that is closed. -/
def widthOf? (r : Reader) (n : Nat) : Option Pattern.Width :=
  if n = 0 then none else (r.widths[n - 1]?).join

/-- Whether a look to the left forbids to speak of a group: one that it holds itself. -/
def isInSight (r : Reader) (n : Nat) : Bool :=
  match r.behindCount? with
  | none => true
  | some count => (r.widthOf? n).isSome && n ≤ count

/-- Takes what a group took. -/
def addAgain? (r : Reader) (n : Nat) : Option Reader :=
  if (r.widthOf? n).isSome ∧ r.isInSight n then some (r.add (.again n r.flags.same)) else none

/-- Closes a group. -/
def close? (r : Reader) : Option Reader :=
  match r.outer with
  | [] => none
  | frame :: outer =>
    let p := r.frame.pattern
    let width := p.width fun n => (r.widthOf? n).getD (.exactly 0)
    let r' := { r with frame, outer }
    match r.frame.opening with
    | .whole => none
    | .plain => some (r'.add p)
    | .kept n => some { r'.add (.kept n p) with widths := r.widths.set (n - 1) (some width) }
    | .first => some (r'.add (.first p))
    | .ahead wanted => some (r'.add (.ahead wanted p))
    | .behind wanted _ => width.fixed?.map fun w => r'.add (.behind wanted w p)
    | .whether n =>
      match r.frame.choices with
      | [] => some (r'.add (.whether n p .empty))
      | [yes] => some (r'.add (.whether n yes r.frame.choice))
      | _ => none

/-! ### Escapes and repetitions -/

/-- A number of a group, or a character in octal digits, by the digits after a backslash. -/
def addDigits? (r : Reader) (c : Char) (rest : List Token) : Option (Reader × List Token) :=
  let addCode (n : Nat) := { r with frame := r.frame.addClass (.single n) }
  if c = '0' then
    let (digits, rest) := Token.span isOctal 2 rest
    (ofOctal? digits).map fun n => (addCode n, rest)
  else
    match c :: (Token.span isOctal 2 rest).1 with
    | [a, b, d] =>
      if isOctal a then (ofOctal? [a, b, d]).map fun n => (addCode n, rest.drop 2)
      else (r.addAgain? (Nat.ofDigitChars 10 [a, b] 0)).map (·, rest.drop 1)
    | _ =>
      let (digits, rest) := Token.span Char.isDigit 1 rest
      (r.addAgain? (Nat.ofDigitChars 10 (c :: digits) 0)).map (·, rest)

/-- Reads an escape after its backslash and the character `c`. -/
def escape? (r : Reader) (c : Char) (rest : List Token) : Option (Reader × List Token) :=
  let edge (holds : List Char → List Char → Bool) := { r with frame := r.frame.addEdge holds }
  match c with
  | 'A' => some (edge fun before _ => before.isEmpty, rest)
  | 'Z' => some (edge fun _ after => after.isEmpty, rest)
  | 'b' => some (edge (isWordEdge r.flags true), rest)
  | 'B' => some (edge (isWordEdge r.flags false), rest)
  | c =>
    match familyLetters.lookup c with
    | some f => some ({ r with frame := r.frame.addClass { items := [f] } }, rest)
    | none =>
      if c.isDigit then r.addDigits? c rest
      else (escapedCode? c rest).map fun p =>
        ({ r with frame := r.frame.addClass (.single p.1) }, p.2)

/-- Repeats the last thing. -/
def repeat? (r : Reader) (least : Nat) (most : Option Nat) (rest : List Token) :
    Option (Reader × List Token) :=
  match r.frame.things with
  | (p, true) :: things =>
    let (manner, rest) := manner rest
    let thing := (Pattern.repeated p least most manner, false)
    some ({ r with frame := { r.frame with things := thing :: things } }, rest)
  | _ => none

/-- Reads braces after the opening one. -/
def braces? (r : Reader) (rest : List Token) : Option (Reader × List Token) :=
  match bounds? rest with
  | none => some ({ r with frame := r.frame.addClass (.single 0x7B) }, rest)
  | some ((low, high), rest) =>
    let least := (count? low).getD 0
    let most := count? high
    if roundLimit ≤ least || most.any (fun m => roundLimit ≤ m || m < least) then none
    else r.repeat? least most rest

/-! ### What follows an open parenthesis and a question mark -/

/-- Whether a text can be the name of a group. -/
def isName (cs : List Char) : Bool :=
  cs.all isWord && cs.head?.all fun c => !isDigit c

/-- The number of a group, by its name or its digits. -/
def number? (r : Reader) (cs : List Char) : Option Nat :=
  if isName cs then r.names.lookup cs
  else if cs.all Char.isDigit then (count? cs).filter (· ≠ 0)
  else none

/-- Opens a group with flags, or sets the flags of the whole pattern, at its start. -/
def addFlags? (r : Reader) (ts : List Token) : Option (Reader × List Token) := do
  let (on, off, mark, rest) ← flagLetters? ts
  if Flags.firmLetters.all on.contains then failure
  let flags := off.foldl (·.set false) (on.foldl (·.set true) r.flags)
  if mark = ':' then return (r.openGroup .plain flags, rest)
  if r.outer.isEmpty && r.frame.choices.isEmpty && r.frame.things.isEmpty
  then return ({ r with frame := { r.frame with flags } }, rest)
  failure

/-- Reads a group after its parenthesis and a question mark. -/
def extension? (r : Reader) (ts : List Token) : Option (Reader × List Token) :=
  match ts with
  | .plain ':' :: rest => some (r.openGroup .plain r.flags, rest)
  | .plain '>' :: rest => some (r.openGroup .first r.flags, rest)
  | .plain '=' :: rest => some (r.openGroup (.ahead true) r.flags, rest)
  | .plain '!' :: rest => some (r.openGroup (.ahead false) r.flags, rest)
  | .plain '<' :: .plain '=' :: rest =>
    some (r.openGroup (.behind true r.widths.length) r.flags, rest)
  | .plain '<' :: .plain '!' :: rest =>
    some (r.openGroup (.behind false r.widths.length) r.flags, rest)
  | .plain '#' :: rest =>
    match rest.dropWhile (· ≠ .plain ')') with
    | _ :: rest => some (r, rest)
    | [] => none
  | .plain 'P' :: .plain '<' :: rest => do
    let (name, rest) ← Token.until? '>' rest
    if isName name ∧ (r.names.lookup name).isNone then some (r.openKept name, rest) else none
  | .plain 'P' :: .plain '=' :: rest => do
    let (name, rest) ← Token.until? ')' rest
    let r ← r.addAgain? (← r.names.lookup name)
    return (r, rest)
  | .plain '(' :: rest => do
    let (name, rest) ← Token.until? ')' rest
    let n ← r.number? name
    if r.isInSight n
    then some ({ r.openGroup (.whether n) r.flags with tests := n :: r.tests }, rest)
    else none
  | ts => r.addFlags? ts

/-! ### Reading -/

/-- The blanks in a pattern that say nothing, where the flags say so. -/
def isIdle (flags : Flags) (c : Char) : Bool := flags.isSpaced && asciiBlanks.contains c

/-- **One step**: reads one thing more. -/
def step? (r : Reader) (t : Token) (rest : List Token) : Option (Reader × List Token) :=
  match t with
  | .escaped c => r.escape? c rest
  | .plain c =>
    if isIdle r.flags c then some (r, rest)
    else match c with
      | '|' => some ({ r with frame := r.frame.next }, rest)
      | ')' => r.close?.map (·, rest)
      | '(' =>
        match rest with
        | .plain '?' :: rest => r.extension? rest
        | rest => some (r.openKept none, rest)
      | '[' => (charClass? rest).map fun p => ({ r with frame := r.frame.addClass p.1 }, p.2)
      | '*' => r.repeat? 0 none rest
      | '+' => r.repeat? 1 none rest
      | '?' => r.repeat? 0 (some 1) rest
      | '\x7b' => r.braces? rest
      | '.' => some ({ r with frame := r.frame.addClass (.point r.flags) }, rest)
      | '^' => some ({ r with frame := r.frame.addEdge (isStart r.flags) }, rest)
      | '$' => some ({ r with frame := r.frame.addEdge (isEnd r.flags) }, rest)
      | c =>
        if r.flags.isSpaced ∧ c = '#' then some (r, rest.dropWhile (· ≠ .plain '\n'))
        else some ({ r with frame := r.frame.addClass (.single c.toNat) }, rest)

/-- Reads to the end; every step takes a token. -/
def run? : (fuel : Nat) → Reader → List Token → Option Reader
  | _, r, [] => some r
  | 0, _, _ => none
  | fuel + 1, r, t :: rest => do
    let (r, rest) ← r.step? t rest
    run? fuel r rest

/-- The pattern that was read: no group is open, and those that choices depend on are there. -/
def pattern? (r : Reader) : Option Pattern :=
  if r.outer.isEmpty ∧ r.tests.all (· ≤ r.widths.length) then some r.frame.pattern else none

end Reader

/-- **Reading a pattern.** -/
def Pattern.ofText? (flags : Flags) (cs : List Char) : Option Pattern := do
  let tokens ← Token.ofText? cs
  let r ← Reader.run? tokens.length { frame := { opening := .whole, flags } } tokens
  r.pattern?

end RegexCompiler.Text
