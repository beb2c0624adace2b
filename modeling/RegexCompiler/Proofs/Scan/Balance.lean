import Mathlib.Data.List.Chain
import RegexCompiler.Proofs.Compile.Basic

/-!
# The stacks of a scan are balanced

Wherever a scan stands, each operator that waits has its left operand on the stack, and the operand
that ends directly before the next character is there besides (`Scan.Balanced`).  The same holds of
each open group for itself: above its sign lie the operators and operands of its own text, and what
lies below has not been touched since its `(` was read (`Scan.Holds`, `Scan.Opened`).  Between two
signs the operators bind tighter from the bottom to the top, so there are at most two.

All of this is read off the frames of a scan (`Reading.toScan`).  It follows that no reduction runs
short (`stacks_suffice`).
-/

namespace RegexCompiler

namespace Scan

/-- The number of operators on a stack, the signs of groups apart. -/
def binaries (operators : List Pending) : Nat := operators.countP (· ≠ .group)

/-- **Balanced stacks.** -/
structure Balanced (s : Scan) : Prop where
  /-- There is an operand for each operator, and one more if an operand was just read. -/
  length_operands : s.operands.length = binaries s.operators + s.ready.toNat
  /-- There is a sign for each open group. -/
  count_group : s.operators.count .group = s.depth
  /-- Operators with no sign between them bind tighter the higher they lie. -/
  ascending : ∀ (above : List Pending) (block : List Binary) (below : List Pending),
    s.operators = above ++ (block.map .operator ++ below) →
    (block.map Binary.precedence).Pairwise (· > ·)
  /-- There are at most two operators for each group, and two outside of all groups. -/
  length_operators : s.operators.length ≤ 3 * s.depth + 2

/-- **What an open group has of the stacks**: the operators `above` its sign and the operands `own`
above those that were there before it.  They are balanced by themselves, and whatever is reduced is
reduced among them. -/
structure Holds (s : Scan) (above below : List Pending) (own outside : List Expr) : Prop where
  /-- The sign lies between. -/
  operators_eq : s.operators = above ++ .group :: below
  /-- So do the operands of the group and those outside of it. -/
  operands_eq : s.operands = own ++ outside
  /-- The group has an operand for each of its operators, and one more if one was just read. -/
  length_own : own.length = binaries above + s.ready.toNat
  /-- Reductions take nothing from below. -/
  reduce : s.ready = true → ∀ p, ∃ operators operands,
    reduceWhile p above own = .ok (operators, operands) ∧
    reduceWhile p s.operators s.operands =
      .ok (operators ++ .group :: below, operands ++ outside)

/-- **A group that stays open**: opened by the `(` between the texts `before` and `inside`, with
these operators and operands below it, and not closed in `inside`. -/
structure Opened (before inside : List Char) (below : List Pending) (outside : List Expr) :
    Prop where
  /-- At first the group has nothing. -/
  start : ∃ s, advance {} 0 (before ++ ['(']) = .ok s ∧ s.Holds [] below [] outside
  /-- Each operator below has its left operand outside. -/
  length_outside : outside.length = binaries below
  /-- After every character of `inside` the same lies below and outside. -/
  kept : ∀ part, part <+: inside → ∃ s above own,
    advance {} 0 (before ++ '(' :: part) = .ok s ∧ s.Holds above below own outside

/-- **No stack runs short**, whatever is read next. -/
structure Supplied (s : Scan) : Prop where
  /-- The next character is read or refused. -/
  step : ∀ i c, (∃ t, s.step i c = .ok t) ∨ ∃ error, s.step i c = .error (.refused error)
  /-- At a `)` the reductions end at the sign of the group, with its one operand on top. -/
  close : s.ready = true → 0 < s.depth → ∃ e operators operands,
    reduceWhile (fun _ => true) s.operators s.operands = .ok (.group :: operators, e :: operands)
  /-- At the end they leave one operand and nothing else. -/
  drain : s.ready = true → s.depth = 0 → ∃ e,
    reduceWhile (fun _ => true) s.operators s.operands = .ok ([], [e]) ∧
    ∀ length, s.finish length = .ok e

/-- Operators are counted part by part. -/
@[simp] theorem binaries_append (xs ys : List Pending) :
    binaries (xs ++ ys) = binaries xs + binaries ys := List.countP_append

end Scan

open Scan (binaries reduceWhile)

/-! ## Frames on the stacks -/

/-- Whether `x` may lie on `y` on a stack of operators: of two operators, the upper one binds
tighter. -/
def Pending.LiesOn : (x y : Pending) → Prop
  | .operator o, .operator o' => o'.precedence < o.precedence
  | _, _ => True

namespace Frame

/-- A frame has an operand for each of its operators. -/
@[simp] theorem binaries_operators (f : Frame) : binaries f.operators = f.operands.length := by
  obtain ⟨alternatives, chain⟩ := f
  cases alternatives <;> cases chain <;> rfl

/-- No sign of a group lies inside a frame. -/
theorem group_not_mem_operators (f : Frame) : Pending.group ∉ f.operators := by
  simp [operators]

/-- A frame has two operators at most, one of each kind. -/
theorem length_operators_le (f : Frame) : f.operators.length ≤ 2 := by
  obtain ⟨alternatives, chain⟩ := f
  cases alternatives <;> cases chain <;> simp [operators]

/-- In a frame, juxtaposition lies on the union. -/
theorem isChain_operators (f : Frame) : f.operators.IsChain Pending.LiesOn := by
  obtain ⟨alternatives, chain⟩ := f
  cases alternatives <;> cases chain <;> simp [operators, Pending.LiesOn, Binary.precedence]

end Frame

namespace Reading

/-- The outer frames have an operand for each of their operators. -/
@[simp] theorem binaries_outerOperators (outer : List Frame) :
    binaries (outerOperators outer) = (outerOperands outer).length := by
  induction outer with
  | nil => rfl
  | cons f outer ih =>
      show binaries ([.group] ++ (f.operators ++ outerOperators outer)) =
        (f.operands ++ outerOperands outer).length
      rw [Scan.binaries_append, Scan.binaries_append, ih, Frame.binaries_operators,
        List.length_append]
      exact Nat.zero_add _

/-- There is one sign of a group for each outer frame. -/
theorem count_group_outerOperators (outer : List Frame) :
    (outerOperators outer).count .group = outer.length := by
  induction outer with
  | nil => rfl
  | cons f outer ih =>
      rw [outerOperators, List.count_cons_self, List.count_append,
        List.count_eq_zero.mpr f.group_not_mem_operators, ih, Nat.zero_add, List.length_cons]

/-- An outer frame has three entries at most, its sign included. -/
theorem length_outerOperators_le (outer : List Frame) :
    (outerOperators outer).length ≤ 3 * outer.length := by
  induction outer with
  | nil => exact Nat.zero_le _
  | cons f outer ih =>
      have hframe := f.length_operators_le
      simp only [outerOperators, List.length_cons, List.length_append]
      omega

/-- Operators of one frame lie on the sign of the next group. -/
theorem isChain_append_outerOperators (f : Frame) (outer : List Frame) :
    (f.operators ++ outerOperators outer).IsChain Pending.LiesOn := by
  induction outer generalizing f with
  | nil =>
      rw [outerOperators, List.append_nil]
      exact f.isChain_operators
  | cons g outer ih =>
      refine f.isChain_operators.append ((ih g).cons ?_) ?_
      · intro x _
        trivial
      · intro x _ y hy
        obtain rfl := Option.some.inj hy
        cases x <;> trivial

/-- **The stacks of a reading are balanced.** -/
theorem balanced_toScan (r : Reading) : r.toScan.Balanced where
  length_operands := by
    show (r.item.toList ++ (r.frame.operands ++ outerOperands r.outer)).length =
      binaries (r.frame.operators ++ outerOperators r.outer) + r.item.isSome.toNat
    cases r.item <;> simp [Nat.add_comm]
  count_group := by
    show (r.frame.operators ++ outerOperators r.outer).count .group = r.outer.length
    rw [List.count_append, List.count_eq_zero.mpr r.frame.group_not_mem_operators,
      count_group_outerOperators, Nat.zero_add]
  ascending := by
    intro above block below h
    have hchain := isChain_append_outerOperators r.frame r.outer
    change r.frame.operators ++ outerOperators r.outer = _ at h
    rw [h] at hchain
    have hblock := (List.isChain_map _).mp hchain.right_of_append.left_of_append
    have hascends : (block.map Binary.precedence).IsChain (· > ·) := (List.isChain_map _).mpr hblock
    exact List.isChain_iff_pairwise.mp hascends
  length_operators := by
    have hframe := r.frame.length_operators_le
    have houter := length_outerOperators_le r.outer
    show (r.frame.operators ++ outerOperators r.outer).length ≤ 3 * r.outer.length + 2
    rw [List.length_append]
    omega

/-! ## What an open group has -/

/-- The stack of some frames on others is their stacks, one on the other. -/
theorem outerOperators_append (inner outer : List Frame) :
    outerOperators (inner ++ outer) = outerOperators inner ++ outerOperators outer := by
  induction inner with
  | nil => rfl
  | cons f inner ih => simp [outerOperators, ih]

/-- What stands in front of a mark, where the first part of the text does not hold it. -/
theorem exists_append_of_append_eq {α : Type} {c : α} {xs ys as bs : List α} (hxs : c ∉ xs)
    (h : xs ++ ys = as ++ c :: bs) : ∃ zs, as = xs ++ zs ∧ ys = zs ++ c :: bs := by
  obtain ⟨zs, has, hys⟩ | ⟨zs, hparts, hrest⟩ := List.append_eq_append_iff.mp h
  · exact ⟨zs, has, hys⟩
  · cases zs with
    | nil => exact ⟨[], by simpa using hparts.symm, hrest.symm⟩
    | cons z zs =>
        obtain ⟨rfl, -⟩ := List.cons.inj hrest
        exact absurd (hparts ▸ by simp) hxs

/-- A sign on the stack is that of a group. -/
theorem exists_outer_of_append_eq {f : Frame} {outer : List Frame} {above below : List Pending}
    (h : f.operators ++ outerOperators outer = above ++ .group :: below) :
    ∃ inner g rest, outer = inner ++ g :: rest ∧ above = f.operators ++ outerOperators inner ∧
      below = g.operators ++ outerOperators rest := by
  induction outer generalizing f above with
  | nil =>
      have hmem : Pending.group ∈ f.operators ++ outerOperators [] := by simp [h]
      rw [outerOperators, List.append_nil] at hmem
      exact absurd hmem f.group_not_mem_operators
  | cons g outer ih =>
      obtain ⟨middle, rfl, hmiddle⟩ := exists_append_of_append_eq f.group_not_mem_operators h
      -- the sign that is found is that of the next group, or it lies below it
      cases middle with
      | nil =>
          obtain ⟨-, rfl⟩ := List.cons.inj hmiddle
          exact ⟨[], g, outer, rfl, by simp [outerOperators], rfl⟩
      | cons x middle =>
          obtain ⟨rfl, hrest⟩ := List.cons.inj hmiddle
          obtain ⟨inner, g', rest, rfl, rfl, rfl⟩ := ih hrest
          exact ⟨g :: inner, g', rest, rfl, rfl, rfl⟩

/-- **Reductions keep to their own.**  A reduction that ends well does the same above operators that
stop it, and takes nothing from the operands below. -/
theorem reduceWhile_append {p : Binary → Bool} {operators below operators' : List Pending}
    {operands operands' : List Expr} (hstop : ∀ es, reduceWhile p below es = .ok (below, es))
    (outside : List Expr) (h : reduceWhile p operators operands = .ok (operators', operands')) :
    reduceWhile p (operators ++ below) (operands ++ outside) =
      .ok (operators' ++ below, operands' ++ outside) := by
  fun_induction reduceWhile p operators operands with
  | case1 operators op hop r l rest ih =>
      simpa [reduceWhile, hop] using ih h
  | case2 => cases h
  | case3 operators operands op hop =>
      cases h
      simp [reduceWhile, hop]
  | case4 operators operands hne =>
      cases h
      cases operators' with
      | nil => exact hstop _
      | cons x operators =>
          cases x with
          | group => rfl
          | operator op => exact (hne op operators rfl).elim

/-- Reductions inside one frame end well. -/
theorem exists_reduceWhile (p : Binary → Bool) (f : Frame) (e : Expr) :
    ∃ operators operands, reduceWhile p f.operators (e :: f.operands) =
      .ok (operators, operands) := by
  obtain ⟨alternatives, chain⟩ := f
  cases chain <;> cases alternatives <;>
    by_cases hconcat : p .concat <;> by_cases hunion : p .union <;>
    simp [Frame.operators, Frame.operands, reduceWhile, hconcat, hunion]

/-- **What a group has of the stacks of a reading**: what the frames inside of it have. -/
theorem holds_toScan (item : Option Expr) (f g : Frame) (inner outer : List Frame) :
    (toScan ⟨item, f, inner ++ g :: outer⟩).Holds (f.operators ++ outerOperators inner)
      (g.operators ++ outerOperators outer) (item.toList ++ (f.operands ++ outerOperands inner))
      (outerOperands (g :: outer)) := by
  have hoperators : (toScan ⟨item, f, inner ++ g :: outer⟩).operators =
      (f.operators ++ outerOperators inner) ++ .group :: (g.operators ++ outerOperators outer) := by
    simp [toScan, outerOperators_append, outerOperators]
  have hoperands : (toScan ⟨item, f, inner ++ g :: outer⟩).operands =
      (item.toList ++ (f.operands ++ outerOperands inner)) ++ outerOperands (g :: outer) := by
    simp [toScan, outerOperands]
  refine ⟨hoperators, hoperands, ?_, ?_⟩
  · show _ = _ + item.isSome.toNat
    cases item <;> simp [Nat.add_comm]
  · intro hready p
    obtain ⟨e, rfl⟩ := Option.isSome_iff_exists.mp hready
    obtain ⟨operators, operands, hframe⟩ := exists_reduceWhile p f e
    -- the frame lies on the frames inside of the group, and these lie on the sign
    have hown :=
      reduceWhile_append (reduceWhile_outerOperators p inner) (outerOperands inner) hframe
    refine ⟨_, _, hown, ?_⟩
    rw [hoperators, hoperands]
    exact reduceWhile_append (fun _ => rfl) _ hown

/-! ## How long a group is open -/

/-- A run that ends well has come to its last character, and has read it. -/
theorem advance_concat_eq_ok {r r' : Reading} {i : Nat} {cs : List Char} {c : Char}
    (h : r.advance i (cs ++ [c]) = .ok r') :
    ∃ next, r.advance i cs = .ok next ∧ next.step (i + cs.length) c = .ok r' := by
  rw [advance_append] at h
  cases hcs : r.advance i cs with
  | error error =>
      rw [hcs] at h
      cases h
  | ok next =>
      rw [hcs] at h
      exact ⟨next, rfl, by rwa [← advance_singleton]⟩

/-- What one character does to the groups: nothing, or it opens one, or it closes the innermost
one. -/
theorem outer_of_step {r r' : Reading} {i : Nat} {c : Char} (h : r.step i c = .ok r') :
    r'.outer = r.outer ∨ (c = '(' ∧ r' = ⟨none, {}, r.makeRoom.frame :: r.outer⟩) ∨
      ∃ g, r.outer = g :: r'.outer := by
  rw [step_eq_ok_iff] at h
  generalize htoken : Token.ofChar? c = token at h
  cases h with
  | pass => exact .inl rfl
  | symbol _ d => exact .inl (makeRoom_outer r)
  | opening => exact .inr (.inl ⟨(Token.char_eq_of_ofChar? htoken).symm, rfl⟩)
  | star e f outer => exact .inl rfl
  | bar e f outer => exact .inl rfl
  | closing e f g outer => exact .inr (.inr ⟨g, rfl⟩)

/-- **The text of an open group**: the group was opened behind `before`, with the frames `outer`
around it, and not closed in `inside`. -/
structure Inside (outer : List Frame) (before inside : List Char) : Prop where
  /-- At first the group has nothing. -/
  start : advance {} 0 (before ++ ['(']) = .ok ⟨none, {}, outer⟩
  /-- All through its text the frames around it are the same. -/
  kept : ∀ part, part <+: inside → ∃ t inner, advance {} 0 (before ++ '(' :: part) = .ok t ∧
    t.outer = inner ++ outer

/-- A group is opened. -/
theorem Inside.opening {cs : List Char} {outer : List Frame}
    (h : advance {} 0 (cs ++ ['(']) = .ok ⟨none, {}, outer⟩) : Inside outer cs [] where
  start := h
  kept := by
    intro part hpart
    obtain rfl := List.prefix_nil.mp hpart
    exact ⟨_, [], h, rfl⟩

/-- A group stays open. -/
theorem Inside.concat {before inside : List Char} {c : Char} {inner outer : List Frame}
    {r : Reading} (hinside : Inside outer before inside)
    (h : advance {} 0 (before ++ '(' :: (inside ++ [c])) = .ok r)
    (houter : r.outer = inner ++ outer) : Inside outer before (inside ++ [c]) where
  start := hinside.start
  kept := by
    intro part hpart
    obtain rfl | hpart := List.prefix_concat_iff.mp hpart
    · exact ⟨r, inner, h, houter⟩
    · exact hinside.kept part hpart

/-- **A frame of an outer group has its `(` in the text.** -/
theorem exists_inside {cs : List Char} {r : Reading} (h : advance {} 0 cs = .ok r)
    {inner outer : List Frame} {g : Frame} (houter : r.outer = inner ++ g :: outer) :
    ∃ before inside, cs = before ++ '(' :: inside ∧ Inside (g :: outer) before inside := by
  induction cs using List.reverseRecOn generalizing r inner with
  | nil =>
      cases h
      simp at houter
  | append_singleton cs c ih =>
      obtain ⟨next, hnext, hstep⟩ := advance_concat_eq_ok h
      -- a group that was open before the character has been open since its `(`
      have hopen : ∀ inner', next.outer = inner' ++ g :: outer →
          ∃ before inside, cs ++ [c] = before ++ '(' :: inside ∧
            Inside (g :: outer) before inside := by
        intro inner' hinner
        obtain ⟨before, inside, rfl, hinside⟩ := ih hnext hinner
        rw [List.append_assoc, List.cons_append] at h ⊢
        exact ⟨before, inside ++ [c], rfl, hinside.concat h houter⟩
      obtain hsame | ⟨rfl, rfl⟩ | ⟨f, hclosed⟩ := outer_of_step hstep
      · exact hopen inner (hsame ▸ houter)
      · cases inner with
        | nil =>
            obtain ⟨rfl, rfl⟩ := List.cons.inj houter
            exact ⟨cs, [], rfl, .opening h⟩
        | cons f inner => exact hopen inner (List.cons.inj houter).2
      · exact hopen (f :: inner) (by rw [hclosed, houter, List.cons_append])

/-- A scan stands where a reading does. -/
theorem scan_eq_ok_iff {cs : List Char} {s : Scan} :
    Scan.advance {} 0 cs = .ok s ↔ ∃ r, advance {} 0 cs = .ok r ∧ r.toScan = s := by
  rw [scan_eq_advance]
  cases advance {} 0 cs <;> simp [Except.map, Except.mapError]

/-- **A sign on the stack is that of a group that stays open.** -/
theorem exists_opened {cs : List Char} {r : Reading} (h : advance {} 0 cs = .ok r)
    {above below : List Pending} (hsign : r.toScan.operators = above ++ .group :: below) :
    ∃ before inside own outside, cs = before ++ '(' :: inside ∧
      r.toScan.Holds above below own outside ∧ Scan.Opened before inside below outside := by
  obtain ⟨item, f, outer⟩ := r
  obtain ⟨inner, g, outer, rfl, rfl, rfl⟩ := exists_outer_of_append_eq hsign
  obtain ⟨before, inside, rfl, hinside⟩ := exists_inside h rfl
  refine ⟨before, inside, _, outerOperands (g :: outer), rfl,
    holds_toScan item f g inner outer, ?_, ?_, ?_⟩
  · exact ⟨_, scan_eq_ok_iff.mpr ⟨_, hinside.start, rfl⟩, holds_toScan none {} g [] outer⟩
  · simp [outerOperands]
  · intro part hpart
    obtain ⟨⟨item, f, _⟩, inner', ht, rfl⟩ := hinside.kept part hpart
    exact ⟨_, _, _, scan_eq_ok_iff.mpr ⟨_, ht, rfl⟩, holds_toScan item f g inner' outer⟩

/-- **The stacks of a reading do not run short.** -/
theorem supplied_toScan (r : Reading) : r.toScan.Supplied where
  step := by
    intro i c
    rw [step_toScan]
    cases r.step i c with
    | error error => exact .inr ⟨error, rfl⟩
    | ok t => exact .inl ⟨t.toScan, rfl⟩
  close := by
    intro hready hdepth
    obtain ⟨item, f, outer⟩ := r
    obtain ⟨e, rfl⟩ := Option.isSome_iff_exists.mp hready
    cases outer with
    | nil => exact absurd hdepth (Nat.lt_irrefl 0)
    | cons g outer =>
        have hclose :=
          reduceWhile_close (fun _ => rfl) f e (g :: outer) (outerOperands (g :: outer))
        exact ⟨_, _, _, hclose⟩
  drain := by
    intro hready hdepth
    obtain ⟨item, f, outer⟩ := r
    obtain ⟨e, rfl⟩ := Option.isSome_iff_exists.mp hready
    obtain rfl := List.eq_nil_of_length_eq_zero hdepth
    refine ⟨f.close e, reduceWhile_close (fun _ => rfl) f e [] (outerOperands []), ?_⟩
    intro length
    exact finish_toScan ⟨some e, f, []⟩ length

end Reading

/-- **No stack of a scan runs short.**  After every character of any text the stacks are balanced,
as a whole and above the sign of every open group, from below which nothing has been taken since its
`(` was read; and whatever comes next, a character or the end, no reduction looks for more than is
there.  So reading a text gives an expression, or the parentheses do not match, or an operand is
missing, and nothing else can happen. -/
theorem stacks_suffice (cs : List Char) :
    (∀ s, Scan.advance {} 0 cs = .ok s → s.Balanced ∧ s.Supplied ∧
      ∀ above below, s.operators = above ++ .group :: below →
        ∃ before inside own outside, cs = before ++ '(' :: inside ∧
          s.Holds above below own outside ∧ Scan.Opened before inside below outside) ∧
    ((∃ s, Scan.advance {} 0 cs = .ok s) ∨
      ∃ error, Scan.advance {} 0 cs = .error (.refused error)) ∧
    ((∃ e, Expr.parse cs = .ok e) ∨ ∃ error, Expr.parse cs = .error (.refused error) ∧
      (error.kind = .unbalancedParentheses ∨ error.kind = .stackImbalance)) := by
  refine ⟨?_, ?_, ?_⟩
  · intro s hs
    obtain ⟨r, hr, rfl⟩ := Reading.scan_eq_ok_iff.mp hs
    refine ⟨r.balanced_toScan, r.supplied_toScan, ?_⟩
    intro above below hsign
    exact Reading.exists_opened hr hsign
  · rw [Reading.scan_eq_advance]
    cases Reading.advance {} 0 cs with
    | error error => exact .inr ⟨error, rfl⟩
    | ok r => exact .inl ⟨r.toScan, rfl⟩
  · obtain hread | ⟨error, hrefused⟩ := parse_total cs
    · exact .inl hread
    · exact .inr ⟨error, hrefused,
        Reading.isStructural_of_read (Reading.parse_eq_error_iff.mp hrefused)⟩

/-- A text behind which the stack of operators is as full as it can be. -/
theorem stacks_suffice_full :
    let s : Scan := {
      operands := [.literal "e", .literal "d", .literal "c", .literal "b", .literal "a"]
      operators := [.operator .concat, .operator .union, .group, .operator .concat,
        .operator .union]
      ready := true
      depth := 1 }
    Scan.advance {} 0 "a|b(c|de".toList = .ok s ∧ s.operators.length = 3 * s.depth + 2 ∧
      s.Balanced ∧ s.Supplied ∧
      ∃ before inside own outside, "a|b(c|de".toList = before ++ '(' :: inside ∧
        s.Holds [.operator .concat, .operator .union] [.operator .concat, .operator .union]
          own outside ∧
        Scan.Opened before inside [.operator .concat, .operator .union] outside := by
  intro s
  have hs : Scan.advance {} 0 "a|b(c|de".toList = .ok s := rfl
  obtain ⟨hbalanced, hsupplied, hgroups⟩ := (stacks_suffice "a|b(c|de".toList).1 s hs
  exact ⟨hs, rfl, hbalanced, hsupplied, hgroups _ _ rfl⟩

end RegexCompiler
