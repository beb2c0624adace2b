import RegexCompiler.Proofs.Automaton.Ends
import RegexCompiler.Proofs.Expr.Automaton
import RegexCompiler.Proofs.Expr.Context

/-!
# The parts of an expression in its automaton

The automaton of a part lies in the automaton of the whole, moved up by an offset that its context
alone determines (`Context.offset`).  Its transitions stand there in one piece, and the others enter
it at its first state and leave it from its last one (`Embeds`).

Each construction embeds its parts, and embeddings compose; the offsets add up along the context.
Where one part stands left of another one, its last state is not behind the first state of the
other (`Ahead`): in a union its states come before, and in a concatenation the two may share one.
-/

namespace RegexCompiler

/-! ## Embeddings -/

namespace Transition

/-- Whether a transition is outside a block of `n` states from `k` on: if it enters the block, then
at its first state, and if it leaves it, then from its last one. -/
def Outside (n k : Int) (t : Transition) : Prop :=
  (k ≤ t.source → t.source < k + n → t.source = k + n - 1) ∧
    (k ≤ t.target → t.target < k + n → t.target = k)

variable {t : Transition} {m n j k : Int}

/-- A silent transition is outside a block if it meets it in the right states only. -/
theorem outside_silent {p q : Int} (hp : k ≤ p → p < k + n → p = k + n - 1)
    (hq : k ≤ q → q < k + n → q = k) : (silent p q).Outside n k := ⟨hp, hq⟩

/-- What is outside a block is outside when both are moved up alike. -/
theorem Outside.shift (h : t.Outside n j) (k : Int) : (t.shift k).Outside n (j + k) := by
  unfold Outside at *
  rw [source_shift, target_shift]
  omega

/-- What is outside a block is outside every block in it. -/
theorem Outside.inner (h : t.Outside n k) (hj : 0 ≤ j) (hm : j + m ≤ n) :
    t.Outside m (j + k) := by
  unfold Outside at *
  omega

end Transition

namespace Automaton

/-- **Embeddings.**  `b` lies in `a`, moved up by `k`. -/
structure Embeds (b a : Automaton) (k : Int) : Prop where
  lower : 0 ≤ k
  upper : k + b.size ≤ a.size
  /-- The transitions of `b` stand in one piece; the others touch its first and last state only. -/
  segment : ∃ before after, a.transitions = before ++ b.shifted k ++ after ∧
    ∀ t ∈ before ++ after, t.Outside b.size k

/-- Whether `b`, moved up by `k`, ends before the state `p` or in it. -/
def Ahead (b : Automaton) (k p : Int) : Prop := k + b.size ≤ p ∨ k + b.size - 1 = p

variable {a b c : Automaton} {j k : Int}

/-- Moving up twice is moving up once, by both amounts. -/
theorem map_shift_shifted (a : Automaton) (j k : Int) :
    (a.shifted j).map (Transition.shift k) = a.shifted (j + k) := by
  simp [shifted, Transition.shift, Function.comp_def, Int.add_assoc]

namespace Embeds

/-- An automaton lies in itself. -/
theorem refl (a : Automaton) : a.Embeds a 0 := by
  refine ⟨le_refl 0, by omega, [], [], ?_, by simp⟩
  rw [shifted_zero, List.nil_append, List.append_nil]

/-- A part of a part is a part, moved up by both amounts. -/
theorem trans (h : c.Embeds b j) (h' : b.Embeds a k) : c.Embeds a (j + k) := by
  obtain ⟨hlower, hupper, before, after, hsegment, houtside⟩ := h
  obtain ⟨hlower', hupper', before', after', hsegment', houtside'⟩ := h'
  have hmoved : b.shifted k = before.map (Transition.shift k) ++ c.shifted (j + k) ++
      after.map (Transition.shift k) := by
    rw [shifted, hsegment, List.map_append, List.map_append, map_shift_shifted]
  have hinside : ∀ t ∈ (before ++ after).map (Transition.shift k), t.Outside c.size (j + k) := by
    intro t ht
    obtain ⟨t', ht', rfl⟩ := List.mem_map.mp ht
    exact (houtside t' ht').shift k
  refine ⟨by omega, by omega, before' ++ before.map (Transition.shift k),
    after.map (Transition.shift k) ++ after', ?_, ?_⟩
  · rw [hsegment', hmoved]
    simp only [List.append_assoc]
  · intro t ht
    have hcases : t ∈ before' ++ after' ∨ t ∈ (before ++ after).map (Transition.shift k) := by
      simp only [List.mem_append, List.map_append] at ht ⊢
      tauto
    rcases hcases with hfar | hnear
    · exact (houtside' t hfar).inner hlower hupper
    · exact hinside t hnear

end Embeds

/-! ## The parts of a construction -/

/-- A block that ends where another one begins, or before, is outside the other one; and so is one
that begins where the other one ends, or behind. -/
theorem Block.outside_shifted (ha : a.Block) {n : Int}
    (h : j + a.size - 1 ≤ k ∨ k + n - 1 ≤ j) {t : Transition} (ht : t ∈ a.shifted j) :
    t.Outside n k := by
  have hends := ha.ends_shifted ht
  unfold Transition.Outside
  omega

/-- A block lies in its repetition, moved up by one. -/
theorem embeds_starOf (ha : a.Block) : a.Embeds (a.starOf (a.size - 1)) 1 := by
  have hsize := ha.two_le
  refine ⟨by omega, ?_, [.silent 0 1], _, transitions_starOf_last a, ?_⟩
  · simp only [starOf]
    omega
  · intro t ht
    simp only [List.mem_append, List.mem_cons, List.not_mem_nil, or_false] at ht
    rcases ht with rfl | rfl | rfl | rfl <;>
      exact Transition.outside_silent (by omega) (by omega)

/-- The left part of a concatenation lies where it was. -/
theorem embeds_concatOf_left (hb : b.Block) (g : Int) : a.Embeds (a.concatOf b g) 0 := by
  have hsize := hb.two_le
  refine ⟨le_refl 0, ?_, [], b.shifted (a.size - 1), ?_, ?_⟩
  · simp only [concatOf]
    omega
  · rw [shifted_zero, List.nil_append]
    rfl
  · exact fun t ht => hb.outside_shifted (by omega) ht

/-- The right part of a concatenation begins in the last state of the left one. -/
theorem embeds_concatOf_right (ha : a.Block) (g : Int) :
    b.Embeds (a.concatOf b g) (a.size - 1) := by
  have hsize := ha.two_le
  refine ⟨by omega, ?_, a.transitions, [], ?_, ?_⟩
  · simp only [concatOf]
    omega
  · rw [List.append_nil]
    rfl
  · intro t ht
    rw [List.append_nil, ← shifted_zero] at ht
    exact ha.outside_shifted (by omega) ht

/-- The left part of a union lies behind the new initial state. -/
theorem embeds_unionOf_left (ha : a.Block) (hb : b.Block) :
    a.Embeds (a.unionOf b (a.size - 1) (b.size - 1)) 1 := by
  have hleft := ha.two_le
  have hright := hb.two_le
  refine ⟨by omega, ?_, [.silent 0 1], _, transitions_unionOf_last a b, ?_⟩
  · simp only [unionOf]
    omega
  · intro t ht
    simp only [List.mem_append, List.mem_cons, List.not_mem_nil, or_false] at ht
    rcases ht with rfl | rfl | rfl | ht | rfl
    · exact Transition.outside_silent (by omega) (by omega)
    · exact Transition.outside_silent (by omega) (by omega)
    · exact Transition.outside_silent (by omega) (by omega)
    · exact hb.outside_shifted (by omega) ht
    · exact Transition.outside_silent (by omega) (by omega)

/-- The right part of a union lies behind the left one. -/
theorem embeds_unionOf_right (ha : a.Block) (hb : b.Block) :
    b.Embeds (a.unionOf b (a.size - 1) (b.size - 1)) (a.size + 1) := by
  have hleft := ha.two_le
  have hright := hb.two_le
  refine ⟨by omega, ?_, .silent 0 1 :: (a.shifted 1 ++
    [.silent a.size (a.size + b.size + 1), .silent 0 (a.size + 1)]),
    [.silent (a.size + b.size) (a.size + b.size + 1)], ?_, ?_⟩
  · simp only [unionOf]
    omega
  · simp [transitions_unionOf_last]
  · intro t ht
    simp only [List.mem_append, List.mem_cons, List.not_mem_nil, or_false] at ht
    rcases ht with (rfl | ht | rfl | rfl) | rfl
    · exact Transition.outside_silent (by omega) (by omega)
    · exact ha.outside_shifted (by omega) ht
    · exact Transition.outside_silent (by omega) (by omega)
    · exact Transition.outside_silent (by omega) (by omega)
    · exact Transition.outside_silent (by omega) (by omega)

end Automaton

/-! ## The parts of an expression -/

/-- How far what is in the hole is moved up. -/
def Context.offset : Context → Int
  | hole => 0
  | star k => k.offset + 1
  | concatLeft k _ => k.offset
  | concatRight l k => k.offset + (l.automaton.size - 1)
  | unionLeft k _ => k.offset + 1
  | unionRight l k => k.offset + (l.automaton.size + 1)

namespace Context

/-- **What is in a hole lies in the whole**, moved up by the offset of the context. -/
theorem embeds_fill (k : Context) (e : Expr) :
    e.automaton.Embeds (k.fill e).automaton k.offset := by
  induction k with
  | hole => exact .refl _
  | star k ih => exact ih.trans (Automaton.embeds_starOf (k.fill e).block_automaton)
  | concatLeft k r ih =>
      have houter := Automaton.embeds_concatOf_left (a := (k.fill e).automaton)
        r.block_automaton (r.automaton.size - 1)
      rw [offset, ← Int.add_zero k.offset]
      exact ih.trans houter
  | concatRight l k ih =>
      exact ih.trans (Automaton.embeds_concatOf_right l.block_automaton _)
  | unionLeft k r ih =>
      exact ih.trans (Automaton.embeds_unionOf_left (k.fill e).block_automaton r.block_automaton)
  | unionRight l k ih =>
      exact ih.trans (Automaton.embeds_unionOf_right l.block_automaton (k.fill e).block_automaton)

/-- The offset of a context in a context is the sum of theirs. -/
theorem offset_comp (k j : Context) : (k.comp j).offset = j.offset + k.offset := by
  induction k with
  | hole => exact (Int.add_zero _).symm
  | concatLeft k r ih => exact ih
  | star k ih | concatRight l k ih | unionLeft k r ih | unionRight l k ih =>
      rw [comp, offset, offset, ih, Int.add_assoc]

/-- **What is to the left lies ahead**: its states come before those of what is to the right, with
one state shared at most. -/
theorem LeftOf.ahead {k k' : Context} {e e' : Expr} (h : k.LeftOf k')
    (hfill : k.fill e = k'.fill e') : e.automaton.Ahead k.offset k'.offset := by
  obtain ⟨c, j, j', l, r, hcases⟩ := h
  have hupper := (j.embeds_fill e).upper
  have hlower := (j'.embeds_fill e').lower
  unfold Automaton.Ahead
  rcases hcases with ⟨rfl, rfl⟩ | ⟨rfl, rfl⟩
  · rw [fill_comp, fill_comp] at hfill
    obtain ⟨rfl, -⟩ := Expr.concat.inj (fill_injective hfill)
    rw [offset_comp, offset_comp, offset, offset]
    omega
  · rw [fill_comp, fill_comp] at hfill
    obtain ⟨rfl, -⟩ := Expr.union.inj (fill_injective hfill)
    rw [offset_comp, offset_comp, offset, offset]
    omega

end Context

/-- **Parts are blocks.**  Every part of an expression is embedded in what is built of the
expression.  Of two parts that do not lie one within the other, one stands left of the other, and
its states are apart from those of the other, except that its last one may be the first one of the
other. -/
theorem parts_embed (e : Expr) :
    ∃ a, e.build = .ok a ∧ ∃ offset : Context → Int,
      (∀ (k : Context) (u : Expr), k.fill u = e →
        ∃ b, u.build = .ok b ∧ b.Embeds a (offset k)) ∧
      ∀ (k k' : Context) (u u' : Expr), k.fill u = e → k'.fill u' = e →
        ¬ k.Within k' → ¬ k'.Within k →
          ∃ b b', u.build = .ok b ∧ u'.build = .ok b' ∧
            (k.LeftOf k' ∧ b.Ahead (offset k) (offset k') ∨
              k'.LeftOf k ∧ b'.Ahead (offset k') (offset k)) := by
  refine ⟨e.automaton, e.build_eq_ok, Context.offset, ?_, ?_⟩
  · rintro k u rfl
    exact ⟨u.automaton, u.build_eq_ok, k.embeds_fill u⟩
  · intro k k' u u' hfill hfill' hwithin hwithin'
    have hsame := hfill.trans hfill'.symm
    refine ⟨u.automaton, u'.automaton, u.build_eq_ok, u'.build_eq_ok, ?_⟩
    rcases Context.related_of_fill_eq hsame with h | h | h | h
    · exact absurd h hwithin
    · exact absurd h hwithin'
    · exact .inl ⟨h, h.ahead hsame⟩
    · exact .inr ⟨h, h.ahead hsame.symm⟩

/-- In a concatenation the repetition ends in the state in which the union begins. -/
theorem parts_embed_fused :
    let l : Expr := .star (.literal "ab")
    let r : Expr := .union (.literal "b") (.literal "")
    ∃ a b b', (Expr.concat l r).build = .ok a ∧ l.build = .ok b ∧ r.build = .ok b' ∧
      b.Embeds a 0 ∧ b'.Embeds a 3 ∧ b.Ahead 0 3 := by
  intro l r
  have hright : ¬ (Context.concatRight l .hole).LeftOf (.concatLeft .hole r) := by
    intro h
    have hfill : (Context.concatRight l .hole).fill r = (Context.concatLeft .hole r).fill l := rfl
    have hahead : r.automaton.Ahead 3 0 := h.ahead hfill
    revert hahead
    unfold Automaton.Ahead
    decide +kernel
  obtain ⟨a, hbuild, offset, hembeds, hapart⟩ := parts_embed (.concat l r)
  obtain ⟨b, hb, hleft⟩ := hembeds (.concatLeft .hole r) l rfl
  obtain ⟨b', hb', hright'⟩ := hembeds (.concatRight l .hole) r rfl
  have hwithin : ¬ (Context.concatLeft .hole r).Within (.concatRight l .hole) := by
    rintro ⟨j, hj⟩
    cases hj
  have hwithin' : ¬ (Context.concatRight l .hole).Within (.concatLeft .hole r) := by
    rintro ⟨j, hj⟩
    cases hj
  obtain ⟨c, c', hc, -, hsides⟩ := hapart _ _ l r rfl rfl hwithin hwithin'
  rcases hsides with ⟨-, hahead⟩ | ⟨h, -⟩
  · obtain rfl := Except.ok.inj (hb.symm.trans hc)
    have hsize : a.size = 9 ∧ b.size = 4 ∧ b'.size = 6 := by
      obtain rfl := Except.ok.inj ((Expr.build_eq_ok _).symm.trans hbuild)
      obtain rfl := Except.ok.inj (l.build_eq_ok.symm.trans hb)
      obtain rfl := Except.ok.inj (r.build_eq_ok.symm.trans hb')
      decide +kernel
    have hlower := hleft.lower
    have hupper := hright'.upper
    have hoffsets : offset (.concatLeft .hole r) = 0 ∧ offset (.concatRight l .hole) = 3 := by
      unfold Automaton.Ahead at hahead
      omega
    rw [hoffsets.1] at hleft
    rw [hoffsets.2] at hright'
    rw [hoffsets.1, hoffsets.2] at hahead
    exact ⟨a, b, b', hbuild, hb, hb', hleft, hright', hahead⟩
  · exact absurd h hright

end RegexCompiler
