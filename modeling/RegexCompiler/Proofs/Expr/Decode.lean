import RegexCompiler.Proofs.Automaton.Ends
import RegexCompiler.Proofs.Compile.Basic
import RegexCompiler.Proofs.Expr.Regroup

/-!
# Reading an expression off its automaton

The transitions of an automaton give back the expression that it was built from, up to the
grouping of concatenations.  They are read from the front, one item of a concatenation at a time.

What belongs to the first item is seen from the states.  An item of `n` states is followed by
transitions that leave the states from `n - 1` on and enter later ones (`Beyond`), so the ones that
leave the first and enter the second state are its own, and they tell what it is:

| item       | leave state 0 | enter state 1 |
|------------|---------------|---------------|
| symbol     | 1             | 1             |
| repetition | 2             | 2             |
| union      | 2             | 1             |

(`degrees_eq`).  The second transition that leaves state 0 then tells where a repetition ends, or
where the second part of a union starts; and a union ends where the last state of its first part
leads.  With its size the item is cut off (`Block.append_inj`), and its parts are cut out of it.

`Separable` says this of an item in front of anything, `Recoverable` of a whole expression; the
induction proves both together.
-/

namespace RegexCompiler

/-! ## What may follow a block -/

/-- Transitions that may follow those of a block of `n` states. -/
def Beyond (n : Int) (ts : List Transition) : Prop :=
  ∀ t ∈ ts, n - 1 ≤ t.source ∧ n - 1 < t.target

namespace Beyond

variable {n : Int} {ts : List Transition}

/-- Nothing may follow any block. -/
theorem nil (n : Int) : Beyond n [] := by simp [Beyond]

/-- What follows a block leaves none of its states but the last one. -/
theorem leaving (h : Beyond n ts) {lo hi : Int} (hhi : hi ≤ n - 1) :
    RegexCompiler.leaving lo hi ts = [] := by
  refine leaving_eq_nil ?_
  intro t ht
  have hends := h t ht
  omega

/-- What follows a block enters none of its states. -/
theorem entering (h : Beyond n ts) {p : Int} (hp : p ≤ n - 1) :
    RegexCompiler.entering p ts = [] := by
  refine entering_eq_nil ?_
  intro t ht
  have hends := h t ht
  omega

end Beyond

namespace Automaton.Block

variable {a b : Automaton} {ts ts' : List Transition}

/-- What follows a block in a concatenation is beyond it. -/
theorem beyond_shifted (hb : b.Block) : Beyond a.size (b.shifted (a.size - 1)) := by
  intro t ht
  have hends := hb.ends_shifted ht
  omega

/-- The transitions of a block are those that leave a state before its last one. -/
theorem leaving_append_beyond (ha : a.Block) (hts : Beyond a.size ts) :
    leaving 0 (a.size - 1) (a.transitions ++ ts) = a.transitions := by
  have hfirst : leaving 0 (a.size - 1) a.transitions = a.transitions :=
    leaving_eq_self fun t ht => (ha.ends t ht).1
  rw [leaving_append, hfirst, hts.leaving (le_refl _), List.append_nil]

/-- **Cutting off a block.**  Two blocks of one size in front of anything are the same if all is
the same. -/
theorem append_inj (ha : a.Block) (hb : b.Block) (hsize : a.size = b.size)
    (hts : Beyond a.size ts) (hts' : Beyond b.size ts')
    (h : a.transitions ++ ts = b.transitions ++ ts') :
    a.transitions = b.transitions ∧ ts = ts' := by
  have hfirst : a.transitions = b.transitions := by
    rw [← ha.leaving_append_beyond hts, ← hb.leaving_append_beyond hts', hsize, h]
  rw [hfirst] at h
  exact ⟨hfirst, List.append_cancel_left h⟩

end Automaton.Block

namespace Automaton

variable {a b : Automaton} {ts : List Transition}

/-- Blocks that are the same when they are moved up alike are the same. -/
theorem shifted_injective {k : Int} (h : a.shifted k = b.shifted k) :
    a.transitions = b.transitions :=
  List.map_injective_iff.mpr (Transition.shift_injective k) h

/-! ## The transitions that tell -/

section Repetition

variable (ha : a.Block) (hts : Beyond (a.size + 2) ts)
include ha hts

/-- Whatever follows a repetition, two transitions leave its first state. -/
theorem leaving_first_starOf :
    leaving 0 1 ((a.starOf (a.size - 1)).transitions ++ ts) =
      [.silent 0 1, .silent 0 (a.size + 1)] := by
  have hsize := ha.two_le
  rw [leaving_append, hts.leaving (by omega), List.append_nil, leaving_starOf_first ha]

/-- Two transitions enter its second state. -/
theorem entering_second_starOf :
    entering 1 ((a.starOf (a.size - 1)).transitions ++ ts) =
      [.silent 0 1, .silent a.size 1] := by
  have hsize := ha.two_le
  rw [entering_append, hts.entering (by omega), List.append_nil, entering_starOf_second ha]

end Repetition

section Union

variable (ha : a.Block) (hb : b.Block) (hts : Beyond (a.size + b.size + 2) ts)
include ha hb hts

/-- Whatever follows a union, two transitions leave its first state. -/
theorem leaving_first_unionOf :
    leaving 0 1 ((a.unionOf b (a.size - 1) (b.size - 1)).transitions ++ ts) =
      [.silent 0 1, .silent 0 (a.size + 1)] := by
  have hleft := ha.two_le
  have hright := hb.two_le
  rw [leaving_append, hts.leaving (by omega), List.append_nil, leaving_unionOf_first ha hb]

/-- One transition enters its second state, which is how it differs from a repetition. -/
theorem entering_second_unionOf :
    entering 1 ((a.unionOf b (a.size - 1) (b.size - 1)).transitions ++ ts) = [.silent 0 1] := by
  have hleft := ha.two_le
  have hright := hb.two_le
  rw [entering_append, hts.entering (by omega), List.append_nil, entering_unionOf_second ha hb]

/-- One transition leaves the last state of its left part, and it shows where the right part ends.
-/
theorem leaving_join_unionOf :
    leaving a.size (a.size + 1) ((a.unionOf b (a.size - 1) (b.size - 1)).transitions ++ ts) =
      [.silent a.size (a.size + b.size + 1)] := by
  have hright := hb.two_le
  rw [leaving_append, hts.leaving (by omega), List.append_nil, leaving_unionOf_join ha hb]

/-- The first part of a union is what leaves its states. -/
theorem leaving_left_unionOf :
    leaving 1 a.size ((a.unionOf b (a.size - 1) (b.size - 1)).transitions ++ ts) =
      a.shifted 1 := by
  have hleft := ha.two_le
  have hright := hb.two_le
  simp (disch := omega) only [transitions_unionOf_last, List.cons_append, leaving_append,
    leaving_silent_of_out, leaving_nil, ha.leaving_shifted_eq_self, hb.leaving_shifted_eq_nil,
    hts.leaving, List.append_nil]

/-- The second part of a union is what leaves its states. -/
theorem leaving_right_unionOf :
    leaving (a.size + 1) (a.size + b.size)
        ((a.unionOf b (a.size - 1) (b.size - 1)).transitions ++ ts) =
      b.shifted (a.size + 1) := by
  have hleft := ha.two_le
  have hright := hb.two_le
  simp (disch := omega) only [transitions_unionOf_last, List.cons_append, leaving_append,
    leaving_silent_of_out, leaving_nil, ha.leaving_shifted_eq_nil, hb.leaving_shifted_eq_self,
    hts.leaving, List.append_nil, List.nil_append]

end Union

end Automaton

namespace Expr

/-! ## What an item is -/

/-- How many transitions leave the first state of an item, and how many enter the second. -/
def degrees : Expr → Nat × Nat
  | literal _ => (1, 1)
  | star _ => (2, 2)
  | union _ _ => (2, 1)
  | concat _ _ => (0, 0)

/-- **The degrees of the first two states** tell what an item is, whatever follows it. -/
theorem degrees_eq {e : Expr} (he : e.IsItem) {ts : List Transition}
    (hts : Beyond e.automaton.size ts) :
    ((leaving 0 1 (e.automaton.transitions ++ ts)).length,
      (entering 1 (e.automaton.transitions ++ ts)).length) = e.degrees := by
  cases e with
  | literal s =>
      have hts' : Beyond 2 ts := hts
      have hleave : leaving 0 1 ts = [] := hts'.leaving (by omega)
      have henter : entering 1 ts = [] := hts'.entering (by omega)
      rw [leaving_append, entering_append, hleave, henter]
      rfl
  | star e =>
      have ha := e.block_automaton
      rw [automaton, Automaton.leaving_first_starOf ha hts, Automaton.entering_second_starOf ha hts]
      rfl
  | union l r =>
      have ha := l.block_automaton
      have hb := r.block_automaton
      rw [automaton, Automaton.leaving_first_unionOf ha hb hts,
        Automaton.entering_second_unionOf ha hb hts]
      rfl
  | concat l r => exact he.elim

/-! ## Reading -/

/-- An item that is known, and known where it ends, whatever follows it. -/
def Separable (e : Expr) : Prop :=
  ∀ ⦃e' : Expr⦄ ⦃ts ts' : List Transition⦄, e'.IsItem → e'.Grouped →
    Beyond e.automaton.size ts → Beyond e'.automaton.size ts' →
    e.automaton.transitions ++ ts = e'.automaton.transitions ++ ts' → e = e' ∧ ts = ts'

/-- An expression that is known from its transitions. -/
def Recoverable (e : Expr) : Prop :=
  ∀ ⦃e' : Expr⦄, e'.Grouped → e.automaton.transitions = e'.automaton.transitions → e = e'

/-- Items in front of the same transitions have the same degrees. -/
theorem degrees_eq_of_append_eq {e e' : Expr} {ts ts' : List Transition} (he : e.IsItem)
    (he' : e'.IsItem) (hts : Beyond e.automaton.size ts) (hts' : Beyond e'.automaton.size ts')
    (h : e.automaton.transitions ++ ts = e'.automaton.transitions ++ ts') :
    e.degrees = e'.degrees := by
  rw [← degrees_eq he hts, ← degrees_eq he' hts', h]

/-- A literal is known by its transition. -/
theorem separable_literal (s : String) : (literal s).Separable := by
  intro e' ts ts' hitem _ hts hts' h
  have hdegrees := degrees_eq_of_append_eq (by trivial) hitem hts hts' h
  cases e' with
  | literal s' =>
      obtain ⟨hfirst, hrest⟩ := List.cons.inj h
      cases hfirst
      exact ⟨rfl, hrest⟩
  | star e' => exact absurd hdegrees (by simp [degrees])
  | union l r => exact absurd hdegrees (by simp [degrees])
  | concat l r => exact hitem.elim

/-- A repetition is known if its part is: the way back shows where the part ends. -/
theorem Recoverable.separable_star {e : Expr} (he : e.Recoverable) : (star e).Separable := by
  intro e' ts ts' hitem hgrouped hts hts' h
  have hdegrees := degrees_eq_of_append_eq (by trivial) hitem hts hts' h
  cases e' with
  | literal s => exact absurd hdegrees (by simp [degrees])
  | star e' =>
      have ha := e.block_automaton
      have ha' := e'.block_automaton
      -- the second transition that leaves state 0 leads to the end, so the sizes are the same
      have hleave := congrArg (leaving 0 1) h
      rw [automaton, automaton, Automaton.leaving_first_starOf ha hts,
        Automaton.leaving_first_starOf ha' hts'] at hleave
      have hsize : e.automaton.size = e'.automaton.size := by
        simpa [Transition.silent] using hleave
      obtain ⟨htransitions, hrest⟩ := (star e).block_automaton.append_inj
        (star e').block_automaton (congrArg (· + 2) hsize) hts hts' h
      rw [automaton, automaton, Automaton.transitions_starOf_last,
        Automaton.transitions_starOf_last] at htransitions
      have hinner := List.append_inj_left' (List.cons.inj htransitions).2 rfl
      have hsame : e = e' := he hgrouped (Automaton.shifted_injective hinner)
      exact ⟨congrArg star hsame, hrest⟩
  | union l r => exact absurd hdegrees (by simp [degrees])
  | concat l r => exact hitem.elim

/-- A union is known if its parts are: the new transitions show where each part ends. -/
theorem Recoverable.separable_union {l r : Expr} (hl : l.Recoverable) (hr : r.Recoverable) :
    (union l r).Separable := by
  intro e' ts ts' hitem hgrouped hts hts' h
  have hdegrees := degrees_eq_of_append_eq (by trivial) hitem hts hts' h
  cases e' with
  | literal s => exact absurd hdegrees (by simp [degrees])
  | star e' => exact absurd hdegrees (by simp [degrees])
  | union l' r' =>
      have ha := l.block_automaton
      have hb := r.block_automaton
      have ha' := l'.block_automaton
      have hb' := r'.block_automaton
      -- where the second part starts gives the size of the first one, where the first part leads
      -- gives that of the second one, and only then can the parts be cut out
      have hleave := congrArg (leaving 0 1) h
      rw [automaton, automaton, Automaton.leaving_first_unionOf ha hb hts,
        Automaton.leaving_first_unionOf ha' hb' hts'] at hleave
      have hleft : l.automaton.size = l'.automaton.size := by
        simpa [Transition.silent] using hleave
      have hjoin := congrArg (leaving l.automaton.size (l.automaton.size + 1)) h
      rw [automaton, automaton, Automaton.leaving_join_unionOf ha hb hts, hleft,
        Automaton.leaving_join_unionOf ha' hb' hts'] at hjoin
      have hright : r.automaton.size = r'.automaton.size := by
        simpa [Transition.silent] using hjoin
      have hfirst := congrArg (leaving 1 l.automaton.size) h
      rw [automaton, automaton, Automaton.leaving_left_unionOf ha hb hts, hleft,
        Automaton.leaving_left_unionOf ha' hb' hts'] at hfirst
      have hsecond := congrArg
        (leaving (l.automaton.size + 1) (l.automaton.size + r.automaton.size)) h
      rw [automaton, automaton, Automaton.leaving_right_unionOf ha hb hts, hleft, hright,
        Automaton.leaving_right_unionOf ha' hb' hts'] at hsecond
      obtain rfl := hl hgrouped.1 (Automaton.shifted_injective hfirst)
      obtain rfl := hr hgrouped.2 (Automaton.shifted_injective hsecond)
      exact ⟨rfl, List.append_cancel_left h⟩
  | concat l r => exact hitem.elim

/-- The transitions of a concatenation are those of the left part, followed by the others. -/
theorem transitions_concat (l r : Expr) : (concat l r).automaton.transitions =
    l.automaton.transitions ++ r.automaton.shifted (l.automaton.size - 1) := rfl

/-- Every expression has a transition. -/
theorem shifted_ne_nil (e : Expr) (k : Int) : e.automaton.shifted k ≠ [] := by
  rw [Automaton.shifted, Ne, List.map_eq_nil_iff]
  exact e.transitions_automaton_ne_nil

/-- An item is not read as a concatenation. -/
theorem Separable.not_concat {e l r : Expr} (he : e.Separable) (hgrouped : (concat l r).Grouped) :
    e.automaton.transitions ≠ (concat l r).automaton.transitions := by
  intro h
  rw [transitions_concat, ← List.append_nil e.automaton.transitions] at h
  obtain ⟨-, hrest⟩ := he hgrouped.1 hgrouped.2.1 (.nil _) r.block_automaton.beyond_shifted h
  exact r.shifted_ne_nil _ hrest.symm

/-- What is known whatever follows it is known where nothing does. -/
theorem Separable.recoverable {e : Expr} (he : e.Separable) : e.Recoverable := by
  intro e' hgrouped h
  by_cases hitem : e'.IsItem
  · have hsame : e.automaton.transitions ++ [] = e'.automaton.transitions ++ [] := by rw [h]
    exact (he hitem hgrouped (.nil _) (.nil _) hsame).1
  · cases e' with
    | concat l r => exact absurd h (he.not_concat hgrouped)
    | _ => exact absurd (by trivial) hitem

/-- A concatenation is known if its first item is, whatever follows it, and then the rest. -/
theorem Separable.recoverable_concat {l r : Expr} (hl : l.Separable) (hr : r.Recoverable) :
    (concat l r).Recoverable := by
  intro e' hgrouped' h
  by_cases hitem : e'.IsItem
  · rw [transitions_concat, ← List.append_nil e'.automaton.transitions] at h
    obtain ⟨-, hrest⟩ := hl hitem hgrouped' r.block_automaton.beyond_shifted (.nil _) h
    exact absurd hrest (r.shifted_ne_nil _)
  · cases e' with
    | concat l' r' =>
        rw [transitions_concat, transitions_concat] at h
        obtain ⟨rfl, hrest⟩ := hl hgrouped'.1 hgrouped'.2.1 r.block_automaton.beyond_shifted
          r'.block_automaton.beyond_shifted h
        rw [hr hgrouped'.2.2 (Automaton.shifted_injective hrest)]
    | _ => exact absurd (by trivial) hitem

/-- **The induction**: an item can be cut off, and a whole expression can be read. -/
theorem Grouped.separable_and_recoverable {e : Expr} (he : e.Grouped) :
    (e.IsItem → e.Separable) ∧ e.Recoverable := by
  induction e with
  | literal s => exact ⟨fun _ => separable_literal s, (separable_literal s).recoverable⟩
  | star e ih =>
      have hstar := (ih he).2.separable_star
      exact ⟨fun _ => hstar, hstar.recoverable⟩
  | concat l r ihl ihr =>
      have hl := (ihl he.2.1).1 he.1
      exact ⟨fun hitem => hitem.elim, hl.recoverable_concat (ihr he.2.2).2⟩
  | union l r ihl ihr =>
      have hunion := (ihl he.1).2.separable_union (ihr he.2).2
      exact ⟨fun _ => hunion, hunion.recoverable⟩

/-- **Transitions know their expression** up to grouping. -/
theorem transitions_eq_iff_regroups {e e' : Expr} :
    e.automaton.transitions = e'.automaton.transitions ↔ Regroups e e' := by
  rw [regroups_iff_regroup_eq, ← e.automaton_regroup, ← e'.automaton_regroup]
  constructor
  · exact e.grouped_regroup.separable_and_recoverable.2 e'.grouped_regroup
  · intro h
    rw [h]

/-- Two expressions have the same automaton just if one is the other with its parentheses moved. -/
theorem automaton_eq_iff_regroups {e e' : Expr} :
    e.automaton = e'.automaton ↔ Regroups e e' := by
  constructor
  · intro h
    exact transitions_eq_iff_regroups.mp (congrArg Automaton.transitions h)
  · intro h
    rw [← e.automaton_regroup, ← e'.automaton_regroup, h.regroup_eq]

end Expr

/-- **A compilation forgets the grouping of concatenations, and nothing else.**  Two expressions
with any symbols are built to the same automaton just where they have the same normal form, that
is, where they differ in the grouping of concatenations only; and so do two texts that compile,
for the expressions that they are read as. -/
theorem build_eq_iff_regroup_eq :
    (∀ e e' : Expr, ∃ a a', e.build = .ok a ∧ e'.build = .ok a' ∧
      (a = a' ↔ e.regroup = e'.regroup) ∧ (a = a' ↔ Expr.Regroups e e')) ∧
    ∀ (regex regex' : String) (a a' : Automaton), compile regex = .ok a → compile regex' = .ok a' →
      ∃ e e', Expr.parse regex.toList = .ok e ∧ Expr.parse regex'.toList = .ok e' ∧
        (a = a' ↔ Expr.Regroups e e') := by
  refine ⟨?_, ?_⟩
  · intro e e'
    refine ⟨_, _, e.build_eq_ok, e'.build_eq_ok, ?_, Expr.automaton_eq_iff_regroups⟩
    rw [Expr.automaton_eq_iff_regroups, Expr.regroups_iff_regroup_eq]
  · intro regex regex' a a' h h'
    obtain ⟨e, hparse, hbuild⟩ := exists_parse_of_compile_eq_ok h
    obtain ⟨e', hparse', hbuild'⟩ := exists_parse_of_compile_eq_ok h'
    obtain rfl : e.automaton = a := Except.ok.inj (e.build_eq_ok.symm.trans hbuild)
    obtain rfl : e'.automaton = a' := Except.ok.inj (e'.build_eq_ok.symm.trans hbuild')
    exact ⟨e, e', hparse, hparse', Expr.automaton_eq_iff_regroups⟩

/-- The texts `a(b*c)` and `ab*c` are read as different expressions and compile to one automaton. -/
theorem build_eq_iff_regroup_eq_nested :
    Expr.parse "a(b*c)".toList ≠ Expr.parse "ab*c".toList ∧
    ∃ a, compile "a(b*c)" = .ok a ∧ compile "ab*c" = .ok a := by
  have hright : Derives .union ("a(b*c)".toList)
      (.concat (.literal "a") (.concat (.star (.literal "b")) (.literal "c"))) :=
    .single (.next (.link (.symbol rfl)) (.group
      (.single (.next (.link (.star (.symbol rfl))) (.symbol rfl)))))
  have hleft : Derives .union ("ab*c".toList)
      (.concat (.concat (.literal "a") (.star (.literal "b"))) (.literal "c")) :=
    .single (.next (.next (.link (.symbol rfl)) (.star (.symbol rfl))) (.symbol rfl))
  obtain ⟨a, ha, -⟩ := compile_of_derives hright
  obtain ⟨a', ha', -⟩ := compile_of_derives hleft
  obtain ⟨e, e', hparse, hparse', heq⟩ := build_eq_iff_regroup_eq.2 _ _ a a' ha ha'
  rw [parse_of_derives hright] at hparse
  rw [parse_of_derives hleft] at hparse'
  cases hparse
  cases hparse'
  obtain rfl : a = a' := heq.mpr (.symm (.assoc _ _ _))
  refine ⟨?_, a, ha, ha'⟩
  rw [parse_of_derives hright, parse_of_derives hleft]
  simp

end RegexCompiler
