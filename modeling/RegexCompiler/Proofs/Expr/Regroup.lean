import RegexCompiler.Expr.Regroup
import RegexCompiler.Proofs.Expr.Automaton

/-!
# Grouping and automata

Two expressions *regroup* each other if one becomes the other by moving parentheses in
concatenations, at any place and any number of times (`Regroups`).  The expressions with all
concatenations grouped to the right (`Grouped`) are the normal forms: `regroup` finds one, and two
expressions regroup each other just if they have the same (`regroups_iff_regroup_eq`).

Concatenating automata is associative to the letter, so the automaton of an expression is that of
its normal form (`automaton_regroup`).
-/

namespace RegexCompiler

namespace Automaton

/-- A concatenation is moved part by part. -/
theorem shifted_concatOf (a b : Automaton) (g k : Int) :
    (a.concatOf b g).shifted k = a.shifted k ++ b.shifted (a.size - 1 + k) := by
  simp [shifted, concatOf, Transition.shift, Function.comp_def, Int.add_assoc]

/-- **Concatenation is associative**, transition by transition. -/
theorem concatOf_assoc (a b c : Automaton) (g f : Int) :
    (a.concatOf b g).concatOf c f = a.concatOf (b.concatOf c f) (f + (b.size - 1)) := by
  have hoffset : a.size + b.size - 1 - 1 = b.size - 1 + (a.size - 1) := by omega
  show Automaton.mk (a.size + b.size - 1 + c.size - 1)
      ((a.transitions ++ b.shifted (a.size - 1)) ++ c.shifted (a.size + b.size - 1 - 1))
      (some (f + (a.size + b.size - 1 - 1))) =
    Automaton.mk (a.size + (b.size + c.size - 1) - 1)
      (a.transitions ++ (b.concatOf c f).shifted (a.size - 1))
      (some (f + (b.size - 1) + (a.size - 1)))
  rw [Automaton.mk.injEq]
  refine ⟨by omega, ?_, ?_⟩
  · rw [shifted_concatOf, hoffset, List.append_assoc]
  · rw [hoffset, Int.add_assoc]

end Automaton

namespace Expr

/-- **Moving parentheses** in concatenations, at every level. -/
inductive Regroups : Expr → Expr → Prop where
  /-- Three parts may be grouped either way. -/
  | assoc (a b c : Expr) : Regroups (.concat (.concat a b) c) (.concat a (.concat b c))
  /-- Inside a repetition. -/
  | star {e e' : Expr} : Regroups e e' → Regroups (.star e) (.star e')
  /-- Inside a concatenation. -/
  | concat {l l' r r' : Expr} : Regroups l l' → Regroups r r' →
      Regroups (.concat l r) (.concat l' r')
  /-- Inside a union. -/
  | union {l l' r r' : Expr} : Regroups l l' → Regroups r r' →
      Regroups (.union l r) (.union l' r')
  /-- Nothing need be moved. -/
  | refl (e : Expr) : Regroups e e
  /-- What was moved may be moved back. -/
  | symm {e e' : Expr} : Regroups e e' → Regroups e' e
  /-- One may go on. -/
  | trans {e e' e'' : Expr} : Regroups e e' → Regroups e' e'' → Regroups e e''

/-- Whether an expression is no concatenation. -/
def IsItem : Expr → Prop
  | concat _ _ => False
  | _ => True

/-- **The expressions with all concatenations grouped to the right.** -/
def Grouped : Expr → Prop
  | literal _ => True
  | star e => e.Grouped
  | concat l r => l.IsItem ∧ l.Grouped ∧ r.Grouped
  | union l r => l.Grouped ∧ r.Grouped

/-! ## The normal form -/

/-- Chains of three may be made in either order. -/
theorem chain_assoc (a b c : Expr) : (a.chain b).chain c = a.chain (b.chain c) := by
  induction a with
  | concat l r _ ih =>
      show concat l ((r.chain b).chain c) = concat l (r.chain (b.chain c))
      rw [ih]
  | _ => rfl

/-- A chain of grouped expressions is grouped to the right. -/
theorem Grouped.chain {l r : Expr} (hl : l.Grouped) (hr : r.Grouped) : (l.chain r).Grouped := by
  induction l with
  | concat l l' _ ih => exact ⟨hl.1, hl.2.1, ih hl.2.2⟩
  | _ => exact ⟨trivial, hl, hr⟩

/-- The normal form is grouped to the right. -/
theorem grouped_regroup (e : Expr) : e.regroup.Grouped := by
  induction e with
  | literal s => trivial
  | star e ih => exact ih
  | concat l r ihl ihr => exact ihl.chain ihr
  | union l r ihl ihr => exact ⟨ihl, ihr⟩

/-- A chain is the concatenation with its parentheses moved. -/
theorem regroups_chain (l r : Expr) : Regroups (.concat l r) (l.chain r) := by
  induction l with
  | concat l l' _ ih => exact (Regroups.assoc l l' r).trans (.concat (.refl l) ih)
  | _ => exact .refl _

/-- The normal form is the expression with its parentheses moved. -/
theorem regroups_regroup (e : Expr) : Regroups e e.regroup := by
  induction e with
  | literal s => exact .refl _
  | star e ih => exact .star ih
  | concat l r ihl ihr => exact (Regroups.concat ihl ihr).trans (regroups_chain _ _)
  | union l r ihl ihr => exact .union ihl ihr

/-- Moving parentheses does not change the normal form. -/
theorem Regroups.regroup_eq {e e' : Expr} (h : Regroups e e') : e.regroup = e'.regroup := by
  induction h with
  | assoc a b c => exact chain_assoc _ _ _
  | star _ ih => exact congrArg Expr.star ih
  | concat _ _ ihl ihr => exact congrArg₂ Expr.chain ihl ihr
  | union _ _ ihl ihr => exact congrArg₂ Expr.union ihl ihr
  | refl => rfl
  | symm _ ih => exact ih.symm
  | trans _ _ ih ih' => exact ih.trans ih'

/-- **The normal form decides** whether two expressions regroup each other. -/
theorem regroups_iff_regroup_eq {e e' : Expr} : Regroups e e' ↔ e.regroup = e'.regroup := by
  constructor
  · exact Regroups.regroup_eq
  · intro h
    have hback := (regroups_regroup e').symm
    rw [← h] at hback
    exact (regroups_regroup e).trans hback

/-! ## Its automaton -/

/-- A chain has the automaton of the concatenation. -/
theorem automaton_chain (l r : Expr) :
    (l.chain r).automaton = l.automaton.concatOf r.automaton (r.automaton.size - 1) := by
  induction l with
  | concat l l' _ ih =>
      have hlast : (l'.automaton.concatOf r.automaton (r.automaton.size - 1)).size - 1 =
          r.automaton.size - 1 + (l'.automaton.size - 1) := by
        simp only [Automaton.concatOf]
        omega
      rw [automaton, Automaton.concatOf_assoc, ← hlast, ← ih]
      rfl
  | _ => rfl

/-- **Grouping makes no difference** to the automaton. -/
theorem automaton_regroup (e : Expr) : e.regroup.automaton = e.automaton := by
  induction e with
  | literal s => rfl
  | star e ih => rw [regroup, automaton, automaton, ih]
  | concat l r ihl ihr => rw [regroup, automaton_chain, ihl, ihr, automaton]
  | union l r ihl ihr => rw [regroup, automaton, automaton, ihl, ihr]

end Expr

end RegexCompiler
