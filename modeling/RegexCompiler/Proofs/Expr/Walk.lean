import RegexCompiler.Expr.Build
import RegexCompiler.Proofs.Expr.Assembly
import RegexCompiler.Proofs.Store

/-!
# The walk over an expression

The walk works off a list of tasks over a stack of handles.  What it does at an expression can be
said by recursion on the expression, over the same store (`Expr.construct`): whatever stands in the
list behind the expression and in the stack below it, the walk runs the recursion and goes on with
one more handle on the stack (`Task.run_visit`).  So the two are the same program
(`Expr.buildHandle_eq_construct`).

The recursion makes one cell for every node.  Each of them but the last one is consumed when the
node above it is made, so no part is missing and none is used twice (`Expr.runOn_construct`).  Hence
the walk computes the automaton of the expression by recursion (`Expr.build_eq_assemble`).
-/

namespace RegexCompiler

/-! ## The walk and the recursion -/

/-- **The automaton of an expression, by recursion over a store**: the automata of the parts, the
left one first, and then the construction that takes them. -/
def Expr.construct : Expr → StoreM Handle
  | literal s => StoreM.alloc (.literal s)
  | star e => do StoreM.star (← e.construct)
  | concat l r => do
    let h ← l.construct
    let k ← r.construct
    StoreM.concat h k
  | union l r => do
    let h ← l.construct
    let k ← r.construct
    StoreM.union h k

/-- **Visiting an expression** is running its recursion, whatever is still to do and whatever is on
the stack. -/
theorem Task.run_visit (e : Expr) (tasks : List Task) (built : List Handle) :
    run (visit e :: tasks) built = e.construct >>= fun h => run tasks (h :: built) := by
  induction e generalizing tasks built with
  | literal s => rw [run, Expr.construct]
  | star e ih =>
      rw [run, ih, Expr.construct, bind_assoc]
      simp only [run]
  | concat l r ihl ihr =>
      rw [run, ihl, Expr.construct]
      simp only [ihr, run, bind_assoc]
  | union l r ihl ihr =>
      rw [run, ihl, Expr.construct]
      simp only [ihr, run, bind_assoc]

/-- **The walk over a whole expression is the recursion.** -/
theorem Expr.buildHandle_eq_construct (e : Expr) : e.buildHandle = e.construct := by
  rw [buildHandle, Task.run_visit]
  simp [Task.run]

/-! ## What the recursion does to a store -/

namespace Store

/-- The store with `n` more cells, all of them consumed. -/
def spend (s : Store) (n : Nat) : Store := { cells := s.cells ++ Array.replicate n .consumed }

/-- No cells are made. -/
@[simp] theorem spend_zero (s : Store) : s.spend 0 = s := by
  simp [spend]

/-- Cells are made and consumed one after the other. -/
@[simp] theorem spend_spend (s : Store) (m n : Nat) : (s.spend m).spend n = s.spend (m + n) := by
  simp [spend, Array.append_assoc]

/-- New cells do not touch the old ones. -/
theorem live?_spend_of_lt {s : Store} {h : Handle} (hlt : h.index < s.cells.size) (n : Nat) :
    (s.spend n).live? h = s.live? h := by
  simp [live?, spend, Array.getElem?_append_left hlt]

/-- A new cell that is consumed with all cells behind it. -/
theorem put_spend_insert (s : Store) (a : Automaton) (n : Nat) :
    ((s.insert a).2.spend n).put (s.insert a).1 .consumed = s.spend (n + 1) := by
  apply congrArg Store.mk
  apply Array.ext_getElem?
  intro i
  simp only [insert, spend]
  grind

/-- A new cell that is consumed at once leaves nothing but its place. -/
theorem put_insert (s : Store) (a : Automaton) :
    (s.insert a).2.put (s.insert a).1 .consumed = s.spend 1 := by
  have hput := put_spend_insert s a 0
  rwa [spend_zero] at hput

/-- Two cells may be set in either order. -/
theorem put_comm (s : Store) {h k : Handle} (hne : h ≠ k) (c d : Cell) :
    (s.put h c).put k d = (s.put k d).put h c := by
  simp only [put]
  rw [Array.setIfInBounds_comm _ _ (Handle.index_ne hne)]

end Store

namespace StoreM

open Store (place)

/-- What a construction over two parts does where the parts are made one after the other, and all
other new cells are consumed. -/
theorem runOn_combine_insert (s : Store) (a b : Automaton) (n : Nat)
    (make : Automaton → Automaton → Except Fault Automaton) :
    (combine make (s.insert a).1 (((s.insert a).2.spend n).insert b).1).runOn
        (((s.insert a).2.spend n).insert b).2 =
      (s.spend (n + 2)).place (make a b) := by
  have hlt : (s.insert a).1.index < ((s.insert a).2.spend n).cells.size := by
    simp [Store.insert, Store.spend]
    omega
  have hne : (s.insert a).1 ≠ (((s.insert a).2.spend n).insert b).1 := by
    intro heq
    rw [heq] at hlt
    exact Nat.lt_irrefl _ hlt
  -- the first part is still live when the second one is done
  have hkept : (((s.insert a).2.spend n).insert b).2.live? (s.insert a).1 = some a := by
    rw [Store.live?_insert_of_lt hlt, Store.live?_spend_of_lt (by simp), Store.live?_insert_self]
  rw [runOn_combine_of_live hkept hne (Store.live?_insert_self _ _), Store.put_comm _ hne,
    Store.put_insert, Store.spend_spend, Store.put_spend_insert]

end StoreM

namespace Expr

/-- Every expression has a node. -/
theorem size_pos (e : Expr) : 0 < e.size := by
  cases e <;> exact Nat.succ_pos _

/-- A node over two parts: each of them makes its cells, and the node makes one more. -/
theorem runOn_construct_combine {l r : Expr}
    (hl : ∀ s : Store, l.construct.runOn s = (s.spend (l.size - 1)).place l.assemble)
    (hr : ∀ s : Store, r.construct.runOn s = (s.spend (r.size - 1)).place r.assemble)
    (make : Automaton → Automaton → Except Fault Automaton) (s : Store) :
    StoreM.runOn (do StoreM.combine make (← l.construct) (← r.construct)) s =
      (s.spend (l.size + r.size)).place (do make (← l.assemble) (← r.assemble)) := by
  obtain ⟨a, ha, -, -⟩ := l.exists_assemble
  obtain ⟨b, hb, -, -⟩ := r.exists_assemble
  have hsize : l.size - 1 + (r.size - 1 + 2) = l.size + r.size := by
    have := l.size_pos
    have := r.size_pos
    omega
  have hmake := StoreM.runOn_combine_insert (s.spend (l.size - 1)) a b (r.size - 1) make
  rw [Store.spend_spend, hsize] at hmake
  rw [StoreM.runOn_bind, hl, ha, hb]
  show (r.construct >>= _ : StoreM Handle).runOn _ = _
  rw [StoreM.runOn_bind, hr, hb]
  exact hmake

/-- **The recursion makes one cell for every node.**  All of them are consumed but the last one,
which has the automaton of the expression. -/
theorem runOn_construct (e : Expr) (s : Store) :
    e.construct.runOn s = (s.spend (e.size - 1)).place e.assemble := by
  induction e generalizing s with
  | literal symbol =>
      show _ = (s.spend 0).place (.ok (.literal symbol))
      rw [Store.spend_zero]
      rfl
  | star e ih =>
      obtain ⟨a, ha, -, -⟩ := e.exists_assemble
      have hsize : e.size - 1 + 1 = (star e).size - 1 := Nat.sub_add_cancel e.size_pos
      rw [construct, StoreM.runOn_bind, ih, ha, assemble, ha]
      show (StoreM.star ((s.spend (e.size - 1)).insert a).1).runOn _ = _
      rw [StoreM.runOn_star_of_live (Store.live?_insert_self _ _), Store.put_insert,
        Store.spend_spend, hsize]
      rfl
  | concat l r ihl ihr =>
      simp only [construct, StoreM.concat_eq_combine]
      exact runOn_construct_combine ihl ihr Automaton.concat s
  | union l r ihl ihr =>
      simp only [construct, StoreM.union_eq_combine]
      exact runOn_construct_combine ihl ihr Automaton.union s

/-- **The walk computes the recursion.** -/
theorem build_eq_assemble (e : Expr) : e.build = e.assemble := by
  obtain ⟨a, ha, -, -⟩ := e.exists_assemble
  rw [build, buildHandle_eq_construct, StoreM.runOn_bind, runOn_construct, ha]
  show ((StoreM.read _).runOn _).1 = _
  rw [StoreM.runOn_read_of_live (Store.live?_insert_self _ _)]

/-- A repetition is built from what its part is built to. -/
theorem build_star {e : Expr} {a : Automaton} (h : e.build = .ok a) :
    (Expr.star e).build = a.star := by
  rw [build_eq_assemble] at h ⊢
  rw [assemble, h]
  rfl

/-- A concatenation is built from what its parts are built to. -/
theorem build_concat {l r : Expr} {a b : Automaton} (hl : l.build = .ok a)
    (hr : r.build = .ok b) : (Expr.concat l r).build = a.concat b := by
  rw [build_eq_assemble] at hl hr ⊢
  rw [assemble, hl, hr]
  rfl

/-- A union is built from what its parts are built to. -/
theorem build_union {l r : Expr} {a b : Automaton} (hl : l.build = .ok a)
    (hr : r.build = .ok b) : (Expr.union l r).build = a.union b := by
  rw [build_eq_assemble] at hl hr ⊢
  rw [assemble, hl, hr]
  rfl

/-- Every expression can be built: its automaton is a block and accepts its language. -/
theorem exists_build (e : Expr) : ∃ a, e.build = .ok a ∧ a.Block ∧ a.language = e.language := by
  rw [build_eq_assemble]
  exact e.exists_assemble

end Expr

end RegexCompiler
