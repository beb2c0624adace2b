import RegexCompiler.Automaton.Listing
import RegexCompiler.Store

/-!
# Registers over a store

A workspace names the automata of a store by registers.  Several registers may name one
automaton; when it is consumed under one name, it is consumed under all.

Programs over a workspace are in `WorkspaceM`, which keeps the workspace when a step fails.
-/

namespace RegexCompiler

/-- The description of a consumed cell. -/
def Cell.describe : Cell → String
  | .live a => a.describe
  | .consumed => "Automaton(<consumed>)"

/-- The description of the cell at `h`. -/
def Store.describe (s : Store) (h : Handle) : String :=
  ((s.cells[h.index]?).getD .consumed).describe

/-- **A store with names.** -/
structure Workspace where
  /-- The automata. -/
  store : Store := {}
  /-- The registers, with what they name. -/
  registers : List (String × Handle) := []
  /-- A name occurs once. -/
  nodup : (registers.map Prod.fst).Nodup := by simp
  deriving Repr

namespace Workspace

/-- What a register names. -/
def find? (w : Workspace) (name : String) : Option Handle := w.registers.lookup name

/-- The registers without `name`. -/
def others (w : Workspace) (name : String) : List (String × Handle) :=
  w.registers.filter (·.1 ≠ name)

/-- No other register has the name. -/
theorem not_mem_others (w : Workspace) (name : String) :
    name ∉ (w.others name).map Prod.fst := by
  intro hm
  obtain ⟨r, hr, hname⟩ := List.mem_map.mp hm
  have hne := (List.mem_filter.mp hr).2
  simp [hname] at hne

/-- The other registers keep their names apart. -/
theorem nodup_others (w : Workspace) (name : String) :
    ((w.others name).map Prod.fst).Nodup := by
  have hsub : List.Sublist ((w.others name).map Prod.fst) (w.registers.map Prod.fst) :=
    List.filter_sublist.map Prod.fst
  exact List.Pairwise.sublist hsub w.nodup

/-- The workspace with a register bound to `h`. -/
def bind (w : Workspace) (name : String) (h : Handle) : Workspace where
  store := w.store
  registers := (name, h) :: w.others name
  nodup := List.nodup_cons.mpr ⟨w.not_mem_others name, w.nodup_others name⟩

/-- A register that was bound names what it was bound to. -/
theorem find?_bind_self (w : Workspace) (name : String) (h : Handle) :
    (w.bind name h).find? name = some h := by
  simp [find?, bind]

/-- The other registers name what they named before. -/
theorem find?_bind_of_ne {w : Workspace} {name other : String} {h : Handle}
    (hne : other ≠ name) : (w.bind name h).find? other = w.find? other := by
  have hb : (other == name) = false := by simp [hne]
  show List.lookup other ((name, h) :: w.others name) = w.registers.lookup other
  rw [List.lookup_cons, hb, others]
  show List.lookup other (w.registers.filter (·.1 ≠ name)) = w.registers.lookup other
  induction w.registers with
  | nil => rfl
  | cons r rest ih =>
    by_cases hr : r.1 = name
    · have hother : (other == r.1) = false := by simp [hr, hne]
      rw [List.filter_cons_of_neg (by simp [hr]), List.lookup_cons, hother]
      exact ih
    · rw [List.filter_cons_of_pos (by simp [hr]), List.lookup_cons, List.lookup_cons, ih]

/-- The registers with the descriptions of what they name. -/
def describe (w : Workspace) : List (String × String) :=
  w.registers.map fun r => (r.1, w.store.describe r.2)

end Workspace

/-- Why a step fails. -/
inductive StepError where
  /-- No register has this name. -/
  | unbound (name : String)
  /-- The store refuses. -/
  | broken (fault : Fault)
  deriving DecidableEq, Repr

/-- Programs over a workspace.  A failing program keeps the workspace that it has reached. -/
abbrev WorkspaceM := ExceptT StepError (StateM Workspace)

namespace WorkspaceM

/-- What a register names, where it must name something. -/
def resolve (name : String) : WorkspaceM Handle := do
  match (← get).find? name with
  | some h => return h
  | none => throw (.unbound name)

/-- Runs a program on the store of the workspace. -/
def onStore {α : Type} (program : StoreM α) : WorkspaceM α := do
  let (result, store) := program.runOn (← get).store
  modify fun w => { w with store }
  match result with
  | .ok a => return a
  | .error f => throw (.broken f)

end WorkspaceM

end RegexCompiler
