import RegexCompiler.Automaton.Construction

/-!
# A store of automata, each used once

Automata live in the cells of a `Store` and are named by handles.  A construction *takes* its
parts: their cells are consumed, and from then on every use of them fails.  It takes the first
part, then the second, and only then computes, so a construction that fails leaves the parts
consumed that it has taken by then; in particular nothing can be built from one cell twice, as in
`concat h h`.

Programs over a store are in `StoreM`, which keeps the store when a step fails.
-/

namespace RegexCompiler

/-- One place of a store. -/
inductive Cell where
  /-- An automaton that may still be used. -/
  | live (a : Automaton)
  /-- The place of an automaton that was used up. -/
  | consumed
  deriving DecidableEq, Repr

/-- The name of a cell. -/
structure Handle where
  /-- The number of the cell, counted from 0. -/
  index : Nat
  deriving DecidableEq, Repr

/-- Different handles name different cells. -/
theorem Handle.index_ne {h k : Handle} (hne : h ≠ k) : h.index ≠ k.index :=
  fun heq => hne (congrArg Handle.mk heq)

/-- **A store of automata.** -/
structure Store where
  /-- The cells, in the order in which they were made. -/
  cells : Array Cell := #[]
  deriving DecidableEq, Repr

namespace Store

/-- The automaton at `h`, if it is still live. -/
def live? (s : Store) (h : Handle) : Option Automaton :=
  match s.cells[h.index]? with
  | some (.live a) => some a
  | _ => none

/-- The store with a new cell, and the name of that cell. -/
def insert (s : Store) (a : Automaton) : Handle × Store :=
  (⟨s.cells.size⟩, { cells := s.cells.push (.live a) })

/-- The store with another content at `h`. -/
def put (s : Store) (h : Handle) (c : Cell) : Store :=
  { cells := s.cells.setIfInBounds h.index c }

/-- A new cell is live. -/
theorem live?_insert_self (s : Store) (a : Automaton) :
    (s.insert a).2.live? (s.insert a).1 = some a := by
  simp [live?, insert]

/-- A new cell leaves the others alone. -/
theorem live?_insert_of_lt {s : Store} {a : Automaton} {h : Handle}
    (hlt : h.index < s.cells.size) : (s.insert a).2.live? h = s.live? h := by
  have hne : h.index ≠ s.cells.size := Nat.ne_of_lt hlt
  simp [live?, insert, Array.getElem?_push, hne]

/-- A consumed cell is not live. -/
theorem live?_put_consumed (s : Store) (h : Handle) :
    (s.put h .consumed).live? h = none := by
  by_cases hlt : h.index < s.cells.size
  · simp [live?, put, hlt]
  · simp [live?, put, hlt]

/-- A cell with a live content is live. -/
theorem live?_put_live {s : Store} {h : Handle} (a : Automaton)
    (hlt : h.index < s.cells.size) : (s.put h (.live a)).live? h = some a := by
  simp [live?, put, hlt]

/-- A change at one cell leaves the others alone. -/
theorem live?_put_of_ne {s : Store} {h k : Handle} (c : Cell) (hne : h ≠ k) :
    (s.put h c).live? k = s.live? k := by
  simp [live?, put, Handle.index_ne hne]

/-- A live cell is a cell. -/
theorem lt_size_of_live? {s : Store} {h : Handle} {a : Automaton} (hl : s.live? h = some a) :
    h.index < s.cells.size := by
  by_cases hlt : h.index < s.cells.size
  · exact hlt
  · simp [live?, hlt] at hl

end Store

/-- Programs over a store.  A failing program keeps the store that it has reached. -/
abbrev StoreM := ExceptT Fault (StateM Store)

namespace StoreM

/-- Runs a program on a store: its result, and the store that it leaves. -/
def runOn {α : Type} (program : StoreM α) (s : Store) : Except Fault α × Store :=
  StateT.run (ExceptT.run program) s

/-- Makes a new cell. -/
def alloc (a : Automaton) : StoreM Handle := modifyGet fun s => s.insert a

/-- The automaton at `h`, which stays live. -/
def read (h : Handle) : StoreM Automaton := do
  match (← get).live? h with
  | some a => return a
  | none => throw .consumed

/-- The automaton at `h`, which is consumed. -/
def take (h : Handle) : StoreM Automaton := do
  let a ← read h
  modify fun s => s.put h .consumed
  return a

/-- Adds a transition to the automaton at `h`. -/
def addTransition (h : Handle) (t : Transition) : StoreM Unit := do
  let a ← read h
  modify fun s => s.put h (.live (a.addTransition t))

/-- A computation that does not touch the store. -/
def compute {α : Type} (r : Except Fault α) : StoreM α := ExceptT.mk (pure r)

/-- A new cell for the repetition of `h`. -/
def star (h : Handle) : StoreM Handle := do
  let a ← take h
  alloc (← compute a.star)

/-- A new cell for the concatenation of `h` and `k`. -/
def concat (h k : Handle) : StoreM Handle := do
  let a ← take h
  let b ← take k
  alloc (← compute (a.concat b))

/-- A new cell for the union of `h` and `k`. -/
def union (h k : Handle) : StoreM Handle := do
  let a ← take h
  let b ← take k
  alloc (← compute (a.union b))

/-! ## What the programs do -/

/-- A program that ends gives its result and its store to the next one. -/
theorem runOn_bind {α β : Type} (p : StoreM α) (q : α → StoreM β) (s : Store) :
    (p >>= q).runOn s =
      match p.runOn s with
      | (.ok a, s') => (q a).runOn s'
      | (.error f, s') => (.error f, s') := by
  show StateT.run (ExceptT.run (p >>= q)) s = _
  rw [ExceptT.run_bind, StateT.run_bind]
  show (match StateT.run (ExceptT.run p) s with | (r, s') => _) = _
  cases h : StateT.run (ExceptT.run p) s with
  | mk r s' => cases r <;> simp [runOn, h] <;> rfl

/-- A new cell is made at the end of the store. -/
theorem runOn_alloc (a : Automaton) (s : Store) :
    (alloc a).runOn s = (.ok (s.insert a).1, (s.insert a).2) := rfl

/-- A computation keeps the store. -/
theorem runOn_compute {α : Type} (r : Except Fault α) (s : Store) :
    (compute r).runOn s = (r, s) := rfl

/-- Reading a live cell. -/
theorem runOn_read_of_live {s : Store} {h : Handle} {a : Automaton}
    (hl : s.live? h = some a) : (read h).runOn s = (.ok a, s) := by
  show (match s.live? h with | some a => _ | none => _ : StoreM Automaton).runOn s = _
  rw [hl]
  rfl

/-- Reading any other cell. -/
theorem runOn_read_of_not_live {s : Store} {h : Handle} (hl : s.live? h = none) :
    (read h).runOn s = (.error .consumed, s) := by
  show (match s.live? h with | some a => _ | none => _ : StoreM Automaton).runOn s = _
  rw [hl]
  rfl

/-- **Taking a live cell** consumes it. -/
theorem runOn_take_of_live {s : Store} {h : Handle} {a : Automaton}
    (hl : s.live? h = some a) : (take h).runOn s = (.ok a, s.put h .consumed) := by
  rw [take, runOn_bind, runOn_read_of_live hl]
  rfl

/-- Taking any other cell fails and changes nothing. -/
theorem runOn_take_of_not_live {s : Store} {h : Handle} (hl : s.live? h = none) :
    (take h).runOn s = (.error .consumed, s) := by
  rw [take, runOn_bind, runOn_read_of_not_live hl]

end StoreM

end RegexCompiler
