import RegexCompiler.Store

/-!
# What the constructions do to a store

A construction takes its parts one after the other and then puts its result into a new cell
(`Store.place`).  The three ways in which it can end are told apart by what is live:

* `runOn_star_of_live`, `runOn_combine_of_live` — all parts are live: they are consumed, and the
  result is placed;
* `runOn_star_of_not_live`, `runOn_combine_of_not_live` — the first part is not live: nothing
  happens;
* `runOn_combine_of_not_live_right` — the second part is not live when its turn comes: the first
  one is lost.

Concatenation and union differ only in what they compute (`combine`).
-/

namespace RegexCompiler

namespace Store

/-- A store with the result of a computation in a new cell; a failed one leaves it as it is. -/
def place (s : Store) : Except Fault Automaton → Except Fault Handle × Store
  | .ok a => (.ok (s.insert a).1, (s.insert a).2)
  | .error f => (.error f, s)

/-- Replacing what a cell holds makes no cell. -/
@[simp] theorem size_put (s : Store) (h : Handle) (c : Cell) :
    (s.put h c).cells.size = s.cells.size := by
  simp [put]

/-- An insertion makes one cell. -/
@[simp] theorem size_insert (s : Store) (a : Automaton) :
    (s.insert a).2.cells.size = s.cells.size + 1 := by
  simp [insert]

/-- The new cell comes after all others. -/
@[simp] theorem index_insert (s : Store) (a : Automaton) :
    (s.insert a).1.index = s.cells.size := rfl

/-- Consuming a cell makes no other one live. -/
theorem live?_of_live?_put_consumed {s : Store} {h k : Handle} {a : Automaton}
    (hl : (s.put h .consumed).live? k = some a) : h ≠ k ∧ s.live? k = some a := by
  by_cases hne : h = k
  · rw [hne, live?_put_consumed] at hl
    cases hl
  · exact ⟨hne, by rwa [live?_put_of_ne _ hne] at hl⟩

/-- A live cell after an insertion is the new one or was live before. -/
theorem live?_of_live?_insert {s : Store} {h : Handle} {a b : Automaton}
    (hl : (s.insert b).2.live? h = some a) :
    (h = (s.insert b).1 ∧ a = b) ∨ (h.index < s.cells.size ∧ s.live? h = some a) := by
  have hlt := lt_size_of_live? hl
  rw [size_insert] at hlt
  by_cases hnew : h.index = s.cells.size
  · have hh : h = (s.insert b).1 := by
      cases h
      exact congrArg Handle.mk hnew
    rw [hh, live?_insert_self] at hl
    exact .inl ⟨hh, (Option.some.inj hl).symm⟩
  · have hold : h.index < s.cells.size := by omega
    rw [live?_insert_of_lt hold] at hl
    exact .inr ⟨hold, hl⟩

end Store

namespace StoreM

open Store (place)

/-- A construction over two parts. -/
def combine (make : Automaton → Automaton → Except Fault Automaton) (h k : Handle) :
    StoreM Handle := do
  let a ← take h
  let b ← take k
  alloc (← compute (make a b))

/-- Concatenation combines two parts. -/
theorem concat_eq_combine (h k : Handle) : concat h k = combine Automaton.concat h k := rfl

/-- Union combines two parts. -/
theorem union_eq_combine (h k : Handle) : union h k = combine Automaton.union h k := rfl

/-- Every construction ends by placing what it has computed. -/
theorem runOn_alloc_compute (r : Except Fault Automaton) (s : Store) :
    (do alloc (← compute r) : StoreM Handle).runOn s = s.place r := by
  rw [runOn_bind, runOn_compute]
  cases r <;> rfl

variable {s : Store} {h k : Handle} {a b : Automaton}
  {make : Automaton → Automaton → Except Fault Automaton}

/-- A repetition of a live part consumes it and places the result. -/
theorem runOn_star_of_live (hl : s.live? h = some a) :
    (star h).runOn s = (s.put h .consumed).place a.star := by
  rw [star, runOn_bind, runOn_take_of_live hl]
  exact runOn_alloc_compute _ _

/-- A repetition of a part that is not live leaves the store as it is. -/
theorem runOn_star_of_not_live (hl : s.live? h = none) :
    (star h).runOn s = (.error .consumed, s) := by
  rw [star, runOn_bind, runOn_take_of_not_live hl]

/-- Two different live parts are consumed one after the other, and then the result is placed. -/
theorem runOn_combine_of_live (hl : s.live? h = some a) (hne : h ≠ k)
    (hl' : s.live? k = some b) :
    (combine make h k).runOn s =
      ((s.put h .consumed).put k .consumed).place (make a b) := by
  have hk : (s.put h .consumed).live? k = some b := by rwa [Store.live?_put_of_ne _ hne]
  rw [combine, runOn_bind, runOn_take_of_live hl]
  show (take k >>= _ : StoreM Handle).runOn (s.put h .consumed) = _
  rw [runOn_bind, runOn_take_of_live hk]
  exact runOn_alloc_compute _ _

/-- If the first part is not live, the second one is not looked at. -/
theorem runOn_combine_of_not_live (hl : s.live? h = none) :
    (combine make h k).runOn s = (.error .consumed, s) := by
  rw [combine, runOn_bind, runOn_take_of_not_live hl]

/-- A construction whose second part is not live when its turn comes. -/
theorem runOn_combine_of_not_live_right (hl : s.live? h = some a)
    (hl' : (s.put h .consumed).live? k = none) :
    (combine make h k).runOn s = (.error .consumed, s.put h .consumed) := by
  rw [combine, runOn_bind, runOn_take_of_live hl]
  show (take k >>= _ : StoreM Handle).runOn (s.put h .consumed) = _
  rw [runOn_bind, runOn_take_of_not_live hl']

/-- A transition is added to a live automaton in its own cell. -/
theorem runOn_addTransition_of_live (hl : s.live? h = some a) (t : Transition) :
    (addTransition h t).runOn s = (.ok (), s.put h (.live (a.addTransition t))) := by
  rw [addTransition, runOn_bind, runOn_read_of_live hl]
  rfl

/-- No transition is added to an automaton that is not live. -/
theorem runOn_addTransition_of_not_live (hl : s.live? h = none) (t : Transition) :
    (addTransition h t).runOn s = (.error .consumed, s) := by
  rw [addTransition, runOn_bind, runOn_read_of_not_live hl]

end StoreM

end RegexCompiler
