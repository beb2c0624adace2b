import Mathlib.Logic.Relation
import RegexCompiler.Proofs.Expr.Walk

/-!
# The turns of a walk

A walk seen from the inside: what is still to do, the stack, and the store, and what one turn makes
of them (`Walk.Turn`).  A turn that takes a handle off the stack needs one to be there, and a
construction needs its parts to be live and their final states to be set; where this is not so,
there is no turn.

* `Turn.result_eq` — a turn does not change what the walk comes to;
* `Turn.weight_lt` — it leaves less to do, also where it makes the list longer;
* `exists_turn` — a walk that comes to a result has a next turn, unless nothing is left to do.

So the walk over an expression never gets stuck on its way (`walk_is_recursion`).
-/

namespace RegexCompiler

/-- **A walk on its way.** -/
structure Walk where
  /-- What is still to do, first one first. -/
  tasks : List Task
  /-- The handles of the parts that are done, top first. -/
  built : List Handle
  /-- The automata. -/
  store : Store

namespace Walk

/-- **One turn of a walk.** -/
inductive Turn : Walk → Walk → Prop where
  /-- A literal gets a cell. -/
  | literal (symbol : String) (tasks : List Task) (built : List Handle) (s : Store) :
      Turn ⟨.visit (.literal symbol) :: tasks, built, s⟩
        ⟨tasks, (s.insert (.literal symbol)).1 :: built, (s.insert (.literal symbol)).2⟩
  /-- A repetition waits for its part. -/
  | openStar (e : Expr) (tasks : List Task) (built : List Handle) (s : Store) :
      Turn ⟨.visit (.star e) :: tasks, built, s⟩ ⟨.visit e :: .star :: tasks, built, s⟩
  /-- A concatenation waits for its parts, the left one first. -/
  | openConcat (l r : Expr) (tasks : List Task) (built : List Handle) (s : Store) :
      Turn ⟨.visit (.concat l r) :: tasks, built, s⟩
        ⟨.visit l :: .visit r :: .concat :: tasks, built, s⟩
  /-- A union waits for its parts, the left one first. -/
  | openUnion (l r : Expr) (tasks : List Task) (built : List Handle) (s : Store) :
      Turn ⟨.visit (.union l r) :: tasks, built, s⟩
        ⟨.visit l :: .visit r :: .union :: tasks, built, s⟩
  /-- The part on top is repeated. -/
  | star {h j : Handle} {s s' : Store} (tasks : List Task) (built : List Handle) :
      (StoreM.star h).runOn s = (.ok j, s') →
      Turn ⟨.star :: tasks, h :: built, s⟩ ⟨tasks, j :: built, s'⟩
  /-- The two parts on top are concatenated; the right one is above the left one. -/
  | concat {h k j : Handle} {s s' : Store} (tasks : List Task) (built : List Handle) :
      (StoreM.concat h k).runOn s = (.ok j, s') →
      Turn ⟨.concat :: tasks, k :: h :: built, s⟩ ⟨tasks, j :: built, s'⟩
  /-- The two parts on top are united; the right one is above the left one. -/
  | union {h k j : Handle} {s s' : Store} (tasks : List Task) (built : List Handle) :
      (StoreM.union h k).runOn s = (.ok j, s') →
      Turn ⟨.union :: tasks, k :: h :: built, s⟩ ⟨tasks, j :: built, s'⟩

/-- Some turns, one after the other. -/
abbrev Reaches : Walk → Walk → Prop := Relation.ReflTransGen Turn

/-- What a walk comes to: the stack at its end, or a fault, and the store. -/
def result (w : Walk) : Except Fault (List Handle) × Store :=
  (Task.run w.tasks w.built).runOn w.store

/-- How much is still to do. -/
def weight (w : Walk) : Nat := (w.tasks.map Task.weight).foldr (· + ·) 0

variable {w w' : Walk}

/-- **A turn does not change what the walk comes to.** -/
theorem Turn.result_eq (h : w.Turn w') : w.result = w'.result := by
  cases h with
  | literal symbol tasks built s =>
      rw [result, Task.run, StoreM.runOn_bind, StoreM.runOn_alloc]
      rfl
  | openStar e tasks built s => rw [result, Task.run]; rfl
  | openConcat l r tasks built s => rw [result, Task.run]; rfl
  | openUnion l r tasks built s => rw [result, Task.run]; rfl
  | star tasks built hmake => rw [result, Task.run, StoreM.runOn_bind, hmake]; rfl
  | concat tasks built hmake => rw [result, Task.run, StoreM.runOn_bind, hmake]; rfl
  | union tasks built hmake => rw [result, Task.run, StoreM.runOn_bind, hmake]; rfl

/-- **A turn leaves less to do**, also where it makes the list of tasks longer. -/
theorem Turn.weight_lt (h : w.Turn w') : w'.weight < w.weight := by
  cases h <;> simp [weight, Task.weight, Expr.size] <;> omega

/-- A construction that comes to a result has made a new part. -/
theorem exists_of_runOn_bind {make : StoreM Handle} {go : Handle → StoreM (List Handle)} {s : Store}
    {hs : List Handle} {last : Store} (h : (make >>= go).runOn s = (.ok hs, last)) :
    ∃ j s', make.runOn s = (.ok j, s') := by
  rw [StoreM.runOn_bind] at h
  cases hmake : make.runOn s with
  | mk r s' =>
      cases r with
      | error f =>
          rw [hmake] at h
          cases h
      | ok j => exact ⟨j, s', rfl⟩

/-- **A walk that comes to a result is not stuck.** -/
theorem exists_turn {hs : List Handle} {s : Store} (h : w.result = (.ok hs, s)) :
    w = ⟨[], hs, s⟩ ∨ ∃ w', w.Turn w' := by
  obtain ⟨tasks, built, store⟩ := w
  change (Task.run tasks built).runOn store = (.ok hs, s) at h
  revert h
  -- the cases of the walk, in the order of its definition; in the last one the stack is too short
  fun_cases Task.run tasks built <;> intro h
  · cases h
    exact .inl rfl
  · exact .inr ⟨_, .literal _ _ _ _⟩
  · exact .inr ⟨_, .openStar _ _ _ _⟩
  · exact .inr ⟨_, .openConcat _ _ _ _ _⟩
  · exact .inr ⟨_, .openUnion _ _ _ _ _⟩
  · obtain ⟨j, s', hmake⟩ := exists_of_runOn_bind h
    exact .inr ⟨_, .star _ _ hmake⟩
  · obtain ⟨j, s', hmake⟩ := exists_of_runOn_bind h
    exact .inr ⟨_, .concat _ _ hmake⟩
  · obtain ⟨j, s', hmake⟩ := exists_of_runOn_bind h
    exact .inr ⟨_, .union _ _ hmake⟩
  · cases h

/-- Nor do several turns. -/
theorem Reaches.result_eq (h : w.Reaches w') : w.result = w'.result := by
  induction h with
  | refl => rfl
  | tail _ hturn ih => rw [ih, hturn.result_eq]

/-- **A walk that comes to a result gets there**, turn by turn. -/
theorem reaches_of_result {hs : List Handle} {s : Store} (w : Walk)
    (h : w.result = (.ok hs, s)) : w.Reaches ⟨[], hs, s⟩ := by
  obtain rfl | ⟨w', hturn⟩ := exists_turn h
  · exact .refl
  · rw [hturn.result_eq] at h
    exact .head hturn (reaches_of_result w' h)
termination_by w.weight
decreasing_by exact hturn.weight_lt

/-- The walk over an expression, at its start. -/
def start (e : Expr) : Walk := ⟨[.visit e], [], {}⟩

/-- The end of a walk over an expression: nothing is left to do, one handle is on the stack, and its
automaton is the only one that is live. -/
def last (e : Expr) (a : Automaton) : Walk :=
  ⟨[], [⟨e.size - 1⟩], { cells := (Array.replicate (e.size - 1) .consumed).push (.live a) }⟩

/-- The walk over an expression comes to its end, if the automaton can be put together. -/
theorem result_start {e : Expr} {a : Automaton} (h : e.assemble = .ok a) :
    (start e).result = (.ok (last e a).built, (last e a).store) := by
  have hplace : ((({} : Store).spend (e.size - 1)).insert a) =
      (⟨e.size - 1⟩, (last e a).store) := by
    simp [Store.insert, Store.spend, last]
  rw [result, start, Task.run_visit, StoreM.runOn_bind, Expr.runOn_construct, h, Store.place,
    hplace]
  simp only [Task.run]
  rfl

end Walk

/-- **The walk over an expression is the recursion that it replaces.**  Wherever it stands in a list
of tasks and whatever is on the stack, visiting an expression is running the recursion over the same
store and going on with its handle.  The automaton is the one that the recursion makes.

Every turn leaves less to do, and from every point on the way the walk goes on to the one end, so
nowhere is a handle, a live part or a final state missing.  At the end nothing is left to do, one
handle is on the stack, and of the automata made for the nodes all but its own one are used up. -/
theorem walk_is_recursion (e : Expr) :
    e.buildHandle = e.construct ∧
    (∀ tasks built, Task.run (.visit e :: tasks) built =
      e.construct >>= fun h => Task.run tasks (h :: built)) ∧
    (∀ w w' : Walk, w.Turn w' → w'.result = w.result ∧ w'.weight < w.weight) ∧
    ∃ a, e.assemble = .ok a ∧ e.build = .ok a ∧
      ∀ w, (Walk.start e).Reaches w → w.Reaches (Walk.last e a) := by
  obtain ⟨a, ha, -, -⟩ := e.exists_assemble
  refine ⟨e.buildHandle_eq_construct, Task.run_visit e, ?_, a, ha, ?_, ?_⟩
  · intro w w' hturn
    exact ⟨hturn.result_eq.symm, hturn.weight_lt⟩
  · rw [e.build_eq_assemble, ha]
  · intro w hw
    apply Walk.reaches_of_result
    rw [← hw.result_eq]
    exact Walk.result_start ha

/-- The walk over `(a|b)*`, seen when the left part of the union is done. -/
theorem walk_is_recursion_midway :
    let e : Expr := .star (.union (.literal "a") (.literal "b"))
    let w : Walk :=
      ⟨[.visit (.literal "b"), .union, .star], [⟨0⟩], { cells := #[.live (.literal "a")] }⟩
    let a : Automaton := {
      size := 8
      transitions := [⟨0, "E", 1⟩, ⟨1, "E", 2⟩, ⟨2, "a", 3⟩, ⟨3, "E", 6⟩, ⟨1, "E", 4⟩, ⟨4, "b", 5⟩,
        ⟨5, "E", 6⟩, ⟨6, "E", 7⟩, ⟨6, "E", 1⟩, ⟨0, "E", 7⟩]
      final := some 7 }
    (Walk.start e).Reaches w ∧ w.Reaches (Walk.last e a) ∧ e.build = .ok a := by
  intro e w a
  have hw : (Walk.start e).Reaches w :=
    .head (.openStar _ _ _ _) (.head (.openUnion _ _ _ _ _) (.single (.literal _ _ _ _)))
  obtain ⟨-, -, -, b, hb, hbuild, hlast⟩ := walk_is_recursion e
  obtain rfl : a = b := Except.ok.inj hb
  exact ⟨hw, hlast w hw, hbuild⟩

end RegexCompiler
