import RegexCompiler.Proofs.Store
import RegexCompiler.Workspace.Step

/-!
# What a step does to a workspace

A step resolves its registers, runs one program on the store, and may bind a register.  Each of
the three has its law here (`runOn_resolve`, `runOn_onStore`, `step_make_of_ok`), and a program
that fails keeps what it has changed.

A question changes nothing (`runOn_ask`).
-/

namespace RegexCompiler

/-- A workspace with another store. -/
def Workspace.over (w : Workspace) (s : Store) : Workspace := { w with store := s }

namespace WorkspaceM

/-- Runs a program on a workspace: its result, and the workspace that it leaves. -/
def runOn {α : Type} (program : WorkspaceM α) (w : Workspace) : Except StepError α × Workspace :=
  StateT.run (ExceptT.run program) w

/-- A program that ends gives its result and its workspace to the next one. -/
theorem runOn_bind {α β : Type} (p : WorkspaceM α) (q : α → WorkspaceM β) (w : Workspace) :
    (p >>= q).runOn w =
      match p.runOn w with
      | (.ok a, w') => (q a).runOn w'
      | (.error e, w') => (.error e, w') := by
  show StateT.run (ExceptT.run (p >>= q)) w = _
  rw [ExceptT.run_bind, StateT.run_bind]
  show (match StateT.run (ExceptT.run p) w with | (r, w') => _) = _
  cases h : StateT.run (ExceptT.run p) w with
  | mk r w' => cases r <;> simp [runOn, h] <;> rfl

/-- A register is looked up, and nothing is changed. -/
theorem runOn_resolve (name : String) (w : Workspace) :
    (resolve name).runOn w =
      match w.find? name with
      | some h => (.ok h, w)
      | none => (.error (.unbound name), w) := by
  show (match w.find? name with | some h => _ | none => _ : WorkspaceM Handle).runOn w = _
  cases w.find? name <;> rfl

/-- A program on the store changes the store only. -/
theorem runOn_onStore {α : Type} (p : StoreM α) (w : Workspace) :
    (onStore p).runOn w =
      ((p.runOn w.store).1.mapError .broken, w.over (p.runOn w.store).2) := by
  have hget : (get : WorkspaceM Workspace).runOn w = (.ok w, w) := rfl
  unfold onStore
  rw [runOn_bind, hget]
  dsimp only
  cases p.runOn w.store with
  | mk r s => cases r <;> rfl

end WorkspaceM

namespace StoreM

/-- A live automaton is asked, and nothing is changed. -/
theorem runOn_map_read_of_live {α : Type} {s : Store} {h : Handle} {a : Automaton}
    (hlive : s.live? h = some a) (f : Automaton → α) :
    (do return f (← read h) : StoreM α).runOn s = (.ok (f a), s) := by
  rw [runOn_bind, runOn_read_of_live hlive]
  rfl

/-- An automaton that is not live answers no question. -/
theorem runOn_map_read_of_not_live {α : Type} {s : Store} {h : Handle}
    (hlive : s.live? h = none) (f : Automaton → α) :
    (do return f (← read h) : StoreM α).runOn s = (.error .consumed, s) := by
  rw [runOn_bind, runOn_read_of_not_live hlive]

/-- **A question changes nothing**, and it fails only on a cell that is not live. -/
theorem runOn_ask (q : Query) (h : Handle) (s : Store) :
    (∃ answer, (q.ask h).runOn s = (.ok answer, s)) ∨
      (s.live? h = none ∧ (q.ask h).runOn s = (.error .consumed, s)) := by
  cases hlive : s.live? h with
  | some a =>
      refine .inl ?_
      cases q with
      | description => exact ⟨_, rfl⟩
      | initial => exact ⟨_, rfl⟩
      | _ => exact ⟨_, runOn_map_read_of_live hlive _⟩
  | none =>
      cases q with
      | description => exact .inl ⟨_, rfl⟩
      | initial => exact .inl ⟨_, rfl⟩
      | _ => exact .inr ⟨rfl, runOn_map_read_of_not_live hlive _⟩

end StoreM

namespace Workspace

open WorkspaceM (runOn_bind runOn_onStore runOn_resolve)

variable {w w' : Workspace} {maker : Maker} {h : Handle}

/-- A step of a maker that ends well binds the register and shows what was made. -/
theorem step_make_of_ok {a : Automaton} (hmake : maker.make.runOn w = (.ok h, w'))
    (hlive : w'.store.live? h = some a) (into : String) :
    w.step (.make into maker) = (.ok (.made a), w'.bind into h) := by
  show (Step.run (.make into maker)).runOn w = _
  rw [Step.run, runOn_bind, hmake]
  show (WorkspaceM.onStore (StoreM.read h) >>= _ : WorkspaceM Answer).runOn (w'.bind into h) = _
  have hread := StoreM.runOn_read_of_live (show (w'.bind into h).store.live? h = some a from hlive)
  rw [runOn_bind, runOn_onStore, hread]
  rfl

/-- A construction that fails binds no register. -/
theorem step_make_of_error {error : StepError} (hmake : maker.make.runOn w = (.error error, w'))
    (into : String) : w.step (.make into maker) = (.error error, w') := by
  show (Step.run (.make into maker)).runOn w = _
  rw [Step.run, runOn_bind, hmake]

/-- A second register names the same cell. -/
theorem step_share (w : Workspace) (a into : String) :
    w.step (.share a into) =
      match w.find? a with
      | some h => (.ok .nothing, w.bind into h)
      | none => (.error (.unbound a), w) := by
  show (Step.run (.share a into)).runOn w = _
  rw [Step.run, runOn_bind, runOn_resolve]
  cases w.find? a <;> rfl

/-- A question leaves the workspace as it is. -/
theorem step_ask (w : Workspace) (a : String) (q : Query) :
    w.step (.ask a q) =
      match w.find? a with
      | some h => (((q.ask h).runOn w.store).1.mapError .broken, w)
      | none => (.error (.unbound a), w) := by
  show (Step.run (.ask a q)).runOn w = _
  rw [Step.run, runOn_bind, runOn_resolve]
  cases w.find? a with
  | none => rfl
  | some h =>
      show (WorkspaceM.onStore (q.ask h)).runOn w = _
      rw [runOn_onStore]
      rcases StoreM.runOn_ask q h w.store with ⟨answer, hask⟩ | ⟨-, hask⟩
      · simp only [hask]
        rfl
      · simp only [hask]
        rfl

/-- Adding a transition changes a live cell, and fails on any other one. -/
theorem step_addTransition (w : Workspace) (a : String) (t : Transition) :
    w.step (.addTransition a t) =
      match w.find? a with
      | some h =>
        match w.store.live? h with
        | some x =>
          (.ok (.number (some (x.addTransition t).size)),
            w.over (w.store.put h (.live (x.addTransition t))))
        | none => (.error (.broken .consumed), w)
      | none => (.error (.unbound a), w) := by
  show (Step.run (.addTransition a t)).runOn w = _
  rw [Step.run, runOn_bind, runOn_resolve]
  cases w.find? a with
  | none => rfl
  | some h =>
      show (WorkspaceM.onStore (StoreM.addTransition h t) >>= _ : WorkspaceM Answer).runOn w = _
      rw [runOn_bind, runOn_onStore]
      cases hlive : w.store.live? h with
      | none =>
          simp only [StoreM.runOn_addTransition_of_not_live hlive, hlive]
          rfl
      | some x =>
          simp only [StoreM.runOn_addTransition_of_live hlive, hlive]
          have hchanged := Store.live?_put_live (x.addTransition t) (Store.lt_size_of_live? hlive)
          show (WorkspaceM.onStore (StoreM.read h) >>= _ : WorkspaceM Answer).runOn
            (w.over (w.store.put h (.live (x.addTransition t)))) = _
          rw [runOn_bind, runOn_onStore]
          simp only [Workspace.over, StoreM.runOn_read_of_live hchanged]
          rfl

end Workspace

end RegexCompiler
