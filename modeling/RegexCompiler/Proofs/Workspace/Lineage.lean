import RegexCompiler.Proofs.Compile.Basic
import RegexCompiler.Proofs.Workspace.Step

/-!
# Where automata come from

Beside a run one can note, for every cell that is made, from which cells or from which text it was
made (`Origin`, `Workspace.origins`).  The notes of a cell and of the cells behind it unfold to one
expression, its *history* (`History`), although the cells themselves are consumed on the way,
names are shared, and failing steps lose operands.

The invariant is `Lineage`: a live cell holds what its history builds, and no cell that was used
as an operand is live.  The second part is what keeps operands apart: a construction takes live
cells only, so it never takes one that was an operand before.  Three things happen to a store, and
each keeps the invariant:

* a cell is consumed (`Lineage.consume`);
* a cell is made from consumed ones (`Lineage.born`);
* a register is bound (`Lineage.bind`).

So a step keeps it, whether it ends well or fails after its first operand (`Lineage.step`), and a
run does (`Lineage.run`).
-/

namespace RegexCompiler

/-! ## Origins and histories -/

/-- How an automaton was made. -/
inductive Origin where
  /-- From a symbol. -/
  | literal (symbol : String)
  /-- From a text. -/
  | compiled (regex : String)
  /-- By repetition. -/
  | star (a : Handle)
  /-- By concatenation. -/
  | concat (a b : Handle)
  /-- By union. -/
  | union (a b : Handle)
  deriving DecidableEq, Repr

/-- The cells that an automaton was made from. -/
def Origin.operands : Origin → List Handle
  | literal _ | compiled _ => []
  | star a => [a]
  | concat a b | union a b => [a, b]

/-- **The history of a cell** as an expression, where `log` tells how each cell was made. -/
inductive History (log : List Origin) : Handle → Expr → Prop where
  /-- A symbol is its own history. -/
  | literal {h : Handle} {s : String} : log[h.index]? = some (.literal s) →
      History log h (.literal s)
  /-- A text is read. -/
  | compiled {h : Handle} {regex : String} {e : Expr} :
      log[h.index]? = some (.compiled regex) → Expr.parse regex.toList = .ok e → History log h e
  /-- A repetition repeats the history of its part. -/
  | star {h a : Handle} {e : Expr} : log[h.index]? = some (.star a) → History log a e →
      History log h (.star e)
  /-- A concatenation concatenates the histories of its parts. -/
  | concat {h a b : Handle} {l r : Expr} : log[h.index]? = some (.concat a b) →
      History log a l → History log b r → History log h (.concat l r)
  /-- A union unites the histories of its parts. -/
  | union {h a b : Handle} {l r : Expr} : log[h.index]? = some (.union a b) →
      History log a l → History log b r → History log h (.union l r)

namespace Maker

/-- What a maker makes its automaton from, by what the registers name. -/
def origin? (w : Workspace) : Maker → Option Origin
  | literal s => some (.literal s)
  | compile regex => some (.compiled regex)
  | star a => do return .star (← w.find? a)
  | concat a b => do return .concat (← w.find? a) (← w.find? b)
  | union a b => do return .union (← w.find? a) (← w.find? b)
  | empty | sized _ | given _ => none

/-- The makers that start from symbols and from texts that compile. -/
def Lawful : Maker → Prop
  | literal _ | star _ | concat _ _ | union _ _ => True
  | compile regex => ∃ a, RegexCompiler.compile regex = .ok a
  | empty | sized _ | given _ => False

/-- The registers that a maker takes from. -/
def names : Maker → List String
  | star a => [a]
  | concat a b | union a b => [a, b]
  | empty | sized _ | literal _ | given _ | compile _ => []

end Maker

namespace Step

/-- What a step notes: how it made an automaton, if it did. -/
def origin? (w : Workspace) (s : Step) : Option Origin :=
  match s, (w.step s).1 with
  | make _ maker, .ok _ => maker.origin? w
  | _, _ => none

/-- The steps that make automata from symbols, texts and each other, share them or ask them. -/
def Lawful : Step → Prop
  | make _ maker => maker.Lawful
  | share _ _ | ask _ _ => True
  | addTransition _ _ => False

/-- The registers that a step looks up. -/
def names : Step → List String
  | make _ maker => maker.names
  | share a _ | addTransition a _ | ask a _ => [a]

end Step

/-- The notes of a run: how each automaton was made, the oldest first. -/
def Workspace.origins (w : Workspace) : List Step → List Origin
  | [] => []
  | s :: rest => (s.origin? w).toList ++ (w.step s).2.origins rest

/-- What may go wrong in a step that looks up `names`: a consumed automaton is used, or a register
names nothing. -/
def Workspace.Excuses (w : Workspace) (names : List String) (error : StepError) : Prop :=
  error = .broken .consumed ∨ ∃ name ∈ names, w.find? name = none ∧ error = .unbound name

namespace History

variable {log : List Origin} {h : Handle} {e : Expr}

/-- **A cell has one history.** -/
theorem unique {e' : Expr} (he : History log h e) (he' : History log h e') : e = e' := by
  induction he generalizing e' with
  | literal horigin =>
      cases he' <;> simp_all
  | compiled horigin hparse =>
      cases he' <;> simp_all
  | star horigin _ ih =>
      cases he' with
      | star horigin' hpart =>
          rw [horigin] at horigin'
          cases horigin'
          rw [ih hpart]
      | _ => simp_all
  | concat horigin _ _ ihl ihr =>
      cases he' with
      | concat horigin' hl hr =>
          rw [horigin] at horigin'
          cases horigin'
          rw [ihl hl, ihr hr]
      | _ => simp_all
  | union horigin _ _ ihl ihr =>
      cases he' with
      | union horigin' hl hr =>
          rw [horigin] at horigin'
          cases horigin'
          rw [ihl hl, ihr hr]
      | _ => simp_all

/-- Later notes do not change the earlier ones. -/
theorem noted {more : List Origin} {i : Nat} {o : Origin} (ho : log[i]? = some o) :
    (log ++ more)[i]? = some o := by
  obtain ⟨hi, -⟩ := List.getElem?_eq_some_iff.mp ho
  rwa [List.getElem?_append_left hi]

/-- A history does not depend on later notes. -/
theorem append (he : History log h e) (more : List Origin) : History (log ++ more) h e := by
  induction he with
  | literal ho => exact .literal (noted ho)
  | compiled ho hparse => exact .compiled (noted ho) hparse
  | star ho _ ih => exact .star (noted ho) ih
  | concat ho _ _ ihl ihr => exact .concat (noted ho) ihl ihr
  | union ho _ _ ihl ihr => exact .union (noted ho) ihl ihr

end History

/-! ## The invariant -/

/-- **What a store and its notes have to do with each other.** -/
structure Lineage (w : Workspace) (log : List Origin) : Prop where
  /-- There is one note for each cell. -/
  length_eq : log.length = w.store.cells.size
  /-- A register names a cell. -/
  lt_of_find? : ∀ {name h}, w.find? name = some h → h.index < log.length
  /-- Every cell has a history. -/
  exists_history : ∀ h : Handle, h.index < log.length → ∃ e, History log h e
  /-- A live cell holds what its history builds. -/
  build_eq : ∀ {h a e}, w.store.live? h = some a → History log h e → e.build = .ok a
  /-- An operand is a cell that is not live. -/
  spent : ∀ h ∈ log.flatMap Origin.operands, h.index < log.length ∧ w.store.live? h = none
  /-- No cell is an operand twice. -/
  nodup : (log.flatMap Origin.operands).Nodup

namespace Lineage

variable {w : Workspace} {log : List Origin} {h k : Handle} {a b : Automaton} {e : Expr}

/-- Nothing is noted before the first step. -/
theorem empty : Lineage {} [] where
  length_eq := rfl
  lt_of_find? := by simp [Workspace.find?]
  exists_history := by simp
  build_eq := by simp [Store.live?]
  spent := by simp
  nodup := List.nodup_nil

/-- **Consuming a cell** needs no note. -/
theorem consume (hw : Lineage w log) (h : Handle) :
    Lineage (w.over (w.store.put h .consumed)) log where
  length_eq := by rw [hw.length_eq]; exact (Store.size_put _ _ _).symm
  lt_of_find? := hw.lt_of_find?
  exists_history := hw.exists_history
  build_eq := by
    intro k a e hlive he
    exact hw.build_eq (Store.live?_of_live?_put_consumed hlive).2 he
  spent := by
    intro k hk
    obtain ⟨hlt, hdead⟩ := hw.spent k hk
    refine ⟨hlt, ?_⟩
    by_cases hne : h = k
    · rw [← hne]
      exact Store.live?_put_consumed _ _
    · exact (Store.live?_put_of_ne _ hne).trans hdead
  nodup := hw.nodup

/-- **Making a cell** from cells that are not live and that were no operands before. -/
theorem born (hw : Lineage w log) {o : Origin}
    (hhistory : History (log ++ [o]) ⟨log.length⟩ e) (hbuild : e.build = .ok a)
    (hdead : ∀ h ∈ o.operands, h.index < log.length ∧ w.store.live? h = none)
    (hfresh : ∀ h ∈ o.operands, h ∉ log.flatMap Origin.operands) (hnodup : o.operands.Nodup) :
    Lineage (w.over (w.store.insert a).2) (log ++ [o]) where
  length_eq := by
    rw [List.length_append, hw.length_eq]
    exact (Store.size_insert _ _).symm
  lt_of_find? := by
    intro name h hfind
    rw [List.length_append]
    exact Nat.lt_add_right _ (hw.lt_of_find? hfind)
  exists_history := by
    intro h hlt
    by_cases hold : h.index < log.length
    · obtain ⟨e, he⟩ := hw.exists_history h hold
      exact ⟨e, he.append _⟩
    -- the only cell that is not old is the new one
    · obtain ⟨i⟩ := h
      have hle : log.length ≤ i := Nat.le_of_not_lt hold
      have hge : i < log.length + 1 := by simpa using hlt
      obtain rfl : i = log.length := by omega
      exact ⟨e, hhistory⟩
  build_eq := by
    intro h b e' hlive he'
    rcases Store.live?_of_live?_insert hlive with ⟨rfl, rfl⟩ | ⟨hlt, hlive⟩
    · have hnew : (w.store.insert b).1 = ⟨log.length⟩ := by rw [hw.length_eq]; rfl
      rw [hnew] at he'
      rw [he'.unique hhistory, hbuild]
    · obtain ⟨e, he⟩ := hw.exists_history h (by rwa [hw.length_eq])
      rw [he'.unique (he.append _)]
      exact hw.build_eq hlive he
  spent := by
    intro h hh
    have hboth : h.index < log.length ∧ w.store.live? h = none := by
      rw [List.flatMap_append, List.mem_append, List.flatMap_singleton] at hh
      rcases hh with hh | hh
      · exact hw.spent h hh
      · exact hdead h hh
    refine ⟨by rw [List.length_append]; exact Nat.lt_add_right _ hboth.1, ?_⟩
    rw [hw.length_eq] at hboth
    exact (Store.live?_insert_of_lt hboth.1).trans hboth.2
  nodup := by
    rw [List.flatMap_append, List.flatMap_singleton]
    refine hw.nodup.append hnodup ?_
    intro h hold hnew
    exact hfresh h hnew hold

/-- **Binding a register** to a cell. -/
theorem bind (hw : Lineage w log) (hlt : h.index < log.length) (name : String) :
    Lineage (w.bind name h) log where
  length_eq := hw.length_eq
  lt_of_find? := by
    intro other k hfind
    by_cases hother : other = name
    · rw [hother, Workspace.find?_bind_self] at hfind
      cases hfind
      exact hlt
    · rw [Workspace.find?_bind_of_ne hother] at hfind
      exact hw.lt_of_find? hfind
  exists_history := hw.exists_history
  build_eq := hw.build_eq
  spent := hw.spent
  nodup := hw.nodup

/-- A live cell was no operand. -/
theorem not_mem_operands (hw : Lineage w log) (hlive : w.store.live? h = some a) :
    h ∉ log.flatMap Origin.operands := by
  intro hspent
  rw [(hw.spent h hspent).2] at hlive
  cases hlive

/-- A live cell has a history, which builds what it holds. -/
theorem exists_build (hw : Lineage w log) (hlive : w.store.live? h = some a) :
    ∃ e, History log h e ∧ e.build = .ok a := by
  have hlt : h.index < log.length := by
    rw [hw.length_eq]
    exact Store.lt_size_of_live? hlive
  obtain ⟨e, he⟩ := hw.exists_history h hlt
  exact ⟨e, he, hw.build_eq hlive he⟩

end Lineage

/-! ## What a maker does -/

/-- How a program that makes an automaton may end: with a new cell, which is noted, or with an
excuse, and then nothing is noted.  Either way the invariant is kept. -/
def Keeps (w : Workspace) (log : List Origin) (names : List String) (origin : Option Origin)
    (program : WorkspaceM Handle) : Prop :=
  (∃ w' o a, program.runOn w = (.ok ⟨log.length⟩, w') ∧ origin = some o ∧
    w'.store.live? ⟨log.length⟩ = some a ∧ Lineage w' (log ++ [o])) ∨
  (∃ w' error, program.runOn w = (.error error, w') ∧ w.Excuses names error ∧ Lineage w' log)

namespace Keeps

open WorkspaceM (runOn_bind runOn_onStore runOn_resolve resolve onStore)

variable {w : Workspace} {log : List Origin} {names : List String} {h k : Handle}

/-- A program goes on with what a register names, if it names something. -/
theorem resolve_bind {name : String} {origin : Handle → Option Origin}
    {program : Handle → WorkspaceM Handle} (hw : Lineage w log) (hname : name ∈ names)
    (hkeeps : ∀ h, w.find? name = some h → Keeps w log names (origin h) (program h)) :
    Keeps w log names ((w.find? name).bind origin) (resolve name >>= program) := by
  unfold Keeps
  rw [runOn_bind, runOn_resolve]
  cases hfind : w.find? name with
  | some h => exact hkeeps h hfind
  | none => exact .inr ⟨w, _, rfl, .inr ⟨name, hname, hfind, rfl⟩, hw⟩

/-- A program on the store that finds something consumed. -/
theorem of_consumed {origin : Option Origin} {p : StoreM Handle} {s : Store}
    (hrun : p.runOn w.store = (.error .consumed, s)) (hw : Lineage (w.over s) log) :
    Keeps w log names origin (onStore p) := by
  refine .inr ⟨w.over s, .broken .consumed, ?_, .inl rfl, hw⟩
  rw [runOn_onStore, hrun]
  rfl

/-- A program on the store that places what it has made from parts that it has consumed. -/
theorem of_place {o : Origin} {p : StoreM Handle} {s : Store} {e : Expr}
    {r : Except Fault Automaton} (hrun : p.runOn w.store = s.place r)
    (hw : Lineage (w.over s) log) (hbuild : e.build = r)
    (hhistory : History (log ++ [o]) ⟨log.length⟩ e)
    (hdead : ∀ h ∈ o.operands, h.index < log.length ∧ s.live? h = none)
    (hfresh : ∀ h ∈ o.operands, h ∉ log.flatMap Origin.operands) (hnodup : o.operands.Nodup) :
    Keeps w log names (some o) (onStore p) := by
  obtain ⟨a, ha, -, -⟩ := e.exists_build
  have hplace : p.runOn w.store = (.ok (s.insert a).1, (s.insert a).2) := by
    rw [hrun, ← hbuild, ha]
    rfl
  have hnew : (s.insert a).1 = ⟨log.length⟩ := by
    rw [hw.length_eq]
    rfl
  refine .inl ⟨w.over (s.insert a).2, o, a, ?_, rfl, ?_,
    hw.born hhistory ha hdead hfresh hnodup⟩
  · rw [runOn_onStore, hplace, hnew]
    rfl
  · rw [← hnew]
    exact Store.live?_insert_self _ _

/-- The last note is that of the newest cell. -/
theorem noted_last (log : List Origin) (o : Origin) :
    (log ++ [o])[(Handle.mk log.length).index]? = some o := by
  simp

/-- Making a symbol keeps the invariant. -/
theorem literal (hw : Lineage w log) (symbol : String) :
    Keeps w log names (some (.literal symbol)) (onStore (StoreM.alloc (.literal symbol))) := by
  refine of_place (s := w.store) (e := .literal symbol) rfl hw (Expr.build_eq_assemble _)
    (.literal (noted_last _ _)) ?_ ?_ ?_ <;> simp [Origin.operands]

/-- Compiling an accepted text keeps the invariant. -/
theorem compiled (hw : Lineage w log) {regex : String} (hregex : ∃ a, compile regex = .ok a) :
    Keeps w log names (some (.compiled regex)) (Maker.compile regex).make := by
  obtain ⟨a, ha⟩ := hregex
  obtain ⟨e, hparse, hbuild⟩ := exists_parse_of_compile_eq_ok ha
  have hrun : StoreM.runOn (do
      StoreM.alloc (← StoreM.compute (Compilation.ofText regex)).automaton) w.store =
        w.store.place (.ok a) := by
    rw [StoreM.runOn_bind, StoreM.runOn_compute, Compilation.ofText_of_compile_eq_ok ha]
    rfl
  exact of_place (o := .compiled regex) hrun hw hbuild (.compiled (noted_last _ _) hparse)
    (by simp [Origin.operands]) (by simp [Origin.operands]) (by simp [Origin.operands])

/-- Repeating what a cell holds keeps the invariant. -/
theorem star (hw : Lineage w log) (hlt : h.index < log.length) :
    Keeps w log names (some (.star h)) (onStore (StoreM.star h)) := by
  cases hlive : w.store.live? h with
  | none => exact of_consumed (StoreM.runOn_star_of_not_live hlive) hw
  | some a =>
      obtain ⟨e, he, hbuild⟩ := hw.exists_build hlive
      -- what is live now was no operand before, so it may become one
      have hfresh := hw.not_mem_operands hlive
      refine of_place (StoreM.runOn_star_of_live hlive) (hw.consume h) (Expr.build_star hbuild)
        (.star (noted_last _ _) (he.append _)) ?_ ?_ (List.nodup_singleton _)
      · exact List.forall_mem_singleton.mpr ⟨hlt, Store.live?_put_consumed _ _⟩
      · exact List.forall_mem_singleton.mpr hfresh

/-- Combining what two cells hold.  If the second one is not live, the first one is lost, and that
it is lost needs no note. -/
theorem combine (make : Automaton → Automaton → Except Fault Automaton)
    (node : Expr → Expr → Expr) {o : Origin} (hw : Lineage w log) (hh : h.index < log.length)
    (hk : k.index < log.length) (hoperands : o.operands = [h, k])
    (hnode : ∀ {l r a b}, l.build = .ok a → r.build = .ok b → (node l r).build = make a b)
    (hhistory : ∀ {l r}, History (log ++ [o]) h l → History (log ++ [o]) k r →
      History (log ++ [o]) ⟨log.length⟩ (node l r)) :
    Keeps w log names (some o) (onStore (StoreM.combine make h k)) := by
  cases hlive : w.store.live? h with
  | none => exact of_consumed (StoreM.runOn_combine_of_not_live hlive) hw
  | some a =>
      have hfirst := hw.consume h
      -- the second part is looked up when the first one is consumed, so `h = k` ends here
      cases hlive' : (w.store.put h .consumed).live? k with
      | none => exact of_consumed (StoreM.runOn_combine_of_not_live_right hlive hlive') hfirst
      | some b =>
          obtain ⟨hne, hlive''⟩ := Store.live?_of_live?_put_consumed hlive'
          obtain ⟨l, hl, hlbuild⟩ := hw.exists_build hlive
          obtain ⟨r, hr, hrbuild⟩ := hw.exists_build hlive''
          have hdead : ((w.store.put h .consumed).put k .consumed).live? h = none :=
            (Store.live?_put_of_ne _ hne.symm).trans (Store.live?_put_consumed _ _)
          refine of_place (StoreM.runOn_combine_of_live hlive hne hlive'') (hfirst.consume k)
            (hnode hlbuild hrbuild) (hhistory (hl.append _) (hr.append _)) ?_ ?_ ?_
          · rw [hoperands]
            refine List.forall_mem_cons.mpr ⟨⟨hh, hdead⟩, List.forall_mem_singleton.mpr ⟨hk, ?_⟩⟩
            exact Store.live?_put_consumed _ _
          · rw [hoperands]
            refine List.forall_mem_cons.mpr ⟨hw.not_mem_operands hlive, ?_⟩
            exact List.forall_mem_singleton.mpr (hw.not_mem_operands hlive'')
          · rw [hoperands]
            simpa using hne

end Keeps

namespace Lineage

variable {w : Workspace} {log : List Origin}

/-- **A maker** keeps the invariant, however it ends. -/
theorem make (hw : Lineage w log) {maker : Maker} (hlawful : maker.Lawful) :
    Keeps w log maker.names (maker.origin? w) maker.make := by
  cases maker with
  | literal symbol => exact Keeps.literal hw symbol
  | compile regex => exact Keeps.compiled hw hlawful
  | star a =>
      refine Keeps.resolve_bind hw List.mem_cons_self ?_
      intro h hh
      exact Keeps.star hw (hw.lt_of_find? hh)
  | concat a b =>
      refine Keeps.resolve_bind hw List.mem_cons_self ?_
      intro h hh
      refine Keeps.resolve_bind hw (List.mem_cons_of_mem _ List.mem_cons_self) ?_
      intro k hk
      exact Keeps.combine Automaton.concat .concat hw (hw.lt_of_find? hh) (hw.lt_of_find? hk)
        rfl Expr.build_concat (.concat (Keeps.noted_last _ _))
  | union a b =>
      refine Keeps.resolve_bind hw List.mem_cons_self ?_
      intro h hh
      refine Keeps.resolve_bind hw (List.mem_cons_of_mem _ List.mem_cons_self) ?_
      intro k hk
      exact Keeps.combine Automaton.union .union hw (hw.lt_of_find? hh) (hw.lt_of_find? hk)
        rfl Expr.build_union (.union (Keeps.noted_last _ _))
  | empty => exact hlawful.elim
  | sized n => exact hlawful.elim
  | given a => exact hlawful.elim

/-- **One step** keeps the invariant with what it notes, and fails with an excuse only. -/
theorem step (hw : Lineage w log) {s : Step} (hlawful : s.Lawful) :
    Lineage (w.step s).2 (log ++ (s.origin? w).toList) ∧
      ∀ error, (w.step s).1 = .error error → w.Excuses s.names error := by
  cases s with
  | make into maker =>
      -- only what a maker makes is noted; a step of any other kind leaves the notes as they are
      rcases hw.make hlawful with
        ⟨w', o, a, hmake, ho, hlive, hw'⟩ | ⟨w', error, hmake, herror, hw'⟩
      · have hstep := Workspace.step_make_of_ok hmake hlive into
        have hnote : Step.origin? w (.make into maker) = some o := by
          simp [Step.origin?, hstep, ho]
        rw [hstep, hnote]
        refine ⟨hw'.bind (by simp) into, ?_⟩
        intro error hcontra
        cases hcontra
      · have hstep := Workspace.step_make_of_error hmake into
        have hnote : Step.origin? w (.make into maker) = none := by
          simp [Step.origin?, hstep]
        rw [hstep, hnote, Option.toList_none, List.append_nil]
        refine ⟨hw', ?_⟩
        intro other hother
        cases hother
        exact herror
  | share a into =>
      rw [Workspace.step_share]
      have hnote : Step.origin? w (.share a into) = none := rfl
      rw [hnote, Option.toList_none, List.append_nil]
      cases hfind : w.find? a with
      | some h =>
          refine ⟨hw.bind (hw.lt_of_find? hfind) into, ?_⟩
          intro error hcontra
          cases hcontra
      | none =>
          refine ⟨hw, ?_⟩
          intro error herror
          cases herror
          exact .inr ⟨a, List.mem_singleton_self _, hfind, rfl⟩
  | ask a q =>
      rw [Workspace.step_ask]
      have hnote : Step.origin? w (.ask a q) = none := rfl
      rw [hnote, Option.toList_none, List.append_nil]
      cases hfind : w.find? a with
      | some h =>
          refine ⟨hw, ?_⟩
          intro error herror
          rcases StoreM.runOn_ask q h w.store with ⟨answer, hask⟩ | ⟨-, hask⟩
          · simp only [hask] at herror
            cases herror
          · simp only [hask] at herror
            cases herror
            exact .inl rfl
      | none =>
          refine ⟨hw, ?_⟩
          intro error herror
          cases herror
          exact .inr ⟨a, List.mem_singleton_self _, hfind, rfl⟩
  | addTransition a t => exact hlawful.elim

/-- **A run** keeps the invariant with what it notes. -/
theorem run {steps : List Step} (hsteps : ∀ s ∈ steps, s.Lawful) (hw : Lineage w log) :
    Lineage (w.run steps).2 (log ++ w.origins steps) := by
  induction steps generalizing w log with
  | nil =>
      rw [Workspace.origins, List.append_nil]
      exact hw
  | cons s rest ih =>
      obtain ⟨hs, hrest⟩ := List.forall_mem_cons.mp hsteps
      rw [Workspace.origins, ← List.append_assoc]
      exact ih hrest (hw.step hs).1

end Lineage

/-- **A live automaton is what its history builds.**  After any run of steps that make automata
from symbols, from texts that compile and from each other, share them and ask them, going on after
failures:

* every cell has one history;
* a live cell holds the automaton that its history builds, and accepts the language of its history;
* no cell is an operand twice;
* the next step fails only by using a consumed automaton, or a register that names nothing. -/
theorem run_refines_histories {steps : List Step} (hsteps : ∀ s ∈ steps, s.Lawful) :
    let w := (Workspace.run {} steps).2
    let log := Workspace.origins {} steps
    log.length = w.store.cells.size ∧
    (∀ h : Handle, h.index < log.length → ∃! e, History log h e) ∧
    (∀ h a e, w.store.live? h = some a → History log h e →
      e.build = .ok a ∧ a.language = e.language) ∧
    (log.flatMap Origin.operands).Nodup ∧
    (∀ s : Step, s.Lawful → ∀ error, (w.step s).1 = .error error → w.Excuses s.names error) := by
  intro w log
  have hw : Lineage w log := Lineage.empty.run hsteps
  refine ⟨hw.length_eq, ?_, ?_, hw.nodup, ?_⟩
  · intro h hlt
    obtain ⟨e, he⟩ := hw.exists_history h hlt
    exact ⟨e, he, fun e' he' => he'.unique he⟩
  · intro h a e hlive he
    have hbuild := hw.build_eq hlive he
    obtain ⟨b, hb, -, hlanguage⟩ := e.exists_build
    obtain rfl : b = a := Except.ok.inj (hb.symm.trans hbuild)
    exact ⟨hbuild, hlanguage⟩
  · intro s hs
    exact (hw.step hs).2

/-- A run that uses a text, shares a name, and fails at a cell that was consumed by another name. -/
theorem run_refines_histories_shared :
    let steps : List Step := [.make "x" (.literal "a"), .make "y" (.compile "a|b"),
      .share "x" "z", .make "u" (.concat "x" "y"), .make "v" (.star "z"), .ask "u" .size]
    (∀ s ∈ steps, s.Lawful) ∧
    ∃ a, (Workspace.run {} steps).2.store.live? ⟨2⟩ = some a ∧
      (Expr.concat (.literal "a") (.union (.literal "a") (.literal "b"))).build = .ok a := by
  intro steps
  have hderives : Derives .union "a|b".toList (.union (.literal "a") (.literal "b")) :=
    .alternative (.single (.link (.symbol (by decide)))) (.link (.symbol (by decide)))
  have hlawful : ∀ s ∈ steps, s.Lawful := by
    obtain ⟨a, hcompile, -, -, -⟩ := compile_of_derives hderives
    simpa [steps, Step.Lawful, Maker.Lawful] using ⟨a, hcompile⟩
  have horigins : Workspace.origins {} steps =
      [.literal "a", .compiled "a|b", .concat ⟨0⟩ ⟨1⟩] := by decide +kernel
  have hlive : ((Workspace.run {} steps).2.store.live? ⟨2⟩).isSome = true := by decide +kernel
  obtain ⟨a, ha⟩ := Option.isSome_iff_exists.mp hlive
  have hhistory : History (Workspace.origins {} steps) ⟨2⟩
      (.concat (.literal "a") (.union (.literal "a") (.literal "b"))) := by
    rw [horigins]
    exact .concat rfl (.literal rfl) (.compiled rfl (parse_of_derives hderives))
  obtain ⟨-, -, hbuilt, -⟩ := run_refines_histories hlawful
  exact ⟨hlawful, a, ha, (hbuilt ⟨2⟩ a _ ha hhistory).1⟩

end RegexCompiler
