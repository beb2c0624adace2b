import RegexCompiler.Proofs.Compile.Basic
import RegexCompiler.Proofs.Workspace.Step

/-!
# What a construction does to a workspace

The constructions from registers are repetition, concatenation and union.  Each takes its operands
in order, and an operand that is taken is consumed, whatever happens afterwards.  `Effect` says
what one of them does, by three conditions on the workspace that it starts from:

* *spoiled*: an operand is consumed, or it is taken as the first operand already;
* *unset*: a final state that is needed is missing;
* *spent*: which cells are taken.

The cells that are taken are told apart from all others by `Store.Spends`; a step that fails in its
middle has taken fewer of them.  What one step does to the cells, a run does (`Store.Keeps`): a
consumed cell stays consumed, so no cell is an operand of two constructions that end well.
-/

namespace RegexCompiler

namespace Store

/-- Whether the cell at `h` is consumed. -/
def IsConsumed (s : Store) (h : Handle) : Prop := s.cells[h.index]? = some .consumed

/-- Whether the cell at `h` is live. -/
def IsLive (s : Store) (h : Handle) : Prop := ∃ a, s.live? h = some a

/-- Whether the cell at `h` holds an automaton whose final state is not set. -/
def LacksFinal (s : Store) (h : Handle) : Prop := ∃ a, s.live? h = some a ∧ a.final = none

/-- The cells of `s'` are those of `s`, but for the `spent` ones, which are consumed. -/
structure Spends (s s' : Store) (spent : Handle → Prop) : Prop where
  size_eq : s'.cells.size = s.cells.size
  isConsumed : ∀ k, spent k → s'.IsConsumed k
  cell_eq : ∀ k : Handle, ¬ spent k → s'.cells[k.index]? = s.cells[k.index]?

/-- What was consumed stays consumed. -/
def Keeps (s s' : Store) : Prop := ∀ h, s.IsConsumed h → s'.IsConsumed h

variable {s s' : Store} {h k : Handle} {a : Automaton}

/-- A handle is live just where its cell holds an automaton. -/
theorem live?_eq_some_iff : s.live? h = some a ↔ s.cells[h.index]? = some (.live a) := by
  unfold live?
  cases s.cells[h.index]? with
  | none => simp
  | some c => cases c <;> simp

/-- A consumed cell has no automaton. -/
theorem IsConsumed.live?_eq_none (hh : s.IsConsumed h) : s.live? h = none := by
  rw [IsConsumed] at hh
  rw [live?, hh]

/-- A cell is live or consumed. -/
theorem isLive_or_isConsumed (hlt : h.index < s.cells.size) : s.IsLive h ∨ s.IsConsumed h := by
  have hcell : s.cells[h.index]? = some s.cells[h.index] := Array.getElem?_eq_getElem hlt
  cases hc : s.cells[h.index] with
  | live a => exact .inl ⟨a, live?_eq_some_iff.mpr (by rw [hcell, hc])⟩
  | consumed => exact .inr (by rw [IsConsumed, hcell, hc])

/-- No cell is consumed and live. -/
theorem IsConsumed.not_isLive (hh : s.IsConsumed h) : ¬ s.IsLive h := by
  rintro ⟨a, hl⟩
  rw [hh.live?_eq_none] at hl
  cases hl

/-- A cell that is spent is consumed. -/
theorem isConsumed_put (hlt : h.index < s.cells.size) : (s.put h .consumed).IsConsumed h := by
  simp [IsConsumed, put, hlt]

/-- Replacing what a cell holds leaves the others as they are. -/
theorem cell_put_of_ne (c : Cell) (hne : k ≠ h) :
    (s.put h c).cells[k.index]? = s.cells[k.index]? := by
  simp [put, Handle.index_ne hne.symm]

/-- An insertion leaves the old cells as they are. -/
theorem cell_insert_of_lt (hlt : k.index < s.cells.size) :
    (s.insert a).2.cells[k.index]? = s.cells[k.index]? := by
  have hne : k.index ≠ s.cells.size := Nat.ne_of_lt hlt
  simp [insert, Array.getElem?_push, hne]

/-- An insertion consumes nothing and revives nothing. -/
theorem isConsumed_insert_iff : (s.insert a).2.IsConsumed k ↔ s.IsConsumed k := by
  by_cases hnew : k.index = s.cells.size
  · simp [IsConsumed, insert, hnew]
  · simp [IsConsumed, insert, Array.getElem?_push, hnew]

namespace Spends

variable {spent spent' : Handle → Prop}

/-- Nothing is spent where nothing happens. -/
theorem none (s : Store) : Spends s s fun _ => False :=
  ⟨rfl, fun _ h => h.elim, fun _ _ => rfl⟩

/-- Consuming one cell spends that one. -/
theorem put (hlt : h.index < s.cells.size) : Spends s (s.put h .consumed) fun k => k = h := by
  refine ⟨size_put _ _ _, ?_, fun k hk => cell_put_of_ne _ hk⟩
  rintro k rfl
  exact isConsumed_put hlt

/-- The spent cells may be described in another way. -/
theorem iff (hs : Spends s s' spent) (h : ∀ k, spent k ↔ spent' k) : Spends s s' spent' := by
  obtain rfl : spent = spent' := funext fun k => propext (h k)
  exact hs

/-- Two programs, one after the other, spend what either of them does. -/
theorem trans {s'' : Store} (hs : Spends s s' spent) (hs' : Spends s' s'' spent') :
    Spends s s'' fun k => spent k ∨ spent' k := by
  refine ⟨hs'.size_eq.trans hs.size_eq, ?_, ?_⟩
  · intro k hk
    by_cases hlater : spent' k
    · exact hs'.isConsumed k hlater
    · rw [IsConsumed, hs'.cell_eq k hlater]
      exact hs.isConsumed k (hk.resolve_right hlater)
  · intro k hk
    rw [not_or] at hk
    rw [hs'.cell_eq k hk.2, hs.cell_eq k hk.1]

/-- The consumed cells are the old ones and the spent ones. -/
theorem isConsumed_iff (hs : Spends s s' spent) (k : Handle) :
    s'.IsConsumed k ↔ s.IsConsumed k ∨ spent k := by
  by_cases hk : spent k
  · simp [hs.isConsumed k hk, hk]
  · simp [IsConsumed, hs.cell_eq k hk, hk]

end Spends

end Store

namespace Workspace

/-- Whether every register names a cell. -/
def Sound (w : Workspace) : Prop :=
  ∀ name h, w.find? name = some h → h.index < w.store.cells.size

/-- Registers keep naming cells if one more is bound to a cell. -/
theorem Sound.bind {w : Workspace} {h : Handle} (hw : w.Sound) (hlt : h.index < w.store.cells.size)
    (name : String) : (w.bind name h).Sound := by
  intro other k hk
  by_cases hother : other = name
  · rw [hother, find?_bind_self] at hk
    cases hk
    exact hlt
  · rw [find?_bind_of_ne hother] at hk
    exact hw other k hk

/-- **What a construction does** that starts from `w` and ends with `result`, an answer and a
workspace, and puts what it makes into the register `into`. -/
structure Effect (w : Workspace) (into : String) (result : Except StepError Answer × Workspace)
    (spoiled unset : Prop) (spent : Handle → Prop) : Prop where
  /-- It finds something consumed just where its operands are spoiled. -/
  consumed_iff : result.1 = .error (.broken .consumed) ↔ spoiled
  /-- Otherwise it misses a final state just where one is unset. -/
  finalUnset_iff : result.1 = .error (.broken .finalUnset) ↔ ¬ spoiled ∧ unset
  /-- Otherwise it ends well. -/
  made_iff : (∃ a, result.1 = .ok (.made a)) ↔ ¬ spoiled ∧ ¬ unset
  /-- The consumed cells are the old ones and the spent ones. -/
  isConsumed_iff : ∀ k, result.2.store.IsConsumed k ↔ w.store.IsConsumed k ∨ spent k
  /-- Every other cell holds what it held. -/
  cell_eq : ∀ k : Handle, k.index < w.store.cells.size → ¬ spent k →
    result.2.store.cells[k.index]? = w.store.cells[k.index]?
  /-- If it ends well, its register names a new cell with what was made. -/
  bound : ∀ a, result.1 = .ok (.made a) → ∃ h, result.2.find? into = some h ∧
    h.index = w.store.cells.size ∧ result.2.store.live? h = some a
  /-- If it fails, its register names what it named, and there is no new cell. -/
  unbound : ∀ error, result.1 = .error error →
    result.2.find? into = w.find? into ∧ result.2.store.cells.size = w.store.cells.size
  /-- Every other register names what it named. -/
  find?_eq : ∀ name, name ≠ into → result.2.find? name = w.find? name

namespace Effect

open WorkspaceM (onStore runOn_bind runOn_onStore runOn_resolve)

variable {w : Workspace} {into : String} {maker : Maker} {p : StoreM Handle} {s : Store}
  {spoiled unset : Prop} {spent : Handle → Prop}

/-- A construction that fails. -/
theorem of_fault {f : Fault} (hmake : maker.make.runOn w = (onStore p).runOn w)
    (hrun : p.runOn w.store = (.error f, s)) (hspends : w.store.Spends s spent)
    (hf : (f = .consumed ∧ spoiled) ∨ (f = .finalUnset ∧ ¬ spoiled ∧ unset)) :
    w.Effect into (w.step (.make into maker)) spoiled unset spent := by
  have hfails : maker.make.runOn w = (.error (.broken f), w.over s) := by
    rw [hmake, runOn_onStore, hrun]
    rfl
  rw [step_make_of_error hfails]
  refine ⟨?_, ?_, ?_, hspends.isConsumed_iff, fun k _ hk => hspends.cell_eq k hk, ?_, ?_, ?_⟩
  · rcases hf with ⟨rfl, hspoiled⟩ | ⟨rfl, hspoiled, -⟩ <;> simp [hspoiled]
  · rcases hf with ⟨rfl, hspoiled⟩ | ⟨rfl, hspoiled, hunset⟩ <;> simp [*]
  · rcases hf with ⟨-, hspoiled⟩ | ⟨-, hspoiled, hunset⟩ <;> simp [*]
  · intro a ha
    cases ha
  · intro error _
    exact ⟨rfl, hspends.size_eq⟩
  · intro name _
    rfl

/-- A construction that ends well. -/
theorem of_place {a : Automaton} (hmake : maker.make.runOn w = (onStore p).runOn w)
    (hrun : p.runOn w.store = s.place (.ok a)) (hspends : w.store.Spends s spent)
    (hspoiled : ¬ spoiled) (hunset : ¬ unset) :
    w.Effect into (w.step (.make into maker)) spoiled unset spent := by
  have hmakes : maker.make.runOn w = (.ok (s.insert a).1, w.over (s.insert a).2) := by
    rw [hmake, runOn_onStore, hrun]
    rfl
  have hnew : (w.over (s.insert a).2).store.live? (s.insert a).1 = some a :=
    Store.live?_insert_self s a
  rw [step_make_of_ok hmakes hnew]
  have hold : ∀ k : Handle, k.index < w.store.cells.size →
      (s.insert a).2.cells[k.index]? = s.cells[k.index]? := by
    intro k hk
    exact Store.cell_insert_of_lt (by rwa [hspends.size_eq])
  refine ⟨?_, ?_, ?_, ?_, ?_, ?_, ?_, ?_⟩
  · simp [hspoiled]
  · simp [hunset]
  · simp [hspoiled, hunset]
  · intro k
    exact Store.isConsumed_insert_iff.trans (hspends.isConsumed_iff k)
  · intro k hlt hk
    exact (hold k hlt).trans (hspends.cell_eq k hk)
  · intro b hb
    cases hb
    exact ⟨_, find?_bind_self _ _ _, hspends.size_eq, hnew⟩
  · intro error herror
    cases herror
  · intro name hne
    exact find?_bind_of_ne hne

/-- The end of a construction whose operands are all taken. -/
theorem of_taken {r : Except Fault Automaton} (hmake : maker.make.runOn w = (onStore p).runOn w)
    (hrun : p.runOn w.store = s.place r) (hspends : w.store.Spends s spent) (hspoiled : ¬ spoiled)
    (hr : (∃ a, r = .ok a ∧ ¬ unset) ∨ (r = .error .finalUnset ∧ unset)) :
    w.Effect into (w.step (.make into maker)) spoiled unset spent := by
  rcases hr with ⟨a, rfl, hunset⟩ | ⟨rfl, hunset⟩
  · exact of_place hmake hrun hspends hspoiled hunset
  · exact of_fault hmake hrun hspends (.inr ⟨rfl, hspoiled, hunset⟩)

end Effect

end Workspace

namespace Automaton

/-! ## Which final states are needed -/

/-- Repetition needs the final state of its part, and nothing else. -/
theorem star_cases (a : Automaton) :
    (∃ c, a.star = .ok c ∧ ¬ a.final = none) ∨ (a.star = .error .finalUnset ∧ a.final = none) := by
  cases hf : a.final with
  | none => exact .inr ⟨star_eq_error_iff.mpr hf, rfl⟩
  | some f => exact .inl ⟨_, star_eq_ok hf, by simp⟩

/-- Concatenation needs the final state of its second part only. -/
theorem concat_cases (a b : Automaton) :
    (∃ c, a.concat b = .ok c ∧ ¬ b.final = none) ∨
      (a.concat b = .error .finalUnset ∧ b.final = none) := by
  cases hg : b.final with
  | none => exact .inr ⟨concat_eq_error_iff.mpr hg, rfl⟩
  | some g => exact .inl ⟨_, concat_eq_ok hg, by simp⟩

/-- Union needs both final states. -/
theorem union_cases (a b : Automaton) :
    (∃ c, a.union b = .ok c ∧ ¬ (a.final = none ∨ b.final = none)) ∨
      (a.union b = .error .finalUnset ∧ (a.final = none ∨ b.final = none)) := by
  by_cases hunset : a.final = none ∨ b.final = none
  · exact .inr ⟨union_eq_error_iff.mpr hunset, hunset⟩
  · rw [not_or] at hunset
    obtain ⟨f, hf⟩ := Option.ne_none_iff_exists'.mp hunset.1
    obtain ⟨g, hg⟩ := Option.ne_none_iff_exists'.mp hunset.2
    exact .inl ⟨_, union_eq_ok hf hg, by simp [hf, hg]⟩

end Automaton

namespace Workspace

open WorkspaceM (onStore runOn_bind runOn_onStore runOn_resolve)

variable {w : Workspace} {h k : Handle}

/-- A repetition looks up its register first. -/
theorem make_star {a : String} (ha : w.find? a = some h) :
    (Maker.star a).make.runOn w = (onStore (StoreM.star h)).runOn w := by
  rw [Maker.make, runOn_bind, runOn_resolve, ha]

/-- Combining two registers: both are looked up before anything is taken. -/
theorem make_combine {maker : Maker} {a b : String}
    {f : Automaton → Automaton → Except Fault Automaton}
    (hmaker : maker.make = do
      let h ← WorkspaceM.resolve a
      let k ← WorkspaceM.resolve b
      onStore (StoreM.combine f h k)) :
    maker.make.runOn w =
      match w.find? a, w.find? b with
      | some h, some k => (onStore (StoreM.combine f h k)).runOn w
      | some _, none => (.error (.unbound b), w)
      | none, _ => (.error (.unbound a), w) := by
  rw [hmaker, runOn_bind, runOn_resolve]
  cases w.find? a with
  | none => rfl
  | some h =>
      show (WorkspaceM.resolve b >>= _ : WorkspaceM Handle).runOn w = _
      rw [runOn_bind, runOn_resolve]
      cases w.find? b <;> rfl

/-- A live cell lacks a final state just where its automaton has none. -/
theorem lacksFinal_iff {s : Store} {a : Automaton} (hl : s.live? h = some a) :
    s.LacksFinal h ↔ a.final = none := by
  simp [Store.LacksFinal, hl]

/-- **What repetition does**: it spends a live part, and fails on a consumed one. -/
theorem effect_star (hw : w.Sound) {a : String} (ha : w.find? a = some h) (into : String) :
    w.Effect into (w.step (.make into (.star a))) (w.store.IsConsumed h) (w.store.LacksFinal h)
      fun k => k = h ∧ w.store.IsLive h := by
  have hlt := hw a h ha
  by_cases hspoiled : w.store.IsConsumed h
  · refine .of_fault (make_star ha) (StoreM.runOn_star_of_not_live hspoiled.live?_eq_none) ?_
      (.inl ⟨rfl, hspoiled⟩)
    exact (Store.Spends.none _).iff fun k => by simp [hspoiled.not_isLive]
  · have hlive := (Store.isLive_or_isConsumed hlt).resolve_right hspoiled
    obtain ⟨x, hx⟩ := hlive
    refine .of_taken (make_star ha) (StoreM.runOn_star_of_live hx) ?_ hspoiled ?_
    · exact (Store.Spends.put hlt).iff fun k => by simp [Store.IsLive, hx]
    · rw [lacksFinal_iff hx]
      exact x.star_cases

/-- Combining two operands, where `unset` says that a final state is missing that is needed. -/
theorem effect_combine (hw : w.Sound) {a b into : String} {maker : Maker}
    {make : Automaton → Automaton → Except Fault Automaton} (ha : w.find? a = some h)
    (hb : w.find? b = some k)
    (hmaker : maker.make = do
      let h ← WorkspaceM.resolve a
      let k ← WorkspaceM.resolve b
      onStore (StoreM.combine make h k)) {unset : Prop}
    (hcases : ∀ x y, w.store.live? h = some x → w.store.live? k = some y →
      (∃ c, make x y = .ok c ∧ ¬ unset) ∨ (make x y = .error .finalUnset ∧ unset)) :
    w.Effect into (w.step (.make into maker))
      (w.store.IsConsumed h ∨ w.store.IsConsumed k ∨ k = h) unset
      fun j => (j = h ∧ w.store.IsLive h) ∨
        (j = k ∧ w.store.IsLive h ∧ w.store.IsLive k ∧ k ≠ h) := by
  have hmake : maker.make.runOn w = (onStore (StoreM.combine make h k)).runOn w := by
    rw [make_combine hmaker, ha, hb]
  have hlt := hw a h ha
  have hlt' := hw b k hb
  have htaken := Store.Spends.put hlt
  by_cases hfirst : w.store.IsConsumed h
  · refine .of_fault hmake (StoreM.runOn_combine_of_not_live hfirst.live?_eq_none) ?_
      (.inl ⟨rfl, .inl hfirst⟩)
    exact (Store.Spends.none _).iff fun j => by simp [hfirst.not_isLive]
  have hlive := (Store.isLive_or_isConsumed hlt).resolve_right hfirst
  have ⟨x, hx⟩ := hlive
  -- the second operand is looked up when the first one is consumed
  by_cases hsecond : w.store.IsConsumed k ∨ k = h
  · have hdead : (w.store.put h .consumed).live? k = none :=
      Store.IsConsumed.live?_eq_none ((htaken.isConsumed_iff k).mpr hsecond)
    refine .of_fault hmake (StoreM.runOn_combine_of_not_live_right hx hdead) ?_
      (.inl ⟨rfl, .inr hsecond⟩)
    refine htaken.iff fun j => ?_
    rcases hsecond with hconsumed | rfl
    · simp [hlive, hconsumed.not_isLive]
    · simp [hlive]
  · rw [not_or] at hsecond
    have hlive' := (Store.isLive_or_isConsumed hlt').resolve_right hsecond.1
    have ⟨y, hy⟩ := hlive'
    refine .of_taken hmake (StoreM.runOn_combine_of_live hx (Ne.symm hsecond.2) hy) ?_ ?_
      (hcases x y hx hy)
    · have hlater : k.index < (w.store.put h .consumed).cells.size := by rwa [Store.size_put]
      refine (htaken.trans (Store.Spends.put hlater)).iff fun j => ?_
      simp [hlive, hlive', hsecond.2]
    · simp [hfirst, hsecond]

/-- **What concatenation does**: of its parts, only the second one needs a final state. -/
theorem effect_concat (hw : w.Sound) {a b : String} (ha : w.find? a = some h)
    (hb : w.find? b = some k) (into : String) :
    w.Effect into (w.step (.make into (.concat a b)))
      (w.store.IsConsumed h ∨ w.store.IsConsumed k ∨ k = h) (w.store.LacksFinal k)
      fun j => (j = h ∧ w.store.IsLive h) ∨
        (j = k ∧ w.store.IsLive h ∧ w.store.IsLive k ∧ k ≠ h) := by
  refine effect_combine hw ha hb rfl ?_
  intro x y _ hy
  rw [lacksFinal_iff hy]
  exact x.concat_cases y

/-- **What union does**: both parts need a final state. -/
theorem effect_union (hw : w.Sound) {a b : String} (ha : w.find? a = some h)
    (hb : w.find? b = some k) (into : String) :
    w.Effect into (w.step (.make into (.union a b)))
      (w.store.IsConsumed h ∨ w.store.IsConsumed k ∨ k = h)
      (w.store.LacksFinal h ∨ w.store.LacksFinal k)
      fun j => (j = h ∧ w.store.IsLive h) ∨
        (j = k ∧ w.store.IsLive h ∧ w.store.IsLive k ∧ k ≠ h) := by
  refine effect_combine hw ha hb rfl ?_
  intro x y hx hy
  rw [lacksFinal_iff hx, lacksFinal_iff hy]
  exact x.union_cases y

/-- Making an automaton from nothing. -/
theorem effect_fresh {maker : Maker} {p : StoreM Handle} {a : Automaton}
    (hmake : maker.make.runOn w = (onStore p).runOn w)
    (hrun : p.runOn w.store = w.store.place (.ok a)) (into : String) :
    w.Effect into (w.step (.make into maker)) False False fun _ => False :=
  .of_place hmake hrun (.none _) not_false not_false

/-! ## Runs -/

namespace Effect

variable {into : String} {result : Except StepError Answer × Workspace} {spoiled unset : Prop}
  {spent : Handle → Prop}

/-- No construction revives what was consumed. -/
theorem keeps (h : w.Effect into result spoiled unset spent) :
    w.store.Keeps result.2.store :=
  fun k hk => (h.isConsumed_iff k).mpr (.inl hk)

/-- A construction answers with what it made or fails. -/
theorem made_or_failed (h : w.Effect into result spoiled unset spent) :
    (∃ a, result.1 = .ok (.made a)) ∨ ∃ error, result.1 = .error error := by
  by_cases hspoiled : spoiled
  · exact .inr ⟨_, h.consumed_iff.mpr hspoiled⟩
  · by_cases hunset : unset
    · exact .inr ⟨_, h.finalUnset_iff.mpr ⟨hspoiled, hunset⟩⟩
    · exact .inl (h.made_iff.mpr ⟨hspoiled, hunset⟩)

/-- After a construction, every register names a cell. -/
theorem sound (h : w.Effect into result spoiled unset spent) (hw : w.Sound) :
    result.2.Sound := by
  intro name k hk
  rcases h.made_or_failed with ⟨a, ha⟩ | ⟨error, herror⟩
  · obtain ⟨new, hbound, hindex, hlive⟩ := h.bound a ha
    have hlt := Store.lt_size_of_live? hlive
    by_cases hname : name = into
    · rw [hname, hbound] at hk
      cases hk
      exact hlt
    · rw [h.find?_eq name hname] at hk
      have hold := hw name k hk
      omega
  · obtain ⟨hinto, hsize⟩ := h.unbound error herror
    rw [hsize]
    by_cases hname : name = into
    · rw [hname, hinto] at hk
      exact hw into k hk
    · rw [h.find?_eq name hname] at hk
      exact hw name k hk

end Effect

end Workspace

/-- The operands of a maker. -/
def Maker.operands (w : Workspace) : Maker → List Handle
  | star a => (w.find? a).toList
  | concat a b | union a b => (w.find? a).toList ++ (w.find? b).toList
  | empty | sized _ | literal _ | given _ | compile _ => []

/-- The cells that a step puts into a new automaton: its operands, if it ends well. -/
def Step.joined (w : Workspace) (s : Step) : List Handle :=
  match s, (w.step s).1 with
  | make _ maker, .ok _ => maker.operands w
  | _, _ => []

/-- The cells that the steps of a run put into new automata. -/
def Workspace.joined (w : Workspace) : List Step → List Handle
  | [] => []
  | s :: rest => s.joined w ++ (w.step s).2.joined rest

/-- **What every step does to the cells.** -/
structure Step.Orderly (w : Workspace) (s : Step) : Prop where
  /-- Its registers still name cells. -/
  sound : (w.step s).2.Sound
  /-- What was consumed stays consumed. -/
  keeps : w.store.Keeps (w.step s).2.store
  /-- What it puts into an automaton it puts there once. -/
  nodup : (s.joined w).Nodup
  /-- What it puts into an automaton was live, and is consumed. -/
  spent : ∀ h ∈ s.joined w, w.store.IsLive h ∧ (w.step s).2.store.IsConsumed h

namespace Step.Orderly

open Workspace

variable {w : Workspace} {s : Step}

/-- A step that puts nothing into an automaton. -/
theorem of_joined_eq_nil (hsound : (w.step s).2.Sound) (hkeeps : w.store.Keeps (w.step s).2.store)
    (hjoined : s.joined w = []) : s.Orderly w := by
  refine ⟨hsound, hkeeps, ?_, ?_⟩
  · rw [hjoined]
    exact List.nodup_nil
  · simp [hjoined]

/-- A step that changes nothing. -/
theorem of_eq_self (hw : w.Sound) (hstep : (w.step s).2 = w) (hjoined : s.joined w = []) :
    s.Orderly w := by
  refine of_joined_eq_nil ?_ ?_ hjoined
  · rwa [hstep]
  · rw [hstep]
    exact fun _ h => h

/-- A construction that fails joins nothing. -/
theorem joined_make_of_error {into : String} {maker : Maker} {error : StepError}
    (h : (w.step (.make into maker)).1 = .error error) : (Step.make into maker).joined w = [] := by
  simp [joined, h]

/-- A construction that ends well joins all its operands. -/
theorem joined_make_of_ok {into : String} {maker : Maker} {answer : Answer}
    (h : (w.step (.make into maker)).1 = .ok answer) :
    (Step.make into maker).joined w = maker.operands w := by
  simp [joined, h]

/-- A construction whose operands are apart and live, unless they are spoiled. -/
theorem of_effect {into : String} {maker : Maker} {spoiled unset : Prop} {spent : Handle → Prop}
    (hw : w.Sound) (h : w.Effect into (w.step (.make into maker)) spoiled unset spent)
    (hoperands : ¬ spoiled → (maker.operands w).Nodup ∧
      ∀ k ∈ maker.operands w, w.store.IsLive k ∧ spent k) : (Step.make into maker).Orderly w := by
  rcases h.made_or_failed with ⟨a, ha⟩ | ⟨error, herror⟩
  · obtain ⟨hnodup, hlive⟩ := hoperands (h.made_iff.mp ⟨a, ha⟩).1
    refine ⟨h.sound hw, h.keeps, ?_, ?_⟩
    · rwa [joined_make_of_ok ha]
    · rw [joined_make_of_ok ha]
      intro k hk
      exact ⟨(hlive k hk).1, (h.isConsumed_iff k).mpr (.inr (hlive k hk).2)⟩
  · exact of_joined_eq_nil (h.sound hw) h.keeps (joined_make_of_error herror)

/-- A construction from a register that names nothing. -/
theorem of_unbound {into : String} {maker : Maker} {e : StepError} (hw : w.Sound)
    (hmake : maker.make.runOn w = (.error e, w)) : (Step.make into maker).Orderly w := by
  have hstep := step_make_of_error hmake into
  exact of_eq_self hw (by rw [hstep]) (joined_make_of_error (by rw [hstep]))

/-- Combining two registers. -/
theorem of_combine {into a b : String} {maker : Maker} {unset : Handle → Handle → Prop}
    {f : Automaton → Automaton → Except Fault Automaton} (hw : w.Sound)
    (hmaker : maker.make = do
      let h ← WorkspaceM.resolve a
      let k ← WorkspaceM.resolve b
      WorkspaceM.onStore (StoreM.combine f h k))
    (hoperands : maker.operands w = (w.find? a).toList ++ (w.find? b).toList)
    (heffect : ∀ h k, w.find? a = some h → w.find? b = some k →
      w.Effect into (w.step (.make into maker))
        (w.store.IsConsumed h ∨ w.store.IsConsumed k ∨ k = h) (unset h k)
        fun j => (j = h ∧ w.store.IsLive h) ∨
          (j = k ∧ w.store.IsLive h ∧ w.store.IsLive k ∧ k ≠ h)) :
    (Step.make into maker).Orderly w := by
  have hmake := make_combine (w := w) hmaker
  cases ha : w.find? a with
  | none => exact of_unbound (e := .unbound a) hw (by rw [hmake, ha])
  | some h =>
      cases hb : w.find? b with
      | none => exact of_unbound (e := .unbound b) hw (by rw [hmake, ha, hb])
      | some k =>
          refine of_effect hw (heffect h k ha hb) ?_
          intro hspoiled
          rw [not_or, not_or] at hspoiled
          obtain ⟨hfirst, hsecond, hne⟩ := hspoiled
          have hlive := (Store.isLive_or_isConsumed (hw a h ha)).resolve_right hfirst
          have hlive' := (Store.isLive_or_isConsumed (hw b k hb)).resolve_right hsecond
          rw [hoperands, ha, hb]
          refine ⟨by simp [Ne.symm hne], ?_⟩
          refine List.forall_mem_cons.mpr ⟨⟨hlive, .inl ⟨rfl, hlive⟩⟩, ?_⟩
          exact List.forall_mem_singleton.mpr ⟨hlive', .inr ⟨rfl, hlive, hlive', hne⟩⟩

/-- Making an automaton from nothing. -/
theorem of_fresh {maker : Maker} {a : Automaton} (hw : w.Sound) (into : String)
    (p : StoreM Handle) (hmake : maker.make = WorkspaceM.onStore p)
    (hrun : p.runOn w.store = w.store.place (.ok a)) (hoperands : maker.operands w = []) :
    (Step.make into maker).Orderly w := by
  refine of_effect hw (effect_fresh (by rw [hmake]) hrun into) ?_
  simp [hoperands]

/-- The text of a compilation is no cell, so a compilation makes its automaton from nothing. -/
theorem make_compile (hw : w.Sound) (into regex : String) :
    (Step.make into (.compile regex)).Orderly w := by
  obtain ⟨c, hc⟩ := Compilation.exists_ofText regex
  have hrun : StoreM.runOn (do
      StoreM.alloc (← StoreM.compute (Compilation.ofText regex)).automaton) w.store =
        w.store.place (.ok c.automaton) := by
    rw [StoreM.runOn_bind, StoreM.runOn_compute, hc]
    rfl
  exact of_fresh hw into _ rfl hrun rfl

/-- Repetition is orderly. -/
theorem make_star (hw : w.Sound) (into a : String) : (Step.make into (.star a)).Orderly w := by
  cases ha : w.find? a with
  | none =>
      refine of_unbound (e := .unbound a) hw ?_
      rw [Maker.make, WorkspaceM.runOn_bind, WorkspaceM.runOn_resolve, ha]
  | some h =>
      refine of_effect hw (effect_star hw ha into) ?_
      intro hspoiled
      have hlive := (Store.isLive_or_isConsumed (hw a h ha)).resolve_right hspoiled
      simp [Maker.operands, ha, hlive]

/-- **Every construction is orderly.** -/
theorem make (hw : w.Sound) (into : String) (maker : Maker) : (Step.make into maker).Orderly w := by
  cases maker with
  | empty => exact of_fresh hw into (StoreM.alloc .empty) rfl rfl rfl
  | sized n => exact of_fresh hw into (StoreM.alloc (.sized n)) rfl rfl rfl
  | literal s => exact of_fresh hw into (StoreM.alloc (.literal s)) rfl rfl rfl
  | given a => exact of_fresh hw into (StoreM.alloc a) rfl rfl rfl
  | compile regex => exact make_compile hw into regex
  | star a => exact make_star hw into a
  | concat a b => exact of_combine hw rfl rfl fun h k ha hb => effect_concat hw ha hb into
  | union a b => exact of_combine hw rfl rfl fun h k ha hb => effect_union hw ha hb into

/-- A second register for a cell spends nothing. -/
theorem share (hw : w.Sound) (a into : String) : (Step.share a into).Orderly w := by
  have hstep := step_share w a into
  cases ha : w.find? a with
  | none => exact of_eq_self hw (by rw [hstep, ha]) rfl
  | some h =>
      simp only [ha] at hstep
      refine of_joined_eq_nil ?_ ?_ rfl
      · rw [hstep]
        exact hw.bind (hw a h ha) into
      · rw [hstep]
        exact fun _ hk => hk

/-- A question spends nothing. -/
theorem ask (hw : w.Sound) (a : String) (q : Query) : (Step.ask a q).Orderly w := by
  have hstep := step_ask w a q
  cases ha : w.find? a with
  | none => exact of_eq_self hw (by rw [hstep, ha]) rfl
  | some h => exact of_eq_self hw (by rw [hstep, ha]) rfl

/-- Only a live cell is changed, so no consumed one is. -/
theorem addTransition (hw : w.Sound) (a : String) (t : Transition) :
    (Step.addTransition a t).Orderly w := by
  have hstep := step_addTransition w a t
  cases ha : w.find? a with
  | none => exact of_eq_self hw (by rw [hstep, ha]) rfl
  | some h =>
      cases hlive : w.store.live? h with
      | none =>
          simp only [ha, hlive] at hstep
          exact of_eq_self hw (by rw [hstep]) rfl
      | some x =>
          simp only [ha, hlive] at hstep
          refine of_joined_eq_nil ?_ ?_ rfl
          · rw [hstep]
            intro name k hk
            exact (Store.size_put _ _ _).symm ▸ hw name k hk
          · rw [hstep]
            intro k hk
            have hne : k ≠ h := by
              rintro rfl
              exact hk.not_isLive ⟨x, hlive⟩
            exact (Store.cell_put_of_ne _ hne).trans hk

end Step.Orderly

/-- **Every step** is orderly. -/
theorem Step.orderly {w : Workspace} (hw : w.Sound) (s : Step) : s.Orderly w := by
  cases s with
  | make into maker => exact .make hw into maker
  | share a into => exact .share hw a into
  | addTransition a t => exact .addTransition hw a t
  | ask a q => exact .ask hw a q

namespace Workspace

variable {w : Workspace}

/-- Nothing is named in the empty workspace. -/
theorem Sound.empty : Sound {} := by
  intro name h hfind
  cases hfind

/-- A run keeps its registers sound, and what was consumed consumed. -/
theorem Sound.run (hw : w.Sound) (steps : List Step) :
    (w.run steps).2.Sound ∧ w.store.Keeps (w.run steps).2.store := by
  induction steps generalizing w with
  | nil => exact ⟨hw, fun _ hk => hk⟩
  | cons s rest ih =>
      have hs := s.orderly hw
      obtain ⟨hsound, hkeeps⟩ := ih hs.sound
      exact ⟨hsound, fun k hk => hkeeps k (hs.keeps k hk)⟩

/-- What a run puts into an automaton was not consumed before the run, and is consumed after it. -/
theorem Sound.spent (hw : w.Sound) {steps : List Step} {h : Handle} (hh : h ∈ w.joined steps) :
    ¬ w.store.IsConsumed h ∧ (w.run steps).2.store.IsConsumed h := by
  induction steps generalizing w with
  | nil => cases hh
  | cons s rest ih =>
      have hs := s.orderly hw
      rcases List.mem_append.mp hh with hnow | hlater
      · obtain ⟨hlive, hconsumed⟩ := hs.spent h hnow
        exact ⟨fun hold => hold.not_isLive hlive, (hs.sound.run rest).2 h hconsumed⟩
      · obtain ⟨hnot, hconsumed⟩ := ih hs.sound hlater
        exact ⟨fun hold => hnot (hs.keeps h hold), hconsumed⟩

/-- No cell is put into two automata: the first time it is consumed, and it stays so. -/
theorem Sound.nodup_joined (hw : w.Sound) (steps : List Step) : (w.joined steps).Nodup := by
  induction steps generalizing w with
  | nil => exact List.nodup_nil
  | cons s rest ih =>
      have hs := s.orderly hw
      refine hs.nodup.append (ih hs.sound) ?_
      -- what this step takes is consumed from now on, so no later step can take it
      intro h hnow hlater
      exact (hs.sound.spent hlater).1 (hs.spent h hnow).2

/-- **What the constructions do to a store**, with any cells and any registers that share them.

* A repetition finds something consumed where its operand is consumed, and needs its final state.
* A concatenation and a union take the first operand, if it is live, and then the second, if that is
  live still; they find something consumed where either operand is consumed, or both are one cell.
  A concatenation needs the final state of the second operand only, a union needs both.
* So in every run, whatever its steps are and wherever they fail, a consumed cell stays consumed,
  and no cell is put into two automata, or into one twice. -/
theorem construction_effect (hw : w.Sound) :
    (∀ into a h, w.find? a = some h →
      w.Effect into (w.step (.make into (.star a))) (w.store.IsConsumed h) (w.store.LacksFinal h)
        fun k => k = h ∧ w.store.IsLive h) ∧
    (∀ into a b h k, w.find? a = some h → w.find? b = some k →
      let spoiled := w.store.IsConsumed h ∨ w.store.IsConsumed k ∨ k = h
      let spent := fun j => (j = h ∧ w.store.IsLive h) ∨
        (j = k ∧ w.store.IsLive h ∧ w.store.IsLive k ∧ k ≠ h)
      w.Effect into (w.step (.make into (.concat a b))) spoiled (w.store.LacksFinal k) spent ∧
      w.Effect into (w.step (.make into (.union a b))) spoiled
        (w.store.LacksFinal h ∨ w.store.LacksFinal k) spent) ∧
    (∀ steps, (w.run steps).2.Sound ∧ w.store.Keeps (w.run steps).2.store ∧
      (w.joined steps).Nodup ∧
      ∀ h ∈ w.joined steps, ¬ w.store.IsConsumed h ∧ (w.run steps).2.store.IsConsumed h) := by
  refine ⟨?_, ?_, ?_⟩
  · intro into a h ha
    exact effect_star hw ha into
  · intro into a b h k ha hb
    exact ⟨effect_concat hw ha hb into, effect_union hw ha hb into⟩
  · intro steps
    obtain ⟨hsound, hkeeps⟩ := hw.run steps
    exact ⟨hsound, hkeeps, hw.nodup_joined steps, fun h hh => hw.spent hh⟩

/-- A concatenation of one cell with itself, under two names: it fails, and the cell is lost. -/
theorem construction_effect_shared :
    let w := (run {} [.make "x" (.literal "a"), .share "x" "y"]).2
    let result := w.step (.make "u" (.concat "x" "y"))
    result.1 = .error (.broken .consumed) ∧ result.2.store.IsConsumed ⟨0⟩ ∧
      result.2.find? "u" = none := by
  intro w result
  obtain ⟨-, -, hruns⟩ := construction_effect Sound.empty
  have hw : w.Sound := (hruns [.make "x" (.literal "a"), .share "x" "y"]).1
  obtain ⟨-, hbinary, -⟩ := construction_effect hw
  obtain ⟨heffect, -⟩ := hbinary "u" "x" "y" ⟨0⟩ ⟨0⟩ rfl rfl
  have hfails := heffect.consumed_iff.mpr (.inr (.inr rfl))
  refine ⟨hfails, (heffect.isConsumed_iff ⟨0⟩).mpr (.inr (.inl ⟨rfl, ?_⟩)), ?_⟩
  · exact ⟨.literal "a", rfl⟩
  · exact (heffect.unbound _ hfails).1

end Workspace

end RegexCompiler
