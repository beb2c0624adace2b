import RegexCompiler.Proofs.Workspace.Effect

/-!
# Which automata a program can make

A program makes automata from the empty one, from symbols, from texts and from each other.  A text
that is refused gives the empty automaton, so the constructions meet automata without a final state.
A repetition of one and a union with one fail, and so does a concatenation that ends with one; but
the final state of the first part of a concatenation is not read.

What a maker makes is said once (`Maker.Makes`, `Workspace.ends_step_make`); a property of automata
that makers keep is then a property of all that is live (`Workspace.Holds`).  There are two such
properties:

* in every run, an automaton that is not empty ends in its last state (`Settled`);
* in a run in which no concatenation starts with an empty automaton (`Workspace.Guarded`), it is the
  automaton of an expression (`Derived`), so it is valid.

A concatenation that does start with an empty automaton moves the initial state of its second part
below 0.
-/

namespace RegexCompiler

namespace Automaton

/-- **Valid automata**: transitions lead from states to states, and the last state is final. -/
structure Valid (a : Automaton) : Prop where
  /-- Both ends of a transition are states. -/
  ends : ∀ t ∈ a.transitions, a.IsState t.source ∧ a.IsState t.target
  /-- The last state is the final one. -/
  final_eq : a.final = some (a.size - 1)

/-- Whether an automaton ends in its last state, if it is not empty. -/
def Settled (a : Automaton) : Prop := a = empty ∨ a.final = some (a.size - 1)

/-- Whether an automaton is that of an expression, if it is not empty. -/
def Derived (a : Automaton) : Prop := a = empty ∨ ∃ e : Expr, a = e.automaton

variable {a b c : Automaton}

/-- Blocks are valid. -/
theorem Block.valid (ha : a.Block) : a.Valid := by
  refine ⟨?_, ha.final_eq⟩
  intro t ht
  have hends := ha.ends t ht
  unfold IsState
  omega

/-- The automaton of an expression ends in its last state. -/
theorem Derived.settled (ha : a.Derived) : a.Settled := by
  rcases ha with rfl | ⟨e, rfl⟩
  · exact .inl rfl
  · exact .inr e.block_automaton.final_eq

/-- A final state that is set is the last state. -/
theorem Settled.final_eq (ha : a.Settled) (hset : a.final ≠ none) :
    a.final = some (a.size - 1) := by
  rcases ha with rfl | hlast
  · exact absurd rfl hset
  · exact hlast

/-- Only the empty automaton has no final state. -/
theorem Settled.eq_empty (ha : a.Settled) (hunset : a.final = none) : a = empty := by
  rcases ha with rfl | hlast
  · rfl
  · rw [hunset] at hlast
    cases hlast

/-- An automaton with a final state is that of an expression. -/
theorem Derived.exists_expr (ha : a.Derived) (hset : a.final ≠ none) :
    ∃ e : Expr, a = e.automaton := by
  rcases ha with rfl | he
  · exact absurd rfl hset
  · exact he

/-! ## What the constructions make -/

/-- A repetition that ends well had a final state to start from. -/
theorem exists_of_star_eq_ok (h : a.star = .ok c) : ∃ f, a.final = some f ∧ c = a.starOf f := by
  cases hf : a.final with
  | none =>
      rw [star_eq_error_iff.mpr hf] at h
      cases h
  | some f =>
      rw [star_eq_ok hf] at h
      cases h
      exact ⟨f, rfl, rfl⟩

/-- A concatenation that ends well had the final state of its second part. -/
theorem exists_of_concat_eq_ok (h : a.concat b = .ok c) :
    ∃ g, b.final = some g ∧ c = a.concatOf b g := by
  cases hg : b.final with
  | none =>
      rw [concat_eq_error_iff.mpr hg] at h
      cases h
  | some g =>
      rw [concat_eq_ok hg] at h
      cases h
      exact ⟨g, rfl, rfl⟩

/-- A union that ends well had both final states. -/
theorem exists_of_union_eq_ok (h : a.union b = .ok c) :
    ∃ f g, a.final = some f ∧ b.final = some g ∧ c = a.unionOf b f g := by
  rcases union_cases a b with ⟨_, -, hset⟩ | ⟨hfails, -⟩
  · rw [not_or] at hset
    obtain ⟨f, hf⟩ := Option.ne_none_iff_exists'.mp hset.1
    obtain ⟨g, hg⟩ := Option.ne_none_iff_exists'.mp hset.2
    rw [union_eq_ok hf hg] at h
    cases h
    exact ⟨f, g, hf, hg, rfl⟩
  · rw [hfails] at h
    cases h

/-- A concatenation ends in its last state if its second part does. -/
theorem Settled.final_of_concat (hb : b.Settled) (h : a.concat b = .ok c) :
    c.final = some (c.size - 1) := by
  obtain ⟨g, hg, rfl⟩ := exists_of_concat_eq_ok h
  have hlast := hb.final_eq (by simp [hg])
  rw [hg, Option.some.injEq] at hlast
  simp only [concatOf, Option.some.injEq]
  omega

/-- A repetition ends in its last state, whatever its part is. -/
theorem final_of_star (h : a.star = .ok c) : c.final = some (c.size - 1) := by
  obtain ⟨f, -, rfl⟩ := exists_of_star_eq_ok h
  simp only [starOf, Option.some.injEq]
  omega

/-- A union ends in its last state, whatever its parts are. -/
theorem final_of_union (h : a.union b = .ok c) : c.final = some (c.size - 1) := by
  obtain ⟨f, g, -, -, rfl⟩ := exists_of_union_eq_ok h
  simp only [unionOf, Option.some.injEq]
  omega

/-! ## Automata of expressions -/

/-- Repetition stays among the automata of expressions. -/
theorem Derived.star (ha : a.Derived) (h : a.star = .ok c) : ∃ e : Expr, c = e.automaton := by
  obtain ⟨f, hf, rfl⟩ := exists_of_star_eq_ok h
  obtain ⟨e, rfl⟩ := ha.exists_expr (by simp [hf])
  rw [e.block_automaton.final_eq] at hf
  cases hf
  exact ⟨.star e, rfl⟩

/-- Concatenation stays among the automata of expressions, if its first part is not empty. -/
theorem Derived.concat (ha : a.Derived) (hb : b.Derived) (hset : a.final ≠ none)
    (h : a.concat b = .ok c) : ∃ e : Expr, c = e.automaton := by
  obtain ⟨g, hg, rfl⟩ := exists_of_concat_eq_ok h
  obtain ⟨l, rfl⟩ := ha.exists_expr hset
  obtain ⟨r, rfl⟩ := hb.exists_expr (by simp [hg])
  rw [r.block_automaton.final_eq] at hg
  cases hg
  exact ⟨.concat l r, rfl⟩

/-- Union stays among the automata of expressions. -/
theorem Derived.union (ha : a.Derived) (hb : b.Derived) (h : a.union b = .ok c) :
    ∃ e : Expr, c = e.automaton := by
  obtain ⟨f, g, hf, hg, rfl⟩ := exists_of_union_eq_ok h
  obtain ⟨l, rfl⟩ := ha.exists_expr (by simp [hf])
  obtain ⟨r, rfl⟩ := hb.exists_expr (by simp [hg])
  rw [l.block_automaton.final_eq] at hf
  rw [r.block_automaton.final_eq] at hg
  cases hf
  cases hg
  exact ⟨.union l r, rfl⟩

end Automaton

/-- **A concatenation that starts with the empty automaton** is not valid: its second part starts in
the state before the first one. -/
theorem Automaton.not_valid_empty_concat {e : Expr} {c : Automaton}
    (h : Automaton.empty.concat e.automaton = .ok c) : ¬ c.Valid := by
  intro hvalid
  obtain ⟨g, -, rfl⟩ := exists_of_concat_eq_ok h
  obtain ⟨t, ht, hsource⟩ := e.exists_source_eq_zero
  have hmoved : t.shift (empty.size - 1) ∈ (empty.concatOf e.automaton g).transitions :=
    mem_transitions_concatOf.mpr (.inr ⟨t, ht, rfl⟩)
  have hstate := (hvalid.ends _ hmoved).1
  simp only [IsState, Transition.source_shift, empty] at hstate
  omega

/-! ## What a maker makes -/

namespace Maker

/-- The makers that start from nothing, from symbols and from any texts. -/
def Plain : Maker → Prop
  | empty | literal _ | compile _ | star _ | concat _ _ | union _ _ => True
  | sized _ | given _ => False

/-- The makers that construct an automaton with a final state. -/
def Constructs : Maker → Prop
  | literal _ | star _ | concat _ _ | union _ _ => True
  | empty | sized _ | given _ | compile _ => False

/-- **What a maker makes** from the live automata that the registers name. -/
inductive Makes (w : Workspace) : Maker → Automaton → Prop where
  /-- The empty automaton. -/
  | empty : Makes w .empty .empty
  /-- States. -/
  | sized (n : Int) : Makes w (.sized n) (.sized n)
  /-- The automaton of a symbol. -/
  | literal (symbol : String) : Makes w (.literal symbol) (.literal symbol)
  /-- What is given. -/
  | given (a : Automaton) : Makes w (.given a) a
  /-- The automaton of a text, or the empty one. -/
  | compile {regex : String} {c : Compilation} (h : Compilation.ofText regex = .ok c) :
      Makes w (.compile regex) c.automaton
  /-- A repetition. -/
  | star {a : String} {h : Handle} {x c : Automaton} (ha : w.find? a = some h)
      (hx : w.store.live? h = some x) (hmake : x.star = .ok c) : Makes w (.star a) c
  /-- A concatenation. -/
  | concat {a b : String} {h k : Handle} {x y c : Automaton} (ha : w.find? a = some h)
      (hb : w.find? b = some k) (hx : w.store.live? h = some x) (hy : w.store.live? k = some y)
      (hmake : x.concat y = .ok c) : Makes w (.concat a b) c
  /-- A union. -/
  | union {a b : String} {h k : Handle} {x y c : Automaton} (ha : w.find? a = some h)
      (hb : w.find? b = some k) (hx : w.store.live? h = some x) (hy : w.store.live? k = some y)
      (hmake : x.union y = .ok c) : Makes w (.union a b) c

end Maker

namespace Store

/-- Whether the cells that are live in `s'` hold what they hold in `s`. -/
def Within (s' s : Store) : Prop := ∀ h a, s'.live? h = some a → s.live? h = some a

/-- A store holds what it holds. -/
theorem Within.refl (s : Store) : s.Within s := fun _ _ h => h

/-- What is still there after two programs was there before both. -/
theorem Within.trans {s s' s'' : Store} (h : s''.Within s') (h' : s'.Within s) : s''.Within s :=
  fun k a hl => h' k a (h k a hl)

/-- Consuming a cell leaves the other live ones as they are. -/
theorem within_put_consumed (s : Store) (h : Handle) : (s.put h .consumed).Within s :=
  fun _ _ hl => (live?_of_live?_put_consumed hl).2

end Store

namespace Workspace

open WorkspaceM (onStore runOn_bind runOn_onStore runOn_resolve)

variable {w : Workspace} {into : String} {maker : Maker}

/-- How a step of a maker may end: with a new automaton, or with an error; either way no other cell
has become live. -/
inductive Ends (w : Workspace) (into : String) (maker : Maker) :
    Except StepError Answer × Workspace → Prop where
  /-- What was made is in a new cell. -/
  | made {c : Automaton} {s : Store} (hs : s.Within w.store) (hmakes : maker.Makes w c) :
      Ends w into maker (.ok (.made c), (w.over (s.insert c).2).bind into (s.insert c).1)
  /-- Nothing was made. -/
  | failed {e : StepError} {s : Store} (hs : s.Within w.store) :
      Ends w into maker (.error e, w.over s)

/-- A program that places what it has computed. -/
theorem ends_of_place {p : StoreM Handle} {s : Store} {r : Except Fault Automaton}
    (hmake : maker.make.runOn w = (onStore p).runOn w) (hrun : p.runOn w.store = s.place r)
    (hs : s.Within w.store) (hmakes : ∀ c, r = .ok c → maker.Makes w c) :
    Ends w into maker (w.step (.make into maker)) := by
  rw [runOn_onStore, hrun] at hmake
  cases r with
  | error f =>
      rw [step_make_of_error hmake]
      exact .failed hs
  | ok c =>
      have hnew : (w.over (s.insert c).2).store.live? (s.insert c).1 = some c :=
        Store.live?_insert_self s c
      rw [step_make_of_ok hmake hnew]
      exact .made hs (hmakes c rfl)

/-- A program that finds something consumed. -/
theorem ends_of_consumed {p : StoreM Handle} {s : Store}
    (hmake : maker.make.runOn w = (onStore p).runOn w)
    (hrun : p.runOn w.store = (.error .consumed, s)) (hs : s.Within w.store) :
    Ends w into maker (w.step (.make into maker)) := by
  rw [runOn_onStore, hrun] at hmake
  rw [step_make_of_error hmake]
  exact .failed hs

/-- A register that names nothing. -/
theorem ends_of_unbound {e : StepError} (hmake : maker.make.runOn w = (.error e, w)) :
    Ends w into maker (w.step (.make into maker)) := by
  rw [step_make_of_error hmake]
  exact .failed (s := w.store) (.refl _)

/-- Combining two registers. -/
theorem ends_of_combine {a b : String} {f : Automaton → Automaton → Except Fault Automaton}
    (hmaker : maker.make = do
      let h ← WorkspaceM.resolve a
      let k ← WorkspaceM.resolve b
      onStore (StoreM.combine f h k))
    (hmakes : ∀ {h k x y c}, w.find? a = some h → w.find? b = some k →
      w.store.live? h = some x → w.store.live? k = some y → f x y = .ok c → maker.Makes w c) :
    Ends w into maker (w.step (.make into maker)) := by
  have hmake := make_combine (w := w) hmaker
  cases ha : w.find? a with
  | none => exact ends_of_unbound (e := .unbound a) (by rw [hmake, ha])
  | some h =>
      cases hb : w.find? b with
      | none => exact ends_of_unbound (e := .unbound b) (by rw [hmake, ha, hb])
      | some k =>
          rw [ha, hb] at hmake
          have htaken := w.store.within_put_consumed h
          cases hx : w.store.live? h with
          | none => exact ends_of_consumed hmake (StoreM.runOn_combine_of_not_live hx) (.refl _)
          | some x =>
              cases hy : (w.store.put h .consumed).live? k with
              | none =>
                  exact ends_of_consumed hmake (StoreM.runOn_combine_of_not_live_right hx hy) htaken
              | some y =>
                  obtain ⟨hne, hy⟩ := Store.live?_of_live?_put_consumed hy
                  exact ends_of_place hmake (StoreM.runOn_combine_of_live hx hne hy)
                    ((Store.within_put_consumed _ k).trans htaken)
                    fun c hc => hmakes ha hb hx hy hc

/-- Making an automaton that is known before. -/
theorem ends_of_alloc {a : Automaton} (hmaker : maker.make = onStore (StoreM.alloc a))
    (hmakes : maker.Makes w a) : Ends w into maker (w.step (.make into maker)) := by
  refine ends_of_place (p := StoreM.alloc a) (r := .ok a) (by rw [hmaker]) rfl (.refl _) ?_
  rintro c ⟨⟩
  exact hmakes

/-- **Every maker** makes what it is to make, or fails. -/
theorem ends_step_make (w : Workspace) (into : String) (maker : Maker) :
    Ends w into maker (w.step (.make into maker)) := by
  cases maker with
  | empty => exact ends_of_alloc rfl .empty
  | sized n => exact ends_of_alloc rfl (.sized n)
  | literal symbol => exact ends_of_alloc rfl (.literal symbol)
  | given a => exact ends_of_alloc rfl (.given a)
  | compile regex =>
      obtain ⟨c, hc⟩ := Compilation.exists_ofText regex
      have hrun : StoreM.runOn (do
          StoreM.alloc (← StoreM.compute (Compilation.ofText regex)).automaton) w.store =
            w.store.place (.ok c.automaton) := by
        rw [StoreM.runOn_bind, StoreM.runOn_compute, hc]
        rfl
      refine ends_of_place rfl hrun (.refl _) ?_
      rintro _ ⟨⟩
      exact .compile hc
  | star a =>
      cases ha : w.find? a with
      | none =>
          refine ends_of_unbound (e := .unbound a) ?_
          rw [Maker.make, runOn_bind, runOn_resolve, ha]
      | some h =>
          cases hx : w.store.live? h with
          | none =>
              exact ends_of_consumed (make_star ha) (StoreM.runOn_star_of_not_live hx) (.refl _)
          | some x =>
              exact ends_of_place (make_star ha) (StoreM.runOn_star_of_live hx)
                (Store.within_put_consumed _ h) fun c hc => .star ha hx hc
  | concat a b => exact ends_of_combine rfl .concat
  | union a b => exact ends_of_combine rfl .union

end Workspace

/-! ## What is live in a run -/

/-- Whether a maker concatenates an automaton without a final state with another one. -/
def Maker.Headless (w : Workspace) : Maker → Prop
  | concat a _ => ∃ h, w.find? a = some h ∧ w.store.LacksFinal h
  | empty | sized _ | literal _ | given _ | compile _ | star _ | union _ _ => False

namespace Step

/-- The steps that make automata from nothing, symbols, texts and each other, share them or ask
them. -/
def Plain : Step → Prop
  | make _ maker => maker.Plain
  | share _ _ | ask _ _ => True
  | addTransition _ _ => False

/-- Whether a step concatenates an automaton without a final state with another one. -/
def Headless (w : Workspace) : Step → Prop
  | make _ maker => maker.Headless w
  | share _ _ | addTransition _ _ | ask _ _ => False

end Step

namespace Workspace

/-- Whether all automata that are live have the property `P`. -/
def Holds (w : Workspace) (P : Automaton → Prop) : Prop := ∀ h a, w.store.live? h = some a → P a

/-- **Whether no concatenation of a run starts with an automaton without a final state.** -/
def Guarded (w : Workspace) : List Step → Prop
  | [] => True
  | s :: rest => ¬ s.Headless w ∧ (w.step s).2.Guarded rest

variable {w : Workspace} {into : String} {maker : Maker} {P : Automaton → Prop} {c : Automaton}

/-- Nothing is live in the empty workspace. -/
theorem holds_empty (P : Automaton → Prop) : Holds {} P := by
  intro h a hlive
  simp [Store.live?] at hlive

/-- **One step**: what is live after it was live before it, or was made by it. -/
theorem Holds.step (hw : w.Holds P) {s : Step} (hplain : s.Plain)
    (hmade : ∀ into maker c, s = .make into maker → maker.Makes w c → P c) :
    (w.step s).2.Holds P := by
  cases s with
  | make into maker =>
      have hends := ends_step_make w into maker
      generalize w.step (.make into maker) = result at hends ⊢
      cases hends with
      | made hs hmakes =>
          intro h a hlive
          rcases Store.live?_of_live?_insert hlive with ⟨-, rfl⟩ | ⟨-, hold⟩
          · exact hmade into maker _ rfl hmakes
          · exact hw h a (hs h a hold)
      | failed hs => exact fun h a hlive => hw h a (hs h a hlive)
  | share a into =>
      rw [step_share]
      cases w.find? a <;> exact hw
  | ask a q =>
      rw [step_ask]
      cases w.find? a <;> exact hw
  | addTransition a t => exact hplain.elim

/-- What a step answers that it made is what its maker makes. -/
theorem makes_of_step_eq_ok (h : (w.step (.make into maker)).1 = .ok (.made c)) :
    maker.Makes w c := by
  have hends := ends_step_make w into maker
  generalize w.step (.make into maker) = result at hends h
  cases hends with
  | made _ hmakes =>
      cases h
      exact hmakes
  | failed _ => cases h

/-- A text gives the automaton of an expression, or the empty one. -/
theorem derived_of_ofText {regex : String} {c : Compilation}
    (h : Compilation.ofText regex = .ok c) :
    c.automaton.Derived := by
  by_cases hderives : ∃ e, Derives .union regex.toList e
  · obtain ⟨e, he⟩ := hderives
    obtain ⟨a, hcompile, hbuild, -, -⟩ := compile_of_derives he
    obtain rfl := Except.ok.inj (e.build_eq_ok.symm.trans hbuild)
    rw [Compilation.ofText_of_compile_eq_ok hcompile] at h
    cases h
    exact .inr ⟨e, rfl⟩
  · obtain ⟨error, herror⟩ := compile_of_not_derives hderives
    rw [Compilation.ofText_of_compile_eq_error herror] at h
    cases h
    exact .inl rfl

/-- What is constructed from settled automata ends in its last state. -/
theorem final_of_makes (hw : w.Holds Automaton.Settled) (hconstructs : maker.Constructs)
    (hmakes : maker.Makes w c) : c.final = some (c.size - 1) := by
  cases hmakes with
  | literal symbol => rfl
  | star _ _ hmake => exact Automaton.final_of_star hmake
  | concat _ _ _ hy hmake => exact (hw _ _ hy).final_of_concat hmake
  | union _ _ _ _ hmake => exact Automaton.final_of_union hmake
  | _ => exact hconstructs.elim

/-- What is constructed from automata of expressions is the automaton of an expression, unless it is
a concatenation that starts with the empty automaton. -/
theorem exists_expr_of_makes (hw : w.Holds Automaton.Derived) (hconstructs : maker.Constructs)
    (hhead : ¬ maker.Headless w) (hmakes : maker.Makes w c) : ∃ e : Expr, c = e.automaton := by
  cases hmakes with
  | literal symbol => exact ⟨.literal symbol, rfl⟩
  | star _ hx hmake => exact (hw _ _ hx).star hmake
  | concat ha _ hx hy hmake =>
      refine (hw _ _ hx).concat (hw _ _ hy) ?_ hmake
      exact fun hunset => hhead ⟨_, ha, _, hx, hunset⟩
  | union _ _ hx hy hmake => exact (hw _ _ hx).union (hw _ _ hy) hmake
  | _ => exact hconstructs.elim

/-- **A concatenation that starts with the empty automaton** is not valid. -/
theorem not_valid_of_makes (hw : w.Holds Automaton.Derived) (hhead : maker.Headless w)
    (hmakes : maker.Makes w c) : ¬ c.Valid := by
  cases hmakes with
  | concat ha hb hx hy hmake =>
      obtain ⟨h, hfind, a, hlive, hunset⟩ := hhead
      rw [ha, Option.some.injEq] at hfind
      rw [hfind, hlive, Option.some.injEq] at hx
      obtain rfl := hx
      obtain rfl := (hw _ _ hlive).settled.eq_empty hunset
      obtain ⟨g, hg, -⟩ := Automaton.exists_of_concat_eq_ok hmake
      obtain ⟨e, rfl⟩ := (hw _ _ hy).exists_expr (by simp [hg])
      exact Automaton.not_valid_empty_concat hmake
  | _ => exact hhead.elim

/-- A property of constructed automata that the empty one and those of texts have as well is one of
all that is made. -/
theorem holds_of_makes (hplain : maker.Plain) (hmakes : maker.Makes w c) (hempty : P .empty)
    (hcompile : ∀ regex c, Compilation.ofText regex = .ok c → P c.automaton)
    (hconstructs : maker.Constructs → P c) : P c := by
  cases hmakes with
  | empty => exact hempty
  | compile hc => exact hcompile _ _ hc
  | sized n => exact hplain.elim
  | given a => exact hplain.elim
  | _ => exact hconstructs trivial

/-- **In every run**, what is not empty ends in its last state. -/
theorem Holds.run_settled {steps : List Step} (hsteps : ∀ s ∈ steps, s.Plain)
    (hw : w.Holds Automaton.Settled) : (w.run steps).2.Holds Automaton.Settled := by
  induction steps generalizing w with
  | nil => exact hw
  | cons s rest ih =>
      obtain ⟨hs, hrest⟩ := List.forall_mem_cons.mp hsteps
      refine ih hrest (hw.step hs ?_)
      rintro into maker c rfl hmakes
      refine holds_of_makes hs hmakes (.inl rfl) ?_ ?_
      · exact fun _ _ hc => (derived_of_ofText hc).settled
      · exact fun hconstructs => .inr (final_of_makes hw hconstructs hmakes)

/-- **In a guarded run**, what is not empty is the automaton of an expression. -/
theorem Holds.run_derived {steps : List Step} (hsteps : ∀ s ∈ steps, s.Plain)
    (hguarded : w.Guarded steps) (hw : w.Holds Automaton.Derived) :
    (w.run steps).2.Holds Automaton.Derived := by
  induction steps generalizing w with
  | nil => exact hw
  | cons s rest ih =>
      obtain ⟨hs, hrest⟩ := List.forall_mem_cons.mp hsteps
      refine ih hrest hguarded.2 (hw.step hs ?_)
      rintro into maker c rfl hmakes
      refine holds_of_makes hs hmakes (.inl rfl) (fun _ _ hc => derived_of_ofText hc) ?_
      exact fun hconstructs => .inr (exists_expr_of_makes hw hconstructs hguarded.1 hmakes)

end Workspace

/-- **Which constructions are valid.**  In every program of makers that start from nothing, symbols
and texts, with names shared and questions asked, and with all its failures:

* what a construction makes ends in its last state, and as long as no concatenation starts with an
  automaton without a final state, it is valid;
* the only automaton without a final state is the empty one;
* from the empty automaton a repetition fails, a union on either side, and a concatenation that ends
  with it; a concatenation that starts with it does not fail, and is the first that is not valid. -/
theorem construction_validity {steps : List Step} (hsteps : ∀ s ∈ steps, s.Plain) :
    let w := (Workspace.run {} steps).2
    (∀ into maker c, maker.Constructs → (w.step (.make into maker)).1 = .ok (.made c) →
      c.final = some (c.size - 1) ∧
      (Workspace.Guarded {} steps → (c.Valid ↔ ¬ maker.Headless w))) ∧
    (∀ h, w.store.LacksFinal h → w.store.live? h = some .empty) ∧
    ∀ into a h, w.find? a = some h → w.store.LacksFinal h →
      (w.step (.make into (.star a))).1 = .error (.broken .finalUnset) ∧
      ∀ b k, w.find? b = some k → w.store.IsLive k → k ≠ h →
        (w.step (.make into (.union a b))).1 = .error (.broken .finalUnset) ∧
        (w.step (.make into (.union b a))).1 = .error (.broken .finalUnset) ∧
        (w.step (.make into (.concat b a))).1 = .error (.broken .finalUnset) ∧
        (¬ w.store.LacksFinal k → ∃ c, (w.step (.make into (.concat a b))).1 = .ok (.made c)) := by
  intro w
  have hsettled : w.Holds Automaton.Settled := (Workspace.holds_empty _).run_settled hsteps
  have hsound : w.Sound := (Workspace.Sound.empty.run steps).1
  refine ⟨?_, ?_, ?_⟩
  · intro into maker c hconstructs hmade
    have hmakes := Workspace.makes_of_step_eq_ok hmade
    refine ⟨Workspace.final_of_makes hsettled hconstructs hmakes, ?_⟩
    intro hguarded
    -- as long as the guard holds, all that is live comes from expressions or is empty
    have hderived : w.Holds Automaton.Derived :=
      (Workspace.holds_empty _).run_derived hsteps hguarded
    refine ⟨fun hvalid hhead => Workspace.not_valid_of_makes hderived hhead hmakes hvalid, ?_⟩
    intro hhead
    obtain ⟨e, rfl⟩ := Workspace.exists_expr_of_makes hderived hconstructs hhead hmakes
    exact e.block_automaton.valid
  · rintro h ⟨a, hlive, hunset⟩
    rw [hlive, (hsettled h a hlive).eq_empty hunset]
  · intro into a h ha hunset
    have hlive : ¬ w.store.IsConsumed h := by
      obtain ⟨x, hx, -⟩ := hunset
      exact fun hconsumed => hconsumed.not_isLive ⟨x, hx⟩
    refine ⟨(Workspace.effect_star hsound ha into).finalUnset_iff.mpr ⟨hlive, hunset⟩, ?_⟩
    intro b k hb hk hne
    have hlive' : ¬ w.store.IsConsumed k := fun hconsumed => hconsumed.not_isLive hk
    have hfirst : ¬ (w.store.IsConsumed h ∨ w.store.IsConsumed k ∨ k = h) := by simp [*]
    have hsecond : ¬ (w.store.IsConsumed k ∨ w.store.IsConsumed h ∨ h = k) := by
      simp [*, Ne.symm hne]
    refine ⟨?_, ?_, ?_, ?_⟩
    · exact (Workspace.effect_union hsound ha hb into).finalUnset_iff.mpr ⟨hfirst, .inl hunset⟩
    · exact (Workspace.effect_union hsound hb ha into).finalUnset_iff.mpr ⟨hsecond, .inr hunset⟩
    · exact (Workspace.effect_concat hsound hb ha into).finalUnset_iff.mpr ⟨hsecond, hunset⟩
    · intro hset
      exact (Workspace.effect_concat hsound ha hb into).made_iff.mpr ⟨hfirst, hset⟩

/-- The empty automaton of a refused text: it is concatenated with a symbol, and not repeated. -/
theorem construction_validity_refused :
    let steps : List Step := [.make "x" (.compile "a)"), .make "y" (.literal "b")]
    let w := (Workspace.run {} steps).2
    (∃ c, (w.step (.make "z" (.concat "x" "y"))).1 = .ok (.made c) ∧
      c.final = some (c.size - 1) ∧ ¬ c.Valid) ∧
    (w.step (.make "z" (.star "x"))).1 = .error (.broken .finalUnset) := by
  intro steps w
  have hsteps : ∀ s ∈ steps, s.Plain := by simp [steps, Step.Plain, Maker.Plain]
  have hguarded : Workspace.Guarded {} steps := ⟨not_false, not_false, trivial⟩
  have hx : w.find? "x" = some ⟨0⟩ := by decide +kernel
  have hy : w.find? "y" = some ⟨1⟩ := by decide +kernel
  have hempty : w.store.live? ⟨0⟩ = some .empty := by decide +kernel
  have hsymbol : w.store.live? ⟨1⟩ = some (.literal "b") := by decide +kernel
  have hunset : w.store.LacksFinal ⟨0⟩ := ⟨_, hempty, rfl⟩
  have hset : ¬ w.store.LacksFinal ⟨1⟩ := by
    rw [Workspace.lacksFinal_iff hsymbol]
    decide
  obtain ⟨hmade, -, hfails⟩ := construction_validity hsteps
  obtain ⟨hstar, hcombine⟩ := hfails "z" "x" ⟨0⟩ hx hunset
  obtain ⟨-, -, -, hends⟩ := hcombine "y" ⟨1⟩ hy ⟨_, hsymbol⟩ (by decide)
  obtain ⟨c, hc⟩ := hends hset
  obtain ⟨hfinal, hvalid⟩ := hmade "z" (.concat "x" "y") c trivial hc
  refine ⟨⟨c, hc, hfinal, ?_⟩, hstar⟩
  exact fun h => (hvalid hguarded).mp h ⟨⟨0⟩, hx, hunset⟩

/-- What becomes of a symbol behind the empty automaton: a transition that leaves no state.  Behind
three of them its size is negative, and its repetition enters a state above the last one. -/
theorem headless_concat_not_valid :
    let moved : Automaton := { size := 1, transitions := [⟨-1, "b", 0⟩], final := some 0 }
    let repeated : Automaton := { size := 1, final := some 0, transitions :=
      [⟨0, "E", 1⟩, ⟨-2, "b", -1⟩, ⟨-1, "E", 0⟩, ⟨-1, "E", 1⟩, ⟨0, "E", 0⟩] }
    let steps : List Step := [.make "x" (.compile ""), .make "y" (.literal "b")]
    let more : List Step := [.make "y" (.concat "x" "y"), .make "x" .empty,
      .make "y" (.concat "x" "y"), .make "x" .empty, .make "y" (.concat "x" "y")]
    (((Workspace.run {} steps).2.step (.make "z" (.concat "x" "y"))).1 = .ok (.made moved) ∧
      ¬ moved.Valid) ∧
    ((Workspace.run {} (steps ++ more)).2.step (.make "z" (.star "y"))).1 = .ok (.made repeated) ∧
      ¬ repeated.Valid := by
  refine ⟨⟨rfl, fun h => ?_⟩, rfl, fun h => ?_⟩
  · exact absurd (h.ends ⟨-1, "b", 0⟩ (by decide)).1 (by unfold Automaton.IsState; decide)
  · exact absurd (h.ends ⟨0, "E", 1⟩ (by decide)).2 (by unfold Automaton.IsState; decide)

end RegexCompiler
