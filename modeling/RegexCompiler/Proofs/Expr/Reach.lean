import RegexCompiler.Proofs.Compile.Basic
import RegexCompiler.Proofs.Expr.Part

/-!
# No state is idle

A state is *useful* if some path from the initial state to the final one passes it, and an automaton
is *trim* if all its states are.

A part that lies in a larger automaton brings its paths along.  So all its states are useful there,
if its first state can be reached and its last one leads on to the end (`Trim.useful_of_embeds`).
In a construction the silent transitions around the parts see to that, or, in a concatenation, the
other part; hence the automaton of an expression is trim.
-/

namespace RegexCompiler

namespace Automaton

/-- Whether some path leads from `p` to `q`. -/
def Reaches (a : Automaton) (p q : Int) : Prop := ∃ w, a.Path p w q

/-- **Useful states** lie on a path from the initial state to the final one. -/
def Useful (a : Automaton) (q : Int) : Prop :=
  a.Reaches initial q ∧ ∃ f, a.final = some f ∧ a.Reaches q f

/-- Whether all states are useful. -/
def Trim (a : Automaton) : Prop := ∀ q, a.IsState q → a.Useful q

variable {a b : Automaton} {k p q r : Int}

/-! ## Where paths lead -/

/-- Every state is reached from itself. -/
theorem Reaches.refl (a : Automaton) (p : Int) : a.Reaches p p := ⟨[], .nil p⟩

/-- What is reached on two ways is reached on one after the other. -/
theorem Reaches.trans (h : a.Reaches p q) (h' : a.Reaches q r) : a.Reaches p r := by
  obtain ⟨u, hu⟩ := h
  obtain ⟨v, hv⟩ := h'
  exact ⟨u ++ v, hu.append hv⟩

/-- A transition leads from its source to its target. -/
theorem reaches_of_mem {t : Transition} (ht : t ∈ a.transitions) : a.Reaches t.source t.target :=
  ⟨t.word ++ [], .cons ht (.nil t.target)⟩

/-- So does a silent one. -/
theorem reaches_of_silent (h : Transition.silent p q ∈ a.transitions) : a.Reaches p q :=
  reaches_of_mem h

/-- What a part reaches it reaches at its place in the whole. -/
theorem Embeds.reaches (h : b.Embeds a k) (hb : b.Reaches p q) : a.Reaches (p + k) (q + k) := by
  obtain ⟨before, after, hsegment, -⟩ := h.segment
  obtain ⟨w, hw⟩ := hb
  refine ⟨w, hw.shift ?_⟩
  intro t ht
  have hmoved : t.shift k ∈ b.shifted k := mem_shifted.mpr ⟨t, ht, rfl⟩
  rw [hsegment]
  exact List.mem_append_left _ (List.mem_append_right _ hmoved)

/-! ## Trim blocks -/

/-- In a block, a useful state is one between the first state and the last one. -/
theorem Block.useful_iff (ha : a.Block) :
    a.Useful q ↔ a.Reaches 0 q ∧ a.Reaches q (a.size - 1) := by
  unfold Useful
  rw [ha.final_eq]
  constructor
  · rintro ⟨hstart, f, hf, hend⟩
    cases hf
    exact ⟨hstart, hend⟩
  · intro h
    exact ⟨h.1, a.size - 1, rfl, h.2⟩

/-- A trim block can be passed from its first state to its last one. -/
theorem Trim.reaches_last (ht : a.Trim) (ha : a.Block) : a.Reaches 0 (a.size - 1) := by
  have hsize := ha.two_le
  have hfirst : a.IsState 0 := ⟨le_refl 0, by omega⟩
  exact (ha.useful_iff.mp (ht 0 hfirst)).2

/-- The states of a part are useful where the part can be entered and its end leads on. -/
theorem Trim.useful_of_embeds (hb : b.Trim) (hblock : b.Block) (ha : a.Block)
    (h : b.Embeds a k) (hstart : a.Reaches 0 k) (hend : a.Reaches (k + b.size - 1) (a.size - 1))
    (hq : k ≤ q ∧ q < k + b.size) : a.Useful q := by
  have hstate : b.IsState (q - k) := ⟨by omega, by omega⟩
  have hpart := hblock.useful_iff.mp (hb (q - k) hstate)
  have hin := h.reaches hpart.1
  have hout := h.reaches hpart.2
  have hlast : b.size - 1 + k = k + b.size - 1 := by omega
  rw [Int.zero_add, Int.sub_add_cancel] at hin
  rw [Int.sub_add_cancel, hlast] at hout
  exact ha.useful_iff.mpr ⟨hstart.trans hin, hout.trans hend⟩

/-- Both states of a literal are useful. -/
theorem trim_literal (s : String) : (literal s).Trim := by
  intro q hq
  have hstep : (literal s).Reaches 0 1 :=
    reaches_of_mem (a := literal s) (t := ⟨0, s, 1⟩) (List.mem_singleton_self _)
  have hcases : q = 0 ∨ q = 1 := by
    obtain ⟨hlower, hupper⟩ := hq
    simp only [literal] at hupper
    omega
  apply (block_literal s).useful_iff.mpr
  rcases hcases with rfl | rfl
  · exact ⟨.refl _ 0, hstep⟩
  · exact ⟨hstep, .refl _ 1⟩

/-- All states of a repetition are useful if those of its part are. -/
theorem Trim.starOf (ht : a.Trim) (ha : a.Block) : (a.starOf (a.size - 1)).Trim := by
  have hblock := ha.starOf
  have hfinal : (a.starOf (a.size - 1)).size - 1 = a.size + 1 := by
    simp only [Automaton.starOf]
    omega
  have hin : (a.starOf (a.size - 1)).Reaches 0 1 :=
    reaches_of_silent (by simp [transitions_starOf_last])
  have hout : (a.starOf (a.size - 1)).Reaches a.size (a.size + 1) :=
    reaches_of_silent (by simp [transitions_starOf_last])
  have hskip : (a.starOf (a.size - 1)).Reaches 0 (a.size + 1) :=
    reaches_of_silent (by simp [transitions_starOf_last])
  intro q hq
  obtain ⟨hlower, hupper⟩ := hq
  by_cases hfirst : q = 0
  · rw [hblock.useful_iff, hfirst, hfinal]
    exact ⟨.refl _ 0, hskip⟩
  by_cases hlast : q = a.size + 1
  · rw [hblock.useful_iff, hlast, hfinal]
    exact ⟨hskip, .refl _ _⟩
  · apply ht.useful_of_embeds ha hblock (embeds_starOf ha) hin
    · rw [hfinal, show 1 + a.size - 1 = a.size by omega]
      exact hout
    · omega

/-- All states of a concatenation are useful if those of its parts are. -/
theorem Trim.concatOf (ht : a.Trim) (ht' : b.Trim) (ha : a.Block) (hb : b.Block) :
    (a.concatOf b (b.size - 1)).Trim := by
  have hblock := ha.concatOf hb
  have hleft := embeds_concatOf_left (a := a) hb (b.size - 1)
  have hright := embeds_concatOf_right (b := b) ha (b.size - 1)
  have hfinal : (a.concatOf b (b.size - 1)).size - 1 = b.size - 1 + (a.size - 1) := by
    simp only [Automaton.concatOf]
    omega
  -- each part is passed as a whole on the way through the other one
  have hfirst := hleft.reaches (ht.reaches_last ha)
  have hsecond := hright.reaches (ht'.reaches_last hb)
  rw [Int.add_zero, Int.add_zero] at hfirst
  rw [Int.zero_add, ← hfinal] at hsecond
  intro q hq
  obtain ⟨hlower, hupper⟩ := hq
  by_cases hq : q < a.size
  · apply ht.useful_of_embeds ha hblock hleft (.refl _ 0)
    · rw [Int.zero_add]
      exact hsecond
    · omega
  · apply ht'.useful_of_embeds hb hblock hright hfirst
    · rw [hfinal, show a.size - 1 + b.size - 1 = b.size - 1 + (a.size - 1) by omega]
      exact .refl _ _
    · omega

/-- All states of a union are useful if those of its parts are. -/
theorem Trim.unionOf (ht : a.Trim) (ht' : b.Trim) (ha : a.Block) (hb : b.Block) :
    (a.unionOf b (a.size - 1) (b.size - 1)).Trim := by
  have hblock := ha.unionOf hb
  have hleft := embeds_unionOf_left ha hb
  have hright := embeds_unionOf_right ha hb
  have hfinal : (a.unionOf b (a.size - 1) (b.size - 1)).size - 1 = a.size + b.size + 1 := by
    simp only [Automaton.unionOf]
    omega
  have hin : (a.unionOf b (a.size - 1) (b.size - 1)).Reaches 0 1 :=
    reaches_of_silent (by simp [transitions_unionOf_last])
  have hout : (a.unionOf b (a.size - 1) (b.size - 1)).Reaches a.size (a.size + b.size + 1) :=
    reaches_of_silent (by simp [transitions_unionOf_last])
  have hin' : (a.unionOf b (a.size - 1) (b.size - 1)).Reaches 0 (a.size + 1) :=
    reaches_of_silent (by simp [transitions_unionOf_last])
  have hout' : (a.unionOf b (a.size - 1) (b.size - 1)).Reaches (a.size + b.size)
      (a.size + b.size + 1) :=
    reaches_of_silent (by simp [transitions_unionOf_last])
  -- through either part the first state reaches the last one; the left part will do
  have hacross := hleft.reaches (ht.reaches_last ha)
  rw [Int.zero_add, Int.sub_add_cancel] at hacross
  have hwhole := hin.trans (hacross.trans hout)
  intro q hq
  obtain ⟨hlower, hupper⟩ := hq
  by_cases hfirst : q = 0
  · rw [hblock.useful_iff, hfirst, hfinal]
    exact ⟨.refl _ 0, hwhole⟩
  by_cases hlast : q = a.size + b.size + 1
  · rw [hblock.useful_iff, hlast, hfinal]
    exact ⟨hwhole, .refl _ _⟩
  by_cases hq : q < 1 + a.size
  · apply ht.useful_of_embeds ha hblock hleft hin
    · rw [hfinal, show 1 + a.size - 1 = a.size by omega]
      exact hout
    · omega
  · apply ht'.useful_of_embeds hb hblock hright hin'
    · rw [hfinal, show a.size + 1 + b.size - 1 = a.size + b.size by omega]
      exact hout'
    · omega

end Automaton

/-- **No state of the automaton of an expression is useless.** -/
theorem Expr.trim_automaton (e : Expr) : e.automaton.Trim := by
  induction e with
  | literal s => exact Automaton.trim_literal s
  | star e ih => exact ih.starOf e.block_automaton
  | concat l r ihl ihr => exact ihl.concatOf ihr l.block_automaton r.block_automaton
  | union l r ihl ihr => exact ihl.unionOf ihr l.block_automaton r.block_automaton

/-- **No state is idle.**  Every state of what is built of an expression can be reached from the
first state and reaches the last one, which is final.  So the automaton of a text that is accepted
accepts a word, and each of its transitions stands on a path that spells an accepted word. -/
theorem states_lie_on_paths :
    (∀ e : Expr, ∃ a, e.build = .ok a ∧ a.final = some (a.size - 1) ∧
      ∀ q, a.IsState q → a.Reaches Automaton.initial q ∧ a.Reaches q (a.size - 1)) ∧
    ∀ regex : String, ∃ c, Compilation.ofText regex = .ok c ∧
      (c.error = none → (∃ w, w ∈ c.automaton.language) ∧
        ∀ t ∈ c.automaton.transitions, ∃ f u v, c.automaton.final = some f ∧
          c.automaton.Path Automaton.initial u t.source ∧ c.automaton.Path t.target v f ∧
          u ++ (t.word ++ v) ∈ c.automaton.language) := by
  refine ⟨?_, ?_⟩
  · intro e
    have hblock := e.block_automaton
    refine ⟨e.automaton, e.build_eq_ok, hblock.final_eq, ?_⟩
    intro q hq
    exact hblock.useful_iff.mp (e.trim_automaton q hq)
  intro regex
  obtain ⟨c, hc, haccepted⟩ := Compilation.exists_ofText_and_derives regex
  refine ⟨c, hc, ?_⟩
  intro hnone
  obtain ⟨e, -, he⟩ := haccepted hnone
  have hblock := e.block_automaton
  rw [he]
  refine ⟨?_, ?_⟩
  · obtain ⟨w, hw⟩ := e.trim_automaton.reaches_last hblock
    exact ⟨w, (Automaton.mem_language_iff hblock.final_eq).mpr hw⟩
  · intro t ht
    have hends := hblock.wellFormed.ends ht
    obtain ⟨⟨u, hu⟩, -⟩ := hblock.useful_iff.mp (e.trim_automaton t.source hends.1)
    obtain ⟨-, v, hv⟩ := hblock.useful_iff.mp (e.trim_automaton t.target hends.2)
    refine ⟨e.automaton.size - 1, u, v, hblock.final_eq, hu, hv, ?_⟩
    exact (Automaton.mem_language_iff hblock.final_eq).mpr (hu.append (.cons ht hv))

/-- In `(a|E)*b` the end of `a` leads back to its start, and `b` is read behind the repetition. -/
theorem states_lie_on_paths_loop :
    let e : Expr := .concat (.star (.union (.literal "a") (.literal "E"))) (.literal "b")
    (∃ a, e.build = .ok a ∧ a.IsState 3 ∧ a.Reaches Automaton.initial 3 ∧
      a.Reaches 3 (a.size - 1)) ∧
    ∃ c, Compilation.ofText "(a|E)*b" = .ok c ∧
      ∃ f u v, c.automaton.final = some f ∧ c.automaton.Path Automaton.initial u 6 ∧
        c.automaton.Path 1 v f ∧ u ++ v ∈ c.automaton.language := by
  intro e
  refine ⟨?_, ?_⟩
  · obtain ⟨a, hbuild, -, hstates⟩ := states_lie_on_paths.1 e
    obtain rfl := Except.ok.inj (e.build_eq_ok.symm.trans hbuild)
    have hstate : e.automaton.IsState 3 := by
      unfold Automaton.IsState
      decide +kernel
    exact ⟨_, hbuild, hstate, hstates 3 hstate⟩
  · obtain ⟨c, hc, hpaths⟩ := states_lie_on_paths.2 "(a|E)*b"
    have hcompile : Compilation.ofText "(a|E)*b" = .ok { automaton := e.automaton } := by
      decide +kernel
    obtain rfl := Except.ok.inj (hcompile.symm.trans hc)
    have hback : Transition.silent 6 1 ∈ e.automaton.transitions := by decide +kernel
    obtain ⟨f, u, v, hf, hu, hv, hword⟩ := (hpaths rfl).2 _ hback
    exact ⟨_, hc, f, u, v, hf, hu, hv, hword⟩

end RegexCompiler
