import RegexCompiler.Proofs.Automaton.Path

/-!
# The languages of the constructions

The parts may be any well-formed automata: their paths may come back to the initial state and pass
through the final one.

* `language_starOf`, `language_unionOf` — the repetition and the union of the languages;
* `language_concatOf` — the concatenation, where the final state of the first part is the last
  one, and either no transition leaves it or none enters the initial state of the second part.

Each needs paths to be taken apart, which is done from the front: where a path that starts inside
a part can go (`path_starOf`, `path_of_part`, `path_concatOf_right`, `path_concatOf_left`).
-/

namespace RegexCompiler.Automaton

variable {a b : Automaton} {f g p q : Int} {w : List String}

/-! ## What the constructions make -/

/-- The repetition of an automaton with the final state `f`. -/
def starOf (a : Automaton) (f : Int) : Automaton where
  size := a.size + 2
  transitions := .silent 0 1 :: a.shifted 1 ++
    [.silent (f + 1) (a.size + 1), .silent (f + 1) 1, .silent 0 (a.size + 1)]
  final := some (a.size + 1)

/-- The concatenation of two automata, the second one with the final state `g`. -/
def concatOf (a b : Automaton) (g : Int) : Automaton where
  size := a.size + b.size - 1
  transitions := a.transitions ++ b.shifted (a.size - 1)
  final := some (g + (a.size - 1))

/-- The union of two automata with the final states `f` and `g`. -/
def unionOf (a b : Automaton) (f g : Int) : Automaton where
  size := a.size + b.size + 2
  transitions := .silent 0 1 :: a.shifted 1 ++ .silent (f + 1) (a.size + b.size + 1) ::
    .silent 0 (a.size + 1) :: b.shifted (a.size + 1) ++
    [.silent (g + a.size + 1) (a.size + b.size + 1)]
  final := some (a.size + b.size + 1)

/-- With a final state, the repetition is made. -/
theorem star_eq_ok (hf : a.final = some f) : a.star = .ok (a.starOf f) := by
  simp [star, finalState_eq_ok hf, bind, Except.bind, pure, Except.pure, starOf]

/-- With a final state of the second part, the concatenation is made; that of the first part is not
asked for. -/
theorem concat_eq_ok (hg : b.final = some g) : a.concat b = .ok (a.concatOf b g) := by
  simp [concat, finalState_eq_ok hg, bind, Except.bind, pure, Except.pure, concatOf]

/-- With both final states, the union is made. -/
theorem union_eq_ok (hf : a.final = some f) (hg : b.final = some g) :
    a.union b = .ok (a.unionOf b f g) := by
  simp [union, finalState_eq_ok hf, finalState_eq_ok hg, bind, Except.bind, pure, Except.pure,
    unionOf]

/-- The transitions of a repetition: those of the part, moved up by one, and four silent ones. -/
theorem mem_transitions_starOf {t : Transition} :
    t ∈ (a.starOf f).transitions ↔
      t = .silent 0 1 ∨ (∃ t' ∈ a.transitions, t'.shift 1 = t) ∨
      t = .silent (f + 1) (a.size + 1) ∨ t = .silent (f + 1) 1 ∨ t = .silent 0 (a.size + 1) := by
  simp [starOf, mem_shifted]

/-- The transitions of a concatenation: those of both parts, the second part moved up. -/
theorem mem_transitions_concatOf {t : Transition} :
    t ∈ (a.concatOf b g).transitions ↔
      t ∈ a.transitions ∨ ∃ t' ∈ b.transitions, t'.shift (a.size - 1) = t := by
  simp [concatOf, mem_shifted]

/-- The transitions of a union: those of both parts, moved up, and four silent ones. -/
theorem mem_transitions_unionOf {t : Transition} :
    t ∈ (a.unionOf b f g).transitions ↔
      t = .silent 0 1 ∨ (∃ t' ∈ a.transitions, t'.shift 1 = t) ∨
      t = .silent (f + 1) (a.size + b.size + 1) ∨ t = .silent 0 (a.size + 1) ∨
      (∃ t' ∈ b.transitions, t'.shift (a.size + 1) = t) ∨
      t = .silent (g + a.size + 1) (a.size + b.size + 1) := by
  simp [unionOf, mem_shifted]

/-- The final state of a well-formed automaton is one of its states. -/
theorem WellFormed.final_bounds (ha : a.WellFormed) (hf : a.final = some f) :
    0 ≤ f ∧ f < a.size := by
  obtain ⟨f', hf', hstate⟩ := ha.final_isState
  rw [hf] at hf'
  exact Option.some.inj hf' ▸ hstate

/-- Both ends of a transition of a well-formed automaton are states of it. -/
theorem WellFormed.ends (ha : a.WellFormed) {t : Transition} (ht : t ∈ a.transitions) :
    (0 ≤ t.source ∧ t.source < a.size) ∧ 0 ≤ t.target ∧ t.target < a.size :=
  ⟨ha.source_isState t ht, ha.target_isState t ht⟩

/-- Well-formedness, both ends of a transition at a time. -/
theorem WellFormed.of_ends (hf : a.final = some f) (hstate : 0 ≤ f ∧ f < a.size)
    (hends : ∀ t ∈ a.transitions,
      (0 ≤ t.source ∧ t.source < a.size) ∧ 0 ≤ t.target ∧ t.target < a.size) : a.WellFormed :=
  ⟨⟨f, hf, hstate⟩, fun t ht => (hends t ht).1, fun t ht => (hends t ht).2⟩

/-! ## Repetition -/

/-- The repetition of a well-formed automaton is well-formed. -/
theorem wellFormed_starOf (ha : a.WellFormed) (hf : a.final = some f) :
    (a.starOf f).WellFormed := by
  have hstate := ha.final_bounds hf
  refine .of_ends (f := a.size + 1) rfl ?_ ?_
  · simp only [starOf]
    omega
  · intro t ht
    rcases mem_transitions_starOf.mp ht with rfl | ⟨t', ht', rfl⟩ | rfl | rfl | rfl
    · simp only [starOf, Transition.silent]
      omega
    · have hends := ha.ends ht'
      simp only [starOf, Transition.source_shift, Transition.target_shift]
      omega
    all_goals
      simp only [starOf, Transition.silent]
      omega

/-- Nothing leaves the end of a repetition. -/
theorem source_ne_of_mem_starOf (ha : a.WellFormed) (hf : a.final = some f) {t : Transition}
    (ht : t ∈ (a.starOf f).transitions) : t.source ≠ a.size + 1 := by
  have hstate := ha.final_bounds hf
  rcases mem_transitions_starOf.mp ht with rfl | ⟨t', ht', rfl⟩ | rfl | rfl | rfl
  · simp only [Transition.silent]
    omega
  · have hends := ha.ends ht'
    simp only [Transition.source_shift]
    omega
  all_goals
    simp only [Transition.silent]
    omega

/-- A word of the part in front of whole repetitions. -/
theorem append_mem_kstar {l : Language String} {u v : List String} (hu : u ∈ l)
    (hv : v ∈ KStar.kstar l) : u ++ v ∈ KStar.kstar l := by
  rw [← Language.one_add_self_mul_kstar_eq_kstar]
  exact Or.inr (Language.append_mem_mul hu hv)

/-- From inside the part, a path to the end of a repetition first reaches the end of the part;
what follows are whole repetitions. -/
theorem path_starOf (ha : a.WellFormed) (hf : a.final = some f) {p' q' : Int}
    (h : (a.starOf f).Path p' w q') (hq' : q' = a.size + 1) (hp : 0 ≤ p ∧ p < a.size)
    (hp' : p' = p + 1) :
    ∃ u v, w = u ++ v ∧ a.Path p u f ∧ v ∈ KStar.kstar a.language := by
  have hstate := ha.final_bounds hf
  induction h generalizing p with
  | nil p' => omega
  | @cons t w q' ht htail ih =>
      rcases mem_transitions_starOf.mp ht with rfl | ⟨t', ht', rfl⟩ | rfl | rfl | rfl
      · simp only [Transition.silent] at hp'
        omega
      · -- a transition of the part
        have hsource : t'.source = p := by simpa using hp'
        obtain ⟨u, v, rfl, hu, hv⟩ := ih hq' (ha.ends ht').2 rfl
        refine ⟨t'.word ++ u, v, by simp, ?_, hv⟩
        exact hsource ▸ .cons ht' hu
      · -- out of the repetition
        have hfinal : f = p := by simpa [Transition.silent] using hp'
        obtain ⟨-, rfl⟩ := htail.of_no_exit (fun t ht => source_ne_of_mem_starOf ha hf ht)
        exact ⟨[], [], rfl, hfinal ▸ .nil f, Language.nil_mem_kstar _⟩
      · -- back to the start of the part
        have hfinal : f = p := by simpa [Transition.silent] using hp'
        have hzero : (0 : Int) ≤ 0 ∧ 0 < a.size := ⟨le_refl 0, by omega⟩
        obtain ⟨u, v, rfl, hu, hv⟩ := ih hq' hzero rfl
        refine ⟨[], u ++ v, rfl, hfinal ▸ .nil f, ?_⟩
        exact append_mem_kstar ((mem_language_iff hf).mpr hu) hv
      · simp only [Transition.silent] at hp'
        omega

/-- Words of the part, one after the other, lead from its start to the end of a repetition: each
goes once through the part, and all but the last one lead back to its start. -/
theorem path_starOf_of_words (hf : a.final = some f) {u : List String} {words : List (List String)}
    (hwords : ∀ v ∈ u :: words, v ∈ a.language) :
    (a.starOf f).Path 1 (u :: words).flatten (a.size + 1) := by
  have hinside : ∀ t ∈ a.transitions, t.shift 1 ∈ (a.starOf f).transitions :=
    fun t ht => mem_transitions_starOf.mpr (.inr (.inl ⟨t, ht, rfl⟩))
  have hback : Transition.silent (f + 1) 1 ∈ (a.starOf f).transitions :=
    mem_transitions_starOf.mpr (by simp)
  have hleave : Transition.silent (f + 1) (a.size + 1) ∈ (a.starOf f).transitions :=
    mem_transitions_starOf.mpr (by simp)
  induction words generalizing u with
  | nil =>
      have hu := (mem_language_iff hf).mp (hwords u List.mem_cons_self)
      simpa using (hu.shift hinside).append (.silent hleave (.nil _))
  | cons v words ih =>
      have hu := (mem_language_iff hf).mp (hwords u List.mem_cons_self)
      have hrest := ih (fun v' hv' => hwords v' (List.mem_cons_of_mem u hv'))
      simpa using (hu.shift hinside).append (.silent hback hrest)

/-- **The language of a repetition.** -/
theorem language_starOf (ha : a.WellFormed) (hf : a.final = some f) :
    (a.starOf f).language = KStar.kstar a.language := by
  have hstate := ha.final_bounds hf
  have hzero : (0 : Int) ≤ 0 ∧ 0 < a.size := ⟨le_refl 0, by omega⟩
  ext w
  rw [mem_language_iff (a := a.starOf f) (f := a.size + 1) rfl]
  constructor
  · intro h
    rcases h.first with ⟨hstay, -⟩ | ⟨t, ht, hsource, v, rfl, htail⟩
    · omega
    -- two transitions leave the first state, one into the part and one past it
    · rcases mem_transitions_starOf.mp ht with rfl | ⟨t', ht', rfl⟩ | rfl | rfl | rfl
      · obtain ⟨u, v, rfl, hu, hv⟩ := path_starOf ha hf htail rfl hzero rfl
        show u ++ v ∈ KStar.kstar a.language
        exact append_mem_kstar ((mem_language_iff hf).mpr hu) hv
      · have hends := ha.ends ht'
        simp only [Transition.source_shift] at hsource
        omega
      · simp only [Transition.silent] at hsource
        omega
      · simp only [Transition.silent] at hsource
        omega
      · obtain ⟨-, rfl⟩ := htail.of_no_exit (fun t ht => source_ne_of_mem_starOf ha hf ht)
        exact Language.nil_mem_kstar _
  · intro h
    obtain ⟨words, rfl, hwords⟩ := Language.mem_kstar.mp h
    cases words with
    | nil => exact .silent (mem_transitions_starOf.mpr (by simp)) (.nil _)
    | cons u words =>
        exact .silent (mem_transitions_starOf.mpr (.inl rfl)) (path_starOf_of_words hf hwords)

/-! ## Concatenation -/

/-- The concatenation of well-formed automata is well-formed. -/
theorem wellFormed_concatOf (ha : a.WellFormed) (hb : b.WellFormed) (hg : b.final = some g) :
    (a.concatOf b g).WellFormed := by
  have hstate := hb.final_bounds hg
  obtain ⟨f, -, hfirst⟩ := ha.final_isState
  unfold IsState at hfirst
  refine .of_ends (f := g + (a.size - 1)) rfl ?_ ?_
  · simp only [concatOf]
    omega
  · intro t ht
    rcases mem_transitions_concatOf.mp ht with ht | ⟨t', ht', rfl⟩
    · have hends := ha.ends ht
      simp only [concatOf]
      omega
    · have hends := hb.ends ht'
      simp only [concatOf, Transition.source_shift, Transition.target_shift]
      omega

/-- No transition leaves the last state. -/
def NoExit (a : Automaton) : Prop := ∀ t ∈ a.transitions, t.source ≠ a.size - 1

/-- No transition enters the initial state. -/
def NoEntry (a : Automaton) : Prop := ∀ t ∈ a.transitions, t.target ≠ 0

/-- A path of a concatenation that is in the second part stays there.  It is, once it has left
the common state, and in the common state too if the first part has no way out of it. -/
theorem path_concatOf_right (ha : a.WellFormed) (hb : b.WellFormed)
    (hside : a.NoExit ∨ b.NoEntry) {p' q' : Int} (h : (a.concatOf b g).Path p' w q')
    (hq' : q' = g + (a.size - 1)) (hp : 0 ≤ p ∧ p < b.size) (hp' : p' = p + (a.size - 1))
    (hright : p ≠ 0 ∨ a.NoExit) : b.Path p w g := by
  induction h generalizing p with
  | nil p' =>
      have hfinal : p = g := by omega
      exact hfinal ▸ .nil p
  | @cons t w q' ht htail ih =>
      rcases mem_transitions_concatOf.mp ht with ht | ⟨t', ht', rfl⟩
      · have hends := ha.ends ht
        rcases hright with hne | hexit
        · omega
        · exact absurd (show t.source = a.size - 1 by omega) (hexit t ht)
      · have hsource : t'.source = p := by simpa using hp'
        have htarget : t'.target ≠ 0 ∨ a.NoExit := by
          rcases hside with hexit | hentry
          · exact .inr hexit
          · exact .inl (hentry t' ht')
        exact hsource ▸ .cons ht' (ih hq' (hb.ends ht').2 rfl htarget)

/-- A path of a concatenation that starts in the first part goes to its last state, and from
there through the second part. -/
theorem path_concatOf_left (ha : a.WellFormed) (hb : b.WellFormed) (hg : b.final = some g)
    (hside : a.NoExit ∨ b.NoEntry) {q' : Int} (h : (a.concatOf b g).Path p w q')
    (hq' : q' = g + (a.size - 1)) (hp : 0 ≤ p ∧ p < a.size) :
    ∃ u v, w = u ++ v ∧ a.Path p u (a.size - 1) ∧ b.Path 0 v g := by
  have hstate := hb.final_bounds hg
  induction h with
  | nil p =>
      have hzero : g = 0 := by omega
      have hlast : p = a.size - 1 := by omega
      exact ⟨[], [], rfl, hlast ▸ .nil p, hzero ▸ .nil g⟩
  | @cons t w q' ht htail ih =>
      rcases mem_transitions_concatOf.mp ht with ht | ⟨t', ht', rfl⟩
      -- a transition of the first part
      · obtain ⟨u, v, rfl, hu, hv⟩ := ih hq' (ha.ends ht).2
        exact ⟨t.word ++ u, v, by simp, .cons ht hu, hv⟩
      -- the seam: the second part can only be entered at its first state
      · have hends := hb.ends ht'
        simp only [Transition.source_shift] at hp
        have hzero : t'.source = 0 := by omega
        have hright : t'.target ≠ 0 ∨ a.NoExit := by
          rcases hside with hexit | hentry
          · exact .inr hexit
          · exact .inl (hentry t' ht')
        have htail := path_concatOf_right ha hb hside htail hq' (hb.ends ht').2 rfl hright
        refine ⟨[], t'.word ++ w, rfl, ?_, hzero ▸ .cons ht' htail⟩
        simp only [Transition.source_shift, hzero, Int.zero_add]
        exact .nil _

/-- **The language of a concatenation.** -/
theorem language_concatOf (ha : a.WellFormed) (hb : b.WellFormed)
    (hlast : a.final = some (a.size - 1)) (hg : b.final = some g)
    (hside : a.NoExit ∨ b.NoEntry) :
    (a.concatOf b g).language = a.language * b.language := by
  have hstate := ha.final_bounds hlast
  have hzero : (0 : Int) ≤ 0 ∧ 0 < a.size := ⟨le_refl 0, by omega⟩
  ext w
  rw [mem_language_iff (a := a.concatOf b g) (f := g + (a.size - 1)) rfl, Language.mem_mul]
  constructor
  · intro h
    obtain ⟨u, v, rfl, hu, hv⟩ := path_concatOf_left ha hb hg hside h rfl hzero
    exact ⟨u, (mem_language_iff hlast).mpr hu, v, (mem_language_iff hg).mpr hv, rfl⟩
  · rintro ⟨u, hu, v, hv, rfl⟩
    have hfirst : (a.concatOf b g).Path 0 u (a.size - 1) :=
      ((mem_language_iff hlast).mp hu).mono
        fun t ht => mem_transitions_concatOf.mpr (.inl ht)
    have hsecond : (a.concatOf b g).Path (0 + (a.size - 1)) v (g + (a.size - 1)) :=
      ((mem_language_iff hg).mp hv).shift
        fun t ht => mem_transitions_concatOf.mpr (.inr ⟨t, ht, rfl⟩)
    rw [Int.zero_add] at hsecond
    exact hfirst.append hsecond

/-! ## Union -/

/-- The union of well-formed automata is well-formed. -/
theorem wellFormed_unionOf (ha : a.WellFormed) (hb : b.WellFormed) (hf : a.final = some f)
    (hg : b.final = some g) : (a.unionOf b f g).WellFormed := by
  have hleft := ha.final_bounds hf
  have hright := hb.final_bounds hg
  refine .of_ends (f := a.size + b.size + 1) rfl ?_ ?_
  · simp only [unionOf]
    omega
  · intro t ht
    rcases mem_transitions_unionOf.mp ht with
      rfl | ⟨t', ht', rfl⟩ | rfl | rfl | ⟨t', ht', rfl⟩ | rfl
    · simp only [unionOf, Transition.silent]
      omega
    · have hends := ha.ends ht'
      simp only [unionOf, Transition.source_shift, Transition.target_shift]
      omega
    · simp only [unionOf, Transition.silent]
      omega
    · simp only [unionOf, Transition.silent]
      omega
    · have hends := hb.ends ht'
      simp only [unionOf, Transition.source_shift, Transition.target_shift]
      omega
    · simp only [unionOf, Transition.silent]
      omega

/-- Nothing leaves the end of a union. -/
theorem source_ne_of_mem_unionOf (ha : a.WellFormed) (hb : b.WellFormed) (hf : a.final = some f)
    (hg : b.final = some g) {t : Transition} (ht : t ∈ (a.unionOf b f g).transitions) :
    t.source ≠ a.size + b.size + 1 := by
  have hleft := ha.final_bounds hf
  have hright := hb.final_bounds hg
  rcases mem_transitions_unionOf.mp ht with rfl | ⟨t', ht', rfl⟩ | rfl | rfl | ⟨t', ht', rfl⟩ | rfl
  · simp only [Transition.silent]
    omega
  · have hends := ha.ends ht'
    simp only [Transition.source_shift]
    omega
  · simp only [Transition.silent]
    omega
  · simp only [Transition.silent]
    omega
  · have hends := hb.ends ht'
    simp only [Transition.source_shift]
    omega
  · simp only [Transition.silent]
    omega

/-- A part lies in `c`, moved up by `k`.  From inside it only its own transitions lead on, and from
its end a silent one to `e`, where every path ends.  Then from inside the part a path to `e` is a
path of the part to its end. -/
theorem path_of_part {c : Automaton} {k e : Int} (ha : a.WellFormed)
    (hinside : ∀ t ∈ c.transitions, ∀ p, 0 ≤ p ∧ p < a.size → t.source = p + k →
      (∃ t' ∈ a.transitions, t'.shift k = t) ∨ (p = f ∧ t = .silent (f + k) e))
    (hend : ∀ t ∈ c.transitions, t.source ≠ e) (he : ∀ p, 0 ≤ p ∧ p < a.size → p + k ≠ e)
    {p' q' : Int} (h : c.Path p' w q') (hq' : q' = e) (hp : 0 ≤ p ∧ p < a.size)
    (hp' : p' = p + k) : a.Path p w f := by
  induction h generalizing p with
  | nil p' => exact absurd (hp'.symm.trans hq') (he p hp)
  | @cons t w q' ht htail ih =>
      rcases hinside t ht p hp hp' with ⟨t', ht', rfl⟩ | ⟨rfl, rfl⟩
      · have hsource : t'.source = p := by simpa using hp'
        exact hsource ▸ .cons ht' (ih hq' (ha.ends ht').2 rfl)
      · obtain ⟨-, rfl⟩ := htail.of_no_exit hend
        exact .nil p

/-- A path through a union that has entered the first part is an accepting path of that part. -/
theorem path_unionOf_left (ha : a.WellFormed) (hb : b.WellFormed) (hf : a.final = some f)
    (hg : b.final = some g) (h : (a.unionOf b f g).Path 1 w (a.size + b.size + 1)) :
    a.Path 0 w f := by
  have hleft := ha.final_bounds hf
  have hright := hb.final_bounds hg
  refine path_of_part (k := 1) ha ?_ (fun t ht => source_ne_of_mem_unionOf ha hb hf hg ht) ?_ h rfl
    ⟨le_refl 0, by omega⟩ rfl
  · intro t ht p hp hsource
    rcases mem_transitions_unionOf.mp ht with
      rfl | ⟨t', ht', rfl⟩ | rfl | rfl | ⟨t', ht', rfl⟩ | rfl
    · simp only [Transition.silent] at hsource
      omega
    · exact .inl ⟨t', ht', rfl⟩
    · refine .inr ⟨?_, rfl⟩
      simp only [Transition.silent] at hsource
      omega
    · simp only [Transition.silent] at hsource
      omega
    · have hends := hb.ends ht'
      simp only [Transition.source_shift] at hsource
      omega
    · simp only [Transition.silent] at hsource
      omega
  · intro p hp
    omega

/-- A path through a union that has entered the second part is an accepting path of that part. -/
theorem path_unionOf_right (ha : a.WellFormed) (hb : b.WellFormed) (hf : a.final = some f)
    (hg : b.final = some g) (h : (a.unionOf b f g).Path (a.size + 1) w (a.size + b.size + 1)) :
    b.Path 0 w g := by
  have hleft := ha.final_bounds hf
  have hright := hb.final_bounds hg
  refine path_of_part (k := a.size + 1) hb ?_
    (fun t ht => source_ne_of_mem_unionOf ha hb hf hg ht) ?_ h rfl ⟨le_refl 0, by omega⟩
    (Int.zero_add _).symm
  · intro t ht p hp hsource
    rcases mem_transitions_unionOf.mp ht with
      rfl | ⟨t', ht', rfl⟩ | rfl | rfl | ⟨t', ht', rfl⟩ | rfl
    · simp only [Transition.silent] at hsource
      omega
    · have hends := ha.ends ht'
      simp only [Transition.source_shift] at hsource
      omega
    · simp only [Transition.silent] at hsource
      omega
    · simp only [Transition.silent] at hsource
      omega
    · exact .inl ⟨t', ht', rfl⟩
    · refine .inr ⟨?_, by rw [Int.add_assoc]⟩
      simp only [Transition.silent] at hsource
      omega
  · intro p hp
    omega

/-- **The language of a union.** -/
theorem language_unionOf (ha : a.WellFormed) (hb : b.WellFormed) (hf : a.final = some f)
    (hg : b.final = some g) : (a.unionOf b f g).language = a.language + b.language := by
  have hleft := ha.final_bounds hf
  have hright := hb.final_bounds hg
  ext w
  rw [mem_language_iff (a := a.unionOf b f g) (f := a.size + b.size + 1) rfl, Language.mem_add]
  constructor
  · intro h
    rcases h.first with ⟨hstay, -⟩ | ⟨t, ht, hsource, v, rfl, htail⟩
    · omega
    -- two transitions leave the first state, one into each part; all others start elsewhere
    · rcases mem_transitions_unionOf.mp ht with
        rfl | ⟨t', ht', rfl⟩ | rfl | rfl | ⟨t', ht', rfl⟩ | rfl
      · exact .inl ((mem_language_iff hf).mpr (path_unionOf_left ha hb hf hg htail))
      · have hends := ha.ends ht'
        simp only [Transition.source_shift] at hsource
        omega
      · simp only [Transition.silent] at hsource
        omega
      · exact .inr ((mem_language_iff hg).mpr (path_unionOf_right ha hb hf hg htail))
      · have hends := hb.ends ht'
        simp only [Transition.source_shift] at hsource
        omega
      · simp only [Transition.silent] at hsource
        omega
  · rintro (h | h)
    · have hpart := ((mem_language_iff hf).mp h).shift (b := a.unionOf b f g) (k := 1)
        fun t ht => mem_transitions_unionOf.mpr (.inr (.inl ⟨t, ht, rfl⟩))
      have hout : (a.unionOf b f g).Path (f + 1) [] (a.size + b.size + 1) :=
        .silent (mem_transitions_unionOf.mpr (by simp)) (.nil _)
      simpa using Path.silent (mem_transitions_unionOf.mpr (.inl rfl)) (hpart.append hout)
    · have hpart := ((mem_language_iff hg).mp h).shift (b := a.unionOf b f g) (k := a.size + 1)
        fun t ht => mem_transitions_unionOf.mpr (.inr (.inr (.inr (.inr (.inl ⟨t, ht, rfl⟩)))))
      have hout : (a.unionOf b f g).Path (g + (a.size + 1)) [] (a.size + b.size + 1) :=
        .silent (mem_transitions_unionOf.mpr (by simp [Int.add_assoc])) (.nil _)
      rw [Int.zero_add] at hpart
      simpa using Path.silent (mem_transitions_unionOf.mpr (by simp)) (hpart.append hout)

end RegexCompiler.Automaton
