import RegexCompiler.Proofs.Automaton.Block

/-!
# Transitions by their ends

The transitions of an automaton that leave or enter given states.  A block that is moved up has none
but at the states of its new place.  So at every state of a construction there is little to see: new
silent transitions if the state is an end of the construction or of one of its parts, and what the
part has there if it lies inside one.
-/

namespace RegexCompiler

/-- The transitions that leave a state from `lo` on and before `hi`. -/
def leaving (lo hi : Int) (ts : List Transition) : List Transition :=
  ts.filter fun t => lo ≤ t.source ∧ t.source < hi

/-- The transitions that enter `p`. -/
def entering (p : Int) (ts : List Transition) : List Transition :=
  ts.filter fun t => t.target = p

/-- Membership among the transitions that leave a range of states. -/
theorem mem_leaving {lo hi : Int} {t : Transition} {ts : List Transition} :
    t ∈ leaving lo hi ts ↔ t ∈ ts ∧ lo ≤ t.source ∧ t.source < hi := by
  rw [leaving, List.mem_filter, decide_eq_true_eq]

/-- Membership among the transitions that enter a state. -/
theorem mem_entering {p : Int} {t : Transition} {ts : List Transition} :
    t ∈ entering p ts ↔ t ∈ ts ∧ t.target = p := by
  rw [entering, List.mem_filter, decide_eq_true_eq]

/-- The transitions that leave one state. -/
theorem leaving_self (p : Int) (ts : List Transition) :
    leaving p (p + 1) ts = ts.filter (·.source = p) := by
  refine List.filter_congr fun t _ => decide_eq_decide.mpr ?_
  omega

/-- No transitions, none that leave. -/
theorem leaving_nil (lo hi : Int) : leaving lo hi [] = [] := rfl

/-- A silent transition out of the range is kept. -/
theorem leaving_silent {lo hi p : Int} (h : lo ≤ p ∧ p < hi) (q : Int) (ts : List Transition) :
    leaving lo hi (.silent p q :: ts) = .silent p q :: leaving lo hi ts :=
  List.filter_cons_of_pos (decide_eq_true h)

/-- A silent transition from elsewhere is dropped. -/
theorem leaving_silent_of_out {lo hi p : Int} (h : p < lo ∨ hi ≤ p) (q : Int)
    (ts : List Transition) : leaving lo hi (.silent p q :: ts) = leaving lo hi ts := by
  refine List.filter_cons_of_neg ?_
  show ¬ decide (lo ≤ p ∧ p < hi) = true
  rw [decide_eq_true_eq]
  omega

/-- No transitions, none that enter. -/
theorem entering_nil (p : Int) : entering p [] = [] := rfl

/-- A silent transition into the state is kept. -/
theorem entering_silent (p q : Int) (ts : List Transition) :
    entering p (.silent q p :: ts) = .silent q p :: entering p ts :=
  List.filter_cons_of_pos (decide_eq_true rfl)

/-- A silent transition into another state is dropped. -/
theorem entering_silent_of_ne {p r : Int} (h : r ≠ p) (q : Int) (ts : List Transition) :
    entering p (.silent q r :: ts) = entering p ts :=
  List.filter_cons_of_neg (by rw [decide_eq_true_eq]; exact h)

/-- What leaves a range is collected part by part. -/
theorem leaving_append (lo hi : Int) (ts ts' : List Transition) :
    leaving lo hi (ts ++ ts') = leaving lo hi ts ++ leaving lo hi ts' :=
  List.filter_append _ _

/-- What enters a state is collected part by part. -/
theorem entering_append (p : Int) (ts ts' : List Transition) :
    entering p (ts ++ ts') = entering p ts ++ entering p ts' :=
  List.filter_append _ _

/-- Nothing leaves a range in which no transition starts. -/
theorem leaving_eq_nil {lo hi : Int} {ts : List Transition}
    (h : ∀ t ∈ ts, t.source < lo ∨ hi ≤ t.source) : leaving lo hi ts = [] := by
  refine List.filter_eq_nil_iff.mpr ?_
  intro t ht
  have hsource := h t ht
  rw [decide_eq_true_eq]
  omega

/-- Everything leaves a range in which all transitions start. -/
theorem leaving_eq_self {lo hi : Int} {ts : List Transition}
    (h : ∀ t ∈ ts, lo ≤ t.source ∧ t.source < hi) : leaving lo hi ts = ts :=
  List.filter_eq_self.mpr fun t ht => decide_eq_true (h t ht)

/-- Nothing enters a state in which no transition ends. -/
theorem entering_eq_nil {p : Int} {ts : List Transition} (h : ∀ t ∈ ts, t.target ≠ p) :
    entering p ts = [] :=
  List.filter_eq_nil_iff.mpr fun t ht => by simpa using h t ht

namespace Automaton

/-! ## What is moved up -/

/-- What leaves a range of a moved automaton has left the range before it was moved. -/
theorem leaving_shifted (a : Automaton) (lo hi k : Int) :
    leaving lo hi (a.shifted k) =
      (leaving (lo - k) (hi - k) a.transitions).map (Transition.shift k) := by
  rw [leaving, shifted, List.filter_map, leaving]
  refine congrArg (List.map _) (List.filter_congr fun t _ => decide_eq_decide.mpr ?_)
  show lo ≤ t.source + k ∧ t.source + k < hi ↔ lo - k ≤ t.source ∧ t.source < hi - k
  omega

/-- What enters a state of a moved automaton has entered it before it was moved. -/
theorem entering_shifted (a : Automaton) (p k : Int) :
    entering p (a.shifted k) = (entering (p - k) a.transitions).map (Transition.shift k) := by
  rw [entering, shifted, List.filter_map, entering]
  refine congrArg (List.map _) (List.filter_congr fun t _ => decide_eq_decide.mpr ?_)
  show t.target + k = p ↔ t.target = p - k
  omega

namespace Block

variable {a : Automaton} {k lo hi p : Int}

/-- The transitions of a moved block start at its states but the last one, and end at its states but
the first one. -/
theorem ends_shifted (ha : a.Block) {t : Transition} (ht : t ∈ a.shifted k) :
    (k ≤ t.source ∧ t.source < k + a.size - 1) ∧ k < t.target ∧ t.target < k + a.size := by
  obtain ⟨t', ht', rfl⟩ := mem_shifted.mp ht
  have hends := ha.ends t' ht'
  simp only [Transition.source_shift, Transition.target_shift]
  omega

/-- All transitions of a moved block leave a range that holds its states. -/
theorem leaving_shifted_eq_self (ha : a.Block) (hlo : lo ≤ k) (hhi : k + a.size - 1 ≤ hi) :
    leaving lo hi (a.shifted k) = a.shifted k := by
  refine leaving_eq_self ?_
  intro t ht
  have hends := ha.ends_shifted ht
  omega

/-- None of them leaves a range that lies beyond its states. -/
theorem leaving_shifted_eq_nil (ha : a.Block) (h : hi ≤ k ∨ k + a.size - 1 ≤ lo) :
    leaving lo hi (a.shifted k) = [] := by
  refine leaving_eq_nil ?_
  intro t ht
  have hends := ha.ends_shifted ht
  omega

/-- None of them enters a state that lies beyond its states, or its first one. -/
theorem entering_shifted_eq_nil (ha : a.Block) (h : p ≤ k ∨ k + a.size ≤ p) :
    entering p (a.shifted k) = [] := by
  refine entering_eq_nil ?_
  intro t ht
  have hends := ha.ends_shifted ht
  omega

end Block

variable {a b : Automaton} {p : Int}

/-! ## Repetition -/

/-- The transitions of the repetition of a block, whose final state is the last one. -/
theorem transitions_starOf_last (a : Automaton) :
    (a.starOf (a.size - 1)).transitions = .silent 0 1 :: (a.shifted 1 ++
      [.silent a.size (a.size + 1), .silent a.size 1, .silent 0 (a.size + 1)]) := by
  simp [starOf]

/-- Two silent transitions leave the beginning of a repetition: into the part, and past it. -/
theorem leaving_starOf_first (ha : a.Block) :
    leaving 0 1 (a.starOf (a.size - 1)).transitions = [.silent 0 1, .silent 0 (a.size + 1)] := by
  have hsize := ha.two_le
  simp (disch := omega) only [transitions_starOf_last, leaving_append, leaving_silent,
    leaving_silent_of_out, leaving_nil, ha.leaving_shifted_eq_nil, List.nil_append]

/-- Two silent transitions leave the end of the repeated part: out of it, and back to its beginning.
-/
theorem leaving_starOf_last (ha : a.Block) :
    leaving a.size (a.size + 1) (a.starOf (a.size - 1)).transitions =
      [.silent a.size (a.size + 1), .silent a.size 1] := by
  have hsize := ha.two_le
  simp (disch := omega) only [transitions_starOf_last, leaving_append, leaving_silent,
    leaving_silent_of_out, leaving_nil, ha.leaving_shifted_eq_nil, List.nil_append]

/-- From any other state of a repetition there is what the part has there. -/
theorem leaving_starOf_inner (hfirst : p ≠ 0) (hlast : p ≠ a.size) :
    leaving p (p + 1) (a.starOf (a.size - 1)).transitions = leaving p (p + 1) (a.shifted 1) := by
  simp (disch := omega) only [transitions_starOf_last, leaving_append, leaving_silent_of_out,
    leaving_nil, List.append_nil]

/-- The beginning of the repeated part is entered from outside and from its own end. -/
theorem entering_starOf_second (ha : a.Block) :
    entering 1 (a.starOf (a.size - 1)).transitions = [.silent 0 1, .silent a.size 1] := by
  have hsize := ha.two_le
  simp (disch := omega) only [transitions_starOf_last, entering_append, entering_silent,
    entering_silent_of_ne, entering_nil, ha.entering_shifted_eq_nil, List.nil_append]

/-- The end of a repetition is entered from the part, and past it. -/
theorem entering_starOf_last (ha : a.Block) :
    entering (a.size + 1) (a.starOf (a.size - 1)).transitions =
      [.silent a.size (a.size + 1), .silent 0 (a.size + 1)] := by
  have hsize := ha.two_le
  simp (disch := omega) only [transitions_starOf_last, entering_append, entering_silent,
    entering_silent_of_ne, entering_nil, ha.entering_shifted_eq_nil, List.nil_append]

/-- Into any other state of a repetition there is what the part has there. -/
theorem entering_starOf_inner (hsecond : p ≠ 1) (hlast : p ≠ a.size + 1) :
    entering p (a.starOf (a.size - 1)).transitions = entering p (a.shifted 1) := by
  simp (disch := omega) only [transitions_starOf_last, entering_append, entering_silent_of_ne,
    entering_nil, List.append_nil]

/-! ## Concatenation -/

/-- Before the shared state of a concatenation there is what leaves the first part. -/
theorem leaving_concatOf_left (hb : b.Block) (g : Int) (hp : p < a.size - 1) :
    leaving p (p + 1) (a.concatOf b g).transitions = leaving p (p + 1) a.transitions := by
  rw [concatOf, leaving_append, hb.leaving_shifted_eq_nil (by omega), List.append_nil]

/-- From the shared state on there is what leaves the second part. -/
theorem leaving_concatOf_right (ha : a.Block) (g : Int) (hp : a.size - 1 ≤ p) :
    leaving p (p + 1) (a.concatOf b g).transitions =
      leaving p (p + 1) (b.shifted (a.size - 1)) := by
  have hnone : leaving p (p + 1) a.transitions = [] := by
    refine leaving_eq_nil ?_
    intro t ht
    have hends := ha.ends t ht
    omega
  rw [concatOf, leaving_append, hnone, List.nil_append]

/-- Up to the shared state of a concatenation there is what enters the first part. -/
theorem entering_concatOf_left (hb : b.Block) (g : Int) (hp : p ≤ a.size - 1) :
    entering p (a.concatOf b g).transitions = entering p a.transitions := by
  rw [concatOf, entering_append, hb.entering_shifted_eq_nil (by omega), List.append_nil]

/-- Behind the shared state there is what enters the second part. -/
theorem entering_concatOf_right (ha : a.Block) (g : Int) (hp : a.size - 1 < p) :
    entering p (a.concatOf b g).transitions = entering p (b.shifted (a.size - 1)) := by
  have hnone : entering p a.transitions = [] := by
    refine entering_eq_nil ?_
    intro t ht
    have hends := ha.ends t ht
    omega
  rw [concatOf, entering_append, hnone, List.nil_append]

/-! ## Union -/

/-- The transitions of the union of two blocks, whose final states are the last ones. -/
theorem transitions_unionOf_last (a b : Automaton) :
    (a.unionOf b (a.size - 1) (b.size - 1)).transitions =
      .silent 0 1 :: (a.shifted 1 ++ .silent a.size (a.size + b.size + 1) ::
        .silent 0 (a.size + 1) :: (b.shifted (a.size + 1) ++
          [.silent (a.size + b.size) (a.size + b.size + 1)])) := by
  have hlast : b.size - 1 + a.size + 1 = a.size + b.size := by omega
  simp [unionOf, hlast]

/-- Two silent transitions leave the beginning of a union, one into each part. -/
theorem leaving_unionOf_first (ha : a.Block) (hb : b.Block) :
    leaving 0 1 (a.unionOf b (a.size - 1) (b.size - 1)).transitions =
      [.silent 0 1, .silent 0 (a.size + 1)] := by
  have hleft := ha.two_le
  have hright := hb.two_le
  simp (disch := omega) only [transitions_unionOf_last, leaving_append, leaving_silent,
    leaving_silent_of_out, leaving_nil, ha.leaving_shifted_eq_nil, hb.leaving_shifted_eq_nil,
    List.nil_append]

/-- The last state of the first part of a union leads to the end of the union. -/
theorem leaving_unionOf_join (ha : a.Block) (hb : b.Block) :
    leaving a.size (a.size + 1) (a.unionOf b (a.size - 1) (b.size - 1)).transitions =
      [.silent a.size (a.size + b.size + 1)] := by
  have hleft := ha.two_le
  have hright := hb.two_le
  simp (disch := omega) only [transitions_unionOf_last, leaving_append, leaving_silent,
    leaving_silent_of_out, leaving_nil, ha.leaving_shifted_eq_nil, hb.leaving_shifted_eq_nil,
    List.nil_append]

/-- One silent transition leaves the end of the second part, out of the union. -/
theorem leaving_unionOf_last (ha : a.Block) (hb : b.Block) :
    leaving (a.size + b.size) (a.size + b.size + 1)
        (a.unionOf b (a.size - 1) (b.size - 1)).transitions =
      [.silent (a.size + b.size) (a.size + b.size + 1)] := by
  have hleft := ha.two_le
  have hright := hb.two_le
  simp (disch := omega) only [transitions_unionOf_last, leaving_append, leaving_silent,
    leaving_silent_of_out, leaving_nil, ha.leaving_shifted_eq_nil, hb.leaving_shifted_eq_nil,
    List.nil_append]

/-- From inside the first part of a union there is what that part has there. -/
theorem leaving_unionOf_left (hb : b.Block) (hfirst : p ≠ 0) (hp : p < a.size) :
    leaving p (p + 1) (a.unionOf b (a.size - 1) (b.size - 1)).transitions =
      leaving p (p + 1) (a.shifted 1) := by
  have hright := hb.two_le
  simp (disch := omega) only [transitions_unionOf_last, leaving_append, leaving_silent_of_out,
    leaving_nil, hb.leaving_shifted_eq_nil, List.append_nil]

/-- From inside the second part of a union there is what that part has there. -/
theorem leaving_unionOf_right (ha : a.Block) (hp : a.size < p) (hlast : p ≠ a.size + b.size) :
    leaving p (p + 1) (a.unionOf b (a.size - 1) (b.size - 1)).transitions =
      leaving p (p + 1) (b.shifted (a.size + 1)) := by
  have hleft := ha.two_le
  simp (disch := omega) only [transitions_unionOf_last, leaving_append, leaving_silent_of_out,
    leaving_nil, ha.leaving_shifted_eq_nil, List.append_nil, List.nil_append]

/-- The first part of a union is entered from the beginning of the union only. -/
theorem entering_unionOf_second (ha : a.Block) (hb : b.Block) :
    entering 1 (a.unionOf b (a.size - 1) (b.size - 1)).transitions = [.silent 0 1] := by
  have hleft := ha.two_le
  have hright := hb.two_le
  simp (disch := omega) only [transitions_unionOf_last, entering_append, entering_silent,
    entering_silent_of_ne, entering_nil, ha.entering_shifted_eq_nil, hb.entering_shifted_eq_nil,
    List.nil_append]

/-- So is the second part. -/
theorem entering_unionOf_join (ha : a.Block) (hb : b.Block) :
    entering (a.size + 1) (a.unionOf b (a.size - 1) (b.size - 1)).transitions =
      [.silent 0 (a.size + 1)] := by
  have hleft := ha.two_le
  have hright := hb.two_le
  simp (disch := omega) only [transitions_unionOf_last, entering_append, entering_silent,
    entering_silent_of_ne, entering_nil, ha.entering_shifted_eq_nil, hb.entering_shifted_eq_nil,
    List.nil_append]

/-- The end of a union is entered from the ends of both parts. -/
theorem entering_unionOf_last (ha : a.Block) (hb : b.Block) :
    entering (a.size + b.size + 1) (a.unionOf b (a.size - 1) (b.size - 1)).transitions =
      [.silent a.size (a.size + b.size + 1), .silent (a.size + b.size) (a.size + b.size + 1)] := by
  have hleft := ha.two_le
  have hright := hb.two_le
  simp (disch := omega) only [transitions_unionOf_last, entering_append, entering_silent,
    entering_silent_of_ne, entering_nil, ha.entering_shifted_eq_nil, hb.entering_shifted_eq_nil,
    List.nil_append]

/-- Into the first part of a union, behind its beginning, there is what that part has there. -/
theorem entering_unionOf_left (hb : b.Block) (hsecond : p ≠ 1) (hp : p ≤ a.size) :
    entering p (a.unionOf b (a.size - 1) (b.size - 1)).transitions = entering p (a.shifted 1) := by
  have hright := hb.two_le
  simp (disch := omega) only [transitions_unionOf_last, entering_append, entering_silent_of_ne,
    entering_nil, hb.entering_shifted_eq_nil, List.append_nil]

/-- Into the second part of a union, behind its beginning, there is what that part has there. -/
theorem entering_unionOf_right (ha : a.Block) (hp : a.size + 1 < p)
    (hlast : p ≠ a.size + b.size + 1) :
    entering p (a.unionOf b (a.size - 1) (b.size - 1)).transitions =
      entering p (b.shifted (a.size + 1)) := by
  have hleft := ha.two_le
  simp (disch := omega) only [transitions_unionOf_last, entering_append, entering_silent_of_ne,
    entering_nil, ha.entering_shifted_eq_nil, List.append_nil, List.nil_append]

end Automaton

end RegexCompiler
