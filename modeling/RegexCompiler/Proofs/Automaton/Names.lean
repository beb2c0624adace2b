import RegexCompiler.Proofs.Automaton.Machine
import RegexCompiler.Proofs.Text.Delimited

/-!
# Names of transitions

The name of a transition holds its source, its target, its symbol and its place in the list, with
underscores between them.  The symbol may hold underscores too, and digits and signs between them,
but the numbers hold none.  So the source stands before the first underscore, the target before the
next one and the place behind the last one, and what is left is the symbol
(`Transition.ofId_id`).

Hence names tell places and transitions, within one description and across any two (`names_tell`).
-/

namespace RegexCompiler

namespace Transition

/-- The transition of a name, and its place in the list. -/
def ofId (cs : List Char) : Transition × Nat :=
  let (source, behindSource) := Text.cutAt '_' cs
  let (target, behindTarget) := Text.cutAt '_' behindSource
  -- the rest is read backwards, since the symbol may hold the mark
  let (place, symbol) := Text.cutAt '_' behindTarget.reverse
  ({ source := Text.toInt source
     symbol := String.ofList symbol.reverse
     target := Text.toInt target }, Nat.ofDigitChars 10 place.reverse 0)

/-- The name of a transition, taken apart: the symbol stands between the second underscore and the
last one. -/
theorem toList_id (t : Transition) (index : Nat) :
    (t.id index).toList = Text.decimal t.source ++ '_' :: (Text.decimal t.target ++
      '_' :: (t.symbol.toList ++ '_' :: Nat.toDigits 10 index)) := by
  simp [id, Text.ofInt, Text.ofNat]

/-- **A name is read as it was written**, whatever its states and its symbol are. -/
theorem ofId_id (t : Transition) (index : Nat) : ofId (t.id index).toList = (t, index) := by
  have hnumber : ∀ n, '_' ∉ Text.decimal n := Text.not_mem_decimal rfl (by decide)
  have hplace : '_' ∉ (Nat.toDigits 10 index).reverse := by
    rw [List.mem_reverse]
    exact hnumber index
  have hrest : (t.symbol.toList ++ '_' :: Nat.toDigits 10 index).reverse =
      (Nat.toDigits 10 index).reverse ++ '_' :: t.symbol.toList.reverse := by
    simp
  simp only [ofId, toList_id, Text.cutAt_append (hnumber _), hrest, Text.cutAt_append hplace,
    List.reverse_reverse, Text.toInt_decimal, String.ofList_toList, Nat.ofDigitChars_ten_toDigits]

/-- **Names tell transitions and places.** -/
theorem id_inj {t u : Transition} {i j : Nat} : t.id i = u.id j ↔ t = u ∧ i = j := by
  constructor
  · intro h
    have hread := t.ofId_id i
    rw [h, u.ofId_id] at hread
    exact ⟨(Prod.mk.inj hread).1.symm, (Prod.mk.inj hread).2.symm⟩
  · rintro ⟨rfl, rfl⟩
    rfl

end Transition

namespace Automaton

variable {a b : Automaton}

/-- What stands at a place of a description: the transition there, with the name of that place. -/
theorem getElem?_machine_eq_some_iff {i : Nat} {m : MachineTransition} :
    a.machine.transitions[i]? = some m ↔
      a.transitions[i]? = some m.transition ∧ m.id = m.transition.id i := by
  obtain ⟨t, name⟩ := m
  simp only [machine, List.getElem?_map, List.getElem?_zipIdx, Option.map_map,
    Option.map_eq_some_iff]
  constructor
  · rintro ⟨u, hu, h⟩
    cases h
    simp [hu]
  · rintro ⟨ht, rfl⟩
    exact ⟨t, ht, by simp⟩

/-- No name is there twice, since each one tells its own place. -/
theorem nodup_names (a : Automaton) : (a.machine.transitions.map (·.id)).Nodup := by
  have hplaces : (a.machine.transitions.map (·.id)).map (fun s => (Transition.ofId s.toList).2) =
      List.range' 0 a.transitions.length := by
    simp only [machine, List.map_map, Function.comp_def, Transition.ofId_id]
    exact List.zipIdx_map_snd 0 _
  apply List.Nodup.of_map
  rw [hplaces]
  exact List.nodup_range'

end Automaton

/-- **Names tell their transitions.**  In a description every transition of the automaton has a name
of its own, also where transitions repeat.  Any two names, of one automaton or of two, are the same
just if source, target, symbol and place are; so a name can be read back. -/
theorem names_tell :
    (∀ a : Automaton, a.machine.transitions.map (·.transition) = a.transitions ∧
      (a.machine.transitions.map (·.id)).Nodup) ∧
    ∀ (a b : Automaton) (i j : Nat) (m n : MachineTransition),
      a.machine.transitions[i]? = some m → b.machine.transitions[j]? = some n →
      (m.id = n.id ↔ m.transition.source = n.transition.source ∧
        m.transition.target = n.transition.target ∧
        m.transition.symbol = n.transition.symbol ∧ i = j) ∧
      Transition.ofId m.id.toList = (m.transition, i) := by
  refine ⟨fun a => ⟨a.map_transition_machine, a.nodup_names⟩, ?_⟩
  intro a b i j m n hm hn
  obtain ⟨-, hleft⟩ := Automaton.getElem?_machine_eq_some_iff.mp hm
  obtain ⟨-, hright⟩ := Automaton.getElem?_machine_eq_some_iff.mp hn
  rw [hleft, hright, Transition.ofId_id, Transition.id_inj]
  refine ⟨?_, rfl⟩
  obtain ⟨⟨p, s, q⟩, -⟩ := m
  obtain ⟨⟨p', s', q'⟩, -⟩ := n
  simp only [Transition.mk.injEq]
  tauto

/-- A symbol may look like a name, and a transition may be there twice. -/
theorem names_tell_lookalike :
    let t : Transition := ⟨-3, "3_4_a_7", -4⟩
    let u : Transition := ⟨-3, "3_4_a", -4⟩
    let a : Automaton := { size := 0, transitions := [t, t] }
    let b : Automaton := { size := 0, transitions := [u, t] }
    a.machine.transitions = [⟨t, "-3_-4_3_4_a_7_0"⟩, ⟨t, "-3_-4_3_4_a_7_1"⟩] ∧
    b.machine.transitions = [⟨u, "-3_-4_3_4_a_0"⟩, ⟨t, "-3_-4_3_4_a_7_1"⟩] ∧
    t.id 0 ≠ t.id 1 ∧ t.id 0 ≠ u.id 0 ∧
    Transition.ofId "-3_-4_3_4_a_7_1".toList = (t, 1) := by
  intro t u a b
  have ha : a.machine.transitions = [⟨t, "-3_-4_3_4_a_7_0"⟩, ⟨t, "-3_-4_3_4_a_7_1"⟩] := by
    decide +kernel
  have hb : b.machine.transitions = [⟨u, "-3_-4_3_4_a_0"⟩, ⟨t, "-3_-4_3_4_a_7_1"⟩] := by
    decide +kernel
  obtain ⟨hrepeated, -⟩ := names_tell.2 a a 0 1 _ _ (by rw [ha]; rfl) (by rw [ha]; rfl)
  obtain ⟨hsymbol, -⟩ := names_tell.2 a b 0 0 _ _ (by rw [ha]; rfl) (by rw [hb]; rfl)
  obtain ⟨-, hread⟩ := names_tell.2 b a 1 1 _ _ (by rw [hb]; rfl) (by rw [ha]; rfl)
  refine ⟨ha, hb, ?_, ?_, hread⟩
  · exact fun h => absurd (hrepeated.mp h).2.2.2 (by decide)
  · exact fun h => absurd (hsymbol.mp h).2.2.1 (by decide)

end RegexCompiler
