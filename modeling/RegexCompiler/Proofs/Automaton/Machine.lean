import Mathlib.Data.String.Basic
import RegexCompiler.Automaton.Listing
import RegexCompiler.Automaton.Machine
import RegexCompiler.Proofs.Automaton.Block
import RegexCompiler.Proofs.Json.RoundTrip

/-!
# The machine description of a block

The numbers in the description of a block are its states, so none has more digits than the number
of states, and the description can be read within any limit that allows that many
(`Block.readable_machine`).

The description shows what a block is: the states from zero on, the first one as the start, the last
one as the only accepting one (`Block.machine_eq`).  With the transitions this tells which block it
is (`Block.eq_of_toJson_eq`).

Its symbols ascend, so each is there once (`Machine.symbolsOf_ascends`).
-/

namespace RegexCompiler

/-- A smaller number has no more digits. -/
theorem length_toDigits_le_of_le {m n limit : Nat} (hmn : m ≤ n)
    (hn : (Nat.toDigits 10 n).length ≤ limit) : (Nat.toDigits 10 m).length ≤ limit := by
  have hlimit : 0 < limit := Nat.lt_of_lt_of_le Nat.length_toDigits_pos hn
  rw [Nat.length_toDigits_le_iff (by decide) hlimit] at hn ⊢
  exact Nat.lt_of_le_of_lt hmn hn

namespace Automaton.Block

variable {a : Automaton} {limit : Nat}

/-- **The parts of the description of a block.** -/
theorem machine_eq (ha : a.Block) :
    a.machine.states = (List.range a.size.toNat).map Int.ofNat ∧ a.machine.start = some 0 ∧
      a.machine.accepting = [a.size - 1] := by
  have hsize := ha.two_le
  refine ⟨rfl, ?_, ?_⟩
  · exact if_neg (by simp [isEmpty]; omega)
  · rw [machine, ha.final_eq]
    rfl

/-- **The description of a block is read as it is written**, within a limit that allows as many
digits as its number of states has. -/
theorem readable_machine (ha : a.Block) (hlimit : (Nat.toDigits 10 a.size.toNat).length ≤ limit) :
    a.machine.toJson.Readable limit := by
  have hsize := ha.two_le
  have hstate : ∀ n : Int, 0 ≤ n → n ≤ a.size → (Json.int n).Readable limit := by
    intro n hzero hle
    exact length_toDigits_le_of_le (by omega) hlimit
  obtain ⟨hstates, hstart, haccepting⟩ := ha.machine_eq
  rw [Machine.toJson, hstates, hstart, haccepting]
  refine ⟨by simp, ?_, hstate 0 (by omega) (by omega), ?_, ?_, ?_, trivial⟩
  · refine Json.areReadable_iff.mpr ?_
    intro j hj
    simp only [List.map_map, List.mem_map, List.mem_range] at hj
    obtain ⟨i, hi, rfl⟩ := hj
    exact hstate i (by omega) (by omega)
  · exact ⟨hstate _ (by omega) (by omega), trivial⟩
  · refine Json.areReadable_iff.mpr ?_
    intro j hj
    simp only [machine, List.map_map, List.mem_map] at hj
    obtain ⟨⟨t, i⟩, ht, rfl⟩ := hj
    have hends := ha.ends t (List.fst_mem_of_mem_zipIdx ht)
    have hsource := hstate t.source (by omega) (by omega)
    have htarget := hstate t.target (by omega) (by omega)
    exact ⟨by simp, hsource, htarget, trivial, trivial, trivial⟩
  · refine Json.areReadable_iff.mpr ?_
    intro j hj
    obtain ⟨s, -, rfl⟩ := List.mem_map.mp hj
    exact trivial

end Automaton.Block

/-! ## Symbols in ascending order -/

namespace Machine

variable {s t : String} {ss : List String} {ts : List Transition}

/-- Putting a symbol in its place adds that symbol and no other. -/
theorem mem_insertSymbol : t ∈ insertSymbol s ss ↔ t = s ∨ t ∈ ss := by
  induction ss with
  | nil => simp [insertSymbol]
  | cons u rest ih =>
      unfold insertSymbol
      split_ifs with hlt heq
      · simp
      · simp [heq]
      · simp only [List.mem_cons, ih]
        exact or_left_comm

/-- A text that is put in its place keeps the list ascending. -/
theorem insertSymbol_ascends (h : ss.Pairwise (· < ·)) :
    (insertSymbol s ss).Pairwise (· < ·) := by
  induction ss with
  | nil => exact List.pairwise_singleton _ s
  | cons u rest ih =>
      obtain ⟨hfirst, hrest⟩ := List.pairwise_cons.mp h
      unfold insertSymbol
      split_ifs with hlt heq
      · apply List.pairwise_cons.mpr
        refine ⟨?_, h⟩
        intro t ht
        rcases List.mem_cons.mp ht with rfl | ht
        · exact hlt
        · exact hlt.trans (hfirst t ht)
      · exact h
      · apply List.pairwise_cons.mpr
        refine ⟨?_, ih hrest⟩
        intro t ht
        rcases mem_insertSymbol.mp ht with rfl | ht
        · exact lt_of_le_of_ne (not_lt.mp hlt) (Ne.symm heq)
        · exact hfirst t ht

/-- Sorting symbols keeps all of them. -/
theorem mem_foldr_insertSymbol : s ∈ ss.foldr insertSymbol [] ↔ s ∈ ss := by
  induction ss with
  | nil => rfl
  | cons u rest ih => rw [List.foldr_cons, mem_insertSymbol, ih, List.mem_cons]

/-- **The symbols of a description** are those of the transitions that are not silent. -/
theorem mem_symbolsOf :
    s ∈ symbolsOf ts ↔ s ∈ (ts.filter (·.symbol ≠ epsilon)).map (·.symbol) := by
  have hmap : (ts.map (·.symbol)).filter (· ≠ epsilon) =
      (ts.filter (·.symbol ≠ epsilon)).map (·.symbol) := List.filter_map
  rw [symbolsOf, hmap, mem_foldr_insertSymbol]

/-- **They ascend.** -/
theorem symbolsOf_ascends (ts : List Transition) : (symbolsOf ts).Pairwise (· < ·) := by
  unfold symbolsOf
  induction (ts.map (·.symbol)).filter (· ≠ epsilon) with
  | nil => exact List.Pairwise.nil
  | cons u rest ih => exact insertSymbol_ascends ih

end Machine

/-! ## Descriptions tell automata apart -/

namespace Machine

/-- A transition in JSON shows the transition. -/
theorem transitionJson_injective : Function.Injective transitionJson := by
  rintro ⟨⟨p, s, q⟩, i⟩ ⟨⟨p', s', q'⟩, i'⟩ h
  simp only [transitionJson, Json.obj.injEq, List.cons.injEq, Prod.mk.injEq, Json.int.injEq,
    Json.str.injEq] at h
  obtain ⟨⟨-, rfl⟩, ⟨-, rfl⟩, ⟨-, rfl⟩, ⟨-, rfl⟩, -⟩ := h
  rfl

end Machine

namespace Automaton

variable {a b : Automaton}

/-- A machine description has the transitions of its automaton, in their order. -/
theorem map_transition_machine (a : Automaton) :
    a.machine.transitions.map (·.transition) = a.transitions := by
  rw [machine, List.map_map]
  exact List.zipIdx_map_fst 0 _

/-- **The description of a block tells what block it is.** -/
theorem Block.eq_of_toJson_eq (ha : a.Block) (hb : b.Block)
    (h : a.machine.toJson = b.machine.toJson) : a = b := by
  obtain ⟨-, -, haccepting⟩ := ha.machine_eq
  obtain ⟨-, -, haccepting'⟩ := hb.machine_eq
  simp only [Machine.toJson, Json.obj.injEq, List.cons.injEq, Prod.mk.injEq, Json.arr.injEq,
    true_and, haccepting, haccepting', List.map_cons, List.map_nil, Json.int.injEq] at h
  obtain ⟨-, -, ⟨hlast, -⟩, htransitions, -, -⟩ := h
  have hsize : a.size = b.size := by omega
  have hmachine := List.map_injective_iff.mpr Machine.transitionJson_injective htransitions
  have hts := congrArg (List.map (·.transition)) hmachine
  rw [map_transition_machine, map_transition_machine] at hts
  have hfinal : a.final = b.final := by rw [ha.final_eq, hb.final_eq, hsize]
  cases a
  cases b
  simp_all

/-- So does the text of the description. -/
theorem Block.eq_of_chars_eq (ha : a.Block) (hb : b.Block)
    (h : a.machine.toJson.chars = b.machine.toJson.chars) : a = b := by
  have hread := Json.parseWithin?_chars (ha.readable_machine
    (le_max_left _ (Nat.toDigits 10 b.size.toNat).length))
  have hread' := Json.parseWithin?_chars (hb.readable_machine
    (le_max_right (Nat.toDigits 10 a.size.toNat).length _))
  rw [h, hread'] at hread
  exact ha.eq_of_toJson_eq hb (Option.some.inj hread).symm

end Automaton

end RegexCompiler
