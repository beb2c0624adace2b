import RegexCompiler.Json.Reader

/-!
# The members of an object

An object that is read keeps one value for each key.  Its *members* are the keys and values as they
stand in the text, none dropped (`membersWithin?`); a text is read as an object just if it has
members (`parseWithin?_eq_obj_iff`), and the value of a key is that of the last member with this key
(`field?_ofFields`).
-/

namespace RegexCompiler.Json

open Text (doubleMark)

/-- The members behind an opening brace and its blanks, and what follows the closing one. -/
def members? (limit fuel : Nat) (cs : List Char) : Option (List (String × Json) × List Char) :=
  if cs.head? = some '\x7d' then some ([], cs.tail) else fields? limit fuel cs

/-- **The members of the object** that a text is, in the order of the text. -/
def membersWithin? (limit : Nat) (cs : List Char) : Option (List (String × Json)) :=
  if (skipSpace cs).head? = some '\x7b' then
    (members? limit (2 * cs.length) (skipSpace (skipSpace cs).tail)).bind fun p =>
      if (skipSpace p.2).isEmpty then some p.1 else none
  else none

/-! ## The last value of a key -/

/-- The first member with a key gives its value. -/
theorem lookup_cons_eq_ite (key other : String) (value : Json) (fields : List (String × Json)) :
    ((key, value) :: fields).lookup other =
      if other = key then some value else fields.lookup other := by
  rw [List.lookup_cons]
  by_cases h : other = key
  · rw [if_pos h, beq_iff_eq.mpr h]
  · rw [if_neg h, beq_eq_false_iff_ne.mpr h]

/-- A field that is set has the new value, and the others keep theirs. -/
theorem lookup_setField (fields : List (String × Json)) (key other : String) (value : Json) :
    (setField fields key value).lookup other =
      if other = key then some value else fields.lookup other := by
  induction fields with
  | nil => exact lookup_cons_eq_ite key other value []
  | cons f fields ih =>
      obtain ⟨k, v⟩ := f
      rw [setField]
      by_cases hk : k = key
      · rw [if_pos hk, lookup_cons_eq_ite, lookup_cons_eq_ite, hk]
        split <;> rfl
      · rw [if_neg hk, lookup_cons_eq_ite, lookup_cons_eq_ite, ih]
        by_cases h : other = k
        · rw [if_pos h, if_neg (h ▸ hk), if_pos h]
        · rw [if_neg h, if_neg h]

/-- **The last member with a key counts.** -/
theorem field?_ofFields (members : List (String × Json)) (key : String) :
    (ofFields members).field? key = members.reverse.lookup key := by
  have hfold : ∀ done : List (String × Json),
      (members.foldl (fun acc f => setField acc f.1 f.2) done).lookup key =
        (members.reverse.lookup key).or (done.lookup key) := by
    induction members with
    | nil => exact fun done => Option.none_or.symm
    | cons f members ih =>
        intro done
        rw [List.foldl_cons, ih, lookup_setField, List.reverse_cons, List.lookup_append,
          Option.or_assoc, lookup_cons_eq_ite]
        split <;> rfl
  rw [ofFields, field?, hfold []]
  exact Option.or_none

/-! ## Reading an object -/

/-- A word is no object. -/
theorem word?_ne_obj {cs rest : List Char} (fields : List (String × Json)) :
    word? cs ≠ some (.obj fields, rest) := by
  intro h
  obtain ⟨w, hw, hread⟩ := List.exists_of_findSome?_eq_some h
  obtain ⟨_, -, hobj⟩ := Option.map_eq_some_iff.mp hread
  have hvalue : w.2 = .obj fields := congrArg Prod.fst hobj
  have hwords : ∀ w ∈ words, ∀ fields, w.2 ≠ .obj fields := by simp [words]
  exact hwords w hw fields hvalue

/-- A number is no object. -/
theorem number?_ne_obj {limit : Nat} {cs rest : List Char} (fields : List (String × Json)) :
    number? limit cs ≠ some (.obj fields, rest) := by
  have hunsigned : ∀ negative cs, unsigned? limit negative cs ≠ some (.obj fields, rest) := by
    intro negative cs h
    simp only [unsigned?, Option.bind_eq_bind, Option.bind_eq_some_iff] at h
    obtain ⟨⟨digits, _⟩, -, j, hj, hobj⟩ := h
    cases hobj
    unfold ofDigits? at hj
    split at hj
    · split at hj <;> cases hj
    · cases hj
  unfold number?
  split <;> exact hunsigned _ _

/-- A value that starts with a brace is the object of its members. -/
theorem value?_brace {limit fuel : Nat} (rest : List Char) :
    value? limit (fuel + 1) ('\x7b' :: rest) =
      (members? limit fuel (skipSpace rest)).map fun p => (ofFields p.1, p.2) := by
  rw [value?, if_neg (by decide), if_neg (by decide), if_pos rfl, members?]
  split
  · next more hmore =>
    rw [hmore]
    rfl
  · next hopen =>
    rw [if_neg]
    intro hclose
    obtain ⟨more, hmore⟩ := List.head?_eq_some_iff.mp hclose
    exact hopen more hmore

/-- A text that starts with a brace is read as the object of its members. -/
theorem parseWithin?_of_brace {limit : Nat} {cs rest : List Char}
    (hcs : skipSpace cs = '\x7b' :: rest) :
    parseWithin? limit cs = (membersWithin? limit cs).map ofFields := by
  rw [parseWithin?, membersWithin?, hcs, value?_brace, List.head?_cons, if_pos rfl, List.tail_cons]
  cases members? limit (2 * cs.length) (skipSpace rest) with
  | none => rfl
  | some p => by_cases hend : (skipSpace p.2).isEmpty = true <;> simp

/-- A text that does not is read as no object. -/
theorem parseWithin?_of_no_brace {limit : Nat} {cs : List Char}
    (hcs : ∀ rest, skipSpace cs ≠ '\x7b' :: rest) (fields : List (String × Json)) :
    parseWithin? limit cs ≠ some (.obj fields) := by
  intro h
  rw [parseWithin?] at h
  obtain ⟨⟨j, rest⟩, hread, hend⟩ := Option.bind_eq_some_iff.mp h
  obtain rfl : j = .obj fields := by
    dsimp only at hend
    split at hend
    · exact Option.some.inj hend
    · cases hend
  cases hstart : skipSpace cs with
  | nil =>
      rw [hstart] at hread
      cases hread
  | cons c more =>
      have hbrace : c ≠ '\x7b' := fun hc => hcs more (hc ▸ hstart)
      -- any other start makes an array, a text, a word or a number, and none of them is an object
      rw [hstart, value?, if_neg hbrace] at hread
      split at hread
      · obtain ⟨_, -, hobj⟩ := Option.map_eq_some_iff.mp hread
        cases hobj
      split at hread
      · split at hread
        · cases hread
        · obtain ⟨_, -, hobj⟩ := Option.map_eq_some_iff.mp hread
          cases hobj
      cases hword : word? (c :: more) with
      | some p =>
          rw [hword] at hread
          exact word?_ne_obj fields (hword.trans hread)
      | none =>
          rw [hword] at hread
          exact number?_ne_obj fields hread

/-- **A text is read as an object just if it has members.** -/
theorem parseWithin?_eq_obj_iff {limit : Nat} {cs : List Char} {fields : List (String × Json)} :
    parseWithin? limit cs = some (.obj fields) ↔
      ∃ members, membersWithin? limit cs = some members ∧ ofFields members = .obj fields := by
  by_cases hcs : ∃ rest, skipSpace cs = '\x7b' :: rest
  · obtain ⟨rest, hcs⟩ := hcs
    rw [parseWithin?_of_brace hcs, Option.map_eq_some_iff]
  · rw [not_exists] at hcs
    refine iff_of_false (parseWithin?_of_no_brace hcs fields) ?_
    rintro ⟨members, hmembers, -⟩
    unfold membersWithin? at hmembers
    split at hmembers
    · next hbrace =>
      obtain ⟨rest, hrest⟩ := List.head?_eq_some_iff.mp hbrace
      exact hcs rest hrest
    · cases hmembers

end RegexCompiler.Json
