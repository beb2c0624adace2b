import Mathlib.Data.Option.Basic
import RegexCompiler.Proofs.Json.Lexeme
import RegexCompiler.Proofs.Text.Lines

/-!
# JSON is read as it is written

Not every value is: a number that is not whole may be spelt like anything, of two equal keys one is
dropped, and a whole number of too many digits is refused.  A value without any of these is
`Readable`, and then reading its text gives the value back (`parseWithin?_chars`), and the text is
one line (`isLine_chars`).

The recursion of the first proof is that of the readers, on their fuel: twice the length of the text
is enough for a value, and one call more for items and fields.  Any characters that close the value
may stand behind its text.
-/

namespace RegexCompiler.Json

open Text (backslash doubleMark)

mutual

/-- **Whether a value is read as it is written**, within a limit for the digits of its numbers. -/
def Readable (limit : Nat) : Json → Prop
  | null | bool _ | str _ => True
  | int n => (Nat.toDigits 10 n.natAbs).length ≤ limit
  | real _ => False
  | arr items => AreReadable limit items
  | obj fields => (fields.map Prod.fst).Nodup ∧ FieldsReadable limit fields

/-- Whether all items are. -/
def AreReadable (limit : Nat) : List Json → Prop
  | [] => True
  | j :: rest => j.Readable limit ∧ AreReadable limit rest

/-- Whether the values of all fields are. -/
def FieldsReadable (limit : Nat) : List (String × Json) → Prop
  | [] => True
  | (_, j) :: rest => j.Readable limit ∧ FieldsReadable limit rest

end

/-- Items are readable if each one is. -/
theorem areReadable_iff {limit : Nat} {items : List Json} :
    AreReadable limit items ↔ ∀ j ∈ items, j.Readable limit := by
  induction items with
  | nil => simp [AreReadable]
  | cons j items ih => rw [AreReadable, ih, List.forall_mem_cons]

/-! ## Keys -/

/-- A field with a new key comes last. -/
theorem setField_of_not_mem {fields : List (String × Json)} {key : String}
    (hkey : key ∉ fields.map Prod.fst) (value : Json) :
    setField fields key value = fields ++ [(key, value)] := by
  induction fields with
  | nil => rfl
  | cons f fields ih =>
      rw [List.map_cons, List.mem_cons, not_or] at hkey
      rw [setField, if_neg (Ne.symm hkey.1), ih hkey.2, List.cons_append]

/-- Fields whose keys are apart stay as they are. -/
theorem ofFields_of_nodup {fields : List (String × Json)}
    (hkeys : (fields.map Prod.fst).Nodup) : ofFields fields = .obj fields := by
  have hfold : ∀ done : List (String × Json), ((done ++ fields).map Prod.fst).Nodup →
      fields.foldl (fun acc f => setField acc f.1 f.2) done = done ++ fields := by
    clear hkeys
    induction fields with
    | nil => simp
    | cons f fields ih =>
        intro done hnodup
        have hnew : f.1 ∉ done.map Prod.fst := by
          rw [List.map_append, List.nodup_append] at hnodup
          intro hold
          exact hnodup.2.2 f.1 hold f.1 List.mem_cons_self rfl
        have hdone : done ++ f :: fields = done ++ [f] ++ fields := List.append_cons ..
        rw [hdone] at hnodup ⊢
        rw [List.foldl_cons, setField_of_not_mem hnew, ih _ hnodup]
  rw [ofFields, hfold [] hkeys, List.nil_append]

/-! ## How a value is written -/

/-- What follows a written text follows its closing mark. -/
theorem writeString_append (s : String) (rest : List Char) :
    writeString s ++ rest = doubleMark :: (s.toList.flatMap escapeChar ++ doubleMark :: rest) := by
  simp [writeString]

/-- What follows an array follows its closing bracket. -/
theorem chars_arr_append (items : List Json) (rest : List Char) :
    (arr items).chars ++ rest = '[' :: (charsOfItems items ++ ']' :: rest) := by
  simp [chars]

/-- What follows an object follows its closing brace. -/
theorem chars_obj_append (fields : List (String × Json)) (rest : List Char) :
    (obj fields).chars ++ rest = '\x7b' :: (charsOfFields fields ++ '\x7d' :: rest) := by
  simp [chars]

/-- Between two items stand a comma and a space. -/
theorem charsOfItems_cons_cons (j k : Json) (items : List Json) :
    charsOfItems (j :: k :: items) = j.chars ++ ',' :: ' ' :: charsOfItems (k :: items) := rfl

/-- Between two fields stand a comma and a space. -/
theorem charsOfFields_cons_cons (key : String) (j : Json) (f : String × Json)
    (fields : List (String × Json)) :
    charsOfFields ((key, j) :: f :: fields) =
      writeString key ++ ':' :: ' ' :: (j.chars ++ ',' :: ' ' :: charsOfFields (f :: fields)) := by
  rw [charsOfFields]
  · simp
  · nofun

/-! ## How a value starts -/

/-- A text that starts a value: no blank stands in front of it, and it ends no array. -/
def Starts (cs : List Char) : Prop := ∃ c rest, cs = c :: rest ∧ isSpace c = false ∧ c ≠ ']'

/-- How a text starts does not depend on what follows. -/
theorem Starts.append {cs : List Char} (h : Starts cs) (more : List Char) :
    Starts (cs ++ more) := by
  obtain ⟨c, rest, rfl, hspace, hc⟩ := h
  exact ⟨c, rest ++ more, rfl, hspace, hc⟩

/-- There is no blank to skip where a value starts. -/
theorem Starts.skipSpace_eq {cs : List Char} (h : Starts cs) : skipSpace cs = cs := by
  obtain ⟨c, rest, rfl, hspace, -⟩ := h
  simp [skipSpace, hspace]

/-- A value that is written starts as a value. -/
theorem starts_chars {limit : Nat} {j : Json} (hj : j.Readable limit) : Starts j.chars := by
  cases j with
  | null => exact ⟨'n', _, rfl, rfl, by decide⟩
  | bool b => cases b <;> exact ⟨_, _, rfl, rfl, by decide⟩
  | int n =>
      obtain ⟨c, cs, hdigit, hcs⟩ := Text.decimal_eq_cons n
      rw [chars]
      rcases hcs with hcs | hcs
      · refine ⟨c, cs, hcs, ?_, ?_⟩
        · simp only [isSpace, Bool.or_eq_false_iff, beq_eq_false_iff_ne]
          refine ⟨⟨⟨?_, ?_⟩, ?_⟩, ?_⟩ <;> (rintro rfl; cases hdigit)
        · rintro rfl
          cases hdigit
      · exact ⟨'-', c :: cs, hcs, rfl, by decide⟩
  | real spelling => exact hj.elim
  | str s => exact ⟨doubleMark, _, rfl, rfl, by decide⟩
  | arr items => exact ⟨'[', _, rfl, rfl, by decide⟩
  | obj fields => exact ⟨'\x7b', _, rfl, rfl, by decide⟩

/-- So does the first of some items. -/
theorem starts_charsOfItems {limit : Nat} {j : Json} (hj : j.Readable limit) (items : List Json) :
    Starts (charsOfItems (j :: items)) := by
  cases items with
  | nil => exact starts_chars hj
  | cons k items => exact (starts_chars hj).append _

/-- Fields start with the mark of their first key. -/
theorem starts_charsOfFields (f : String × Json) (fields : List (String × Json)) :
    ∃ cs, charsOfFields (f :: fields) = doubleMark :: cs := by
  cases fields with
  | nil => exact ⟨_, rfl⟩
  | cons g fields => exact ⟨_, rfl⟩

/-! ## What the readers do -/

variable {limit fuel : Nat} {cs rest : List Char}

/-- A text that is written is read. -/
theorem value?_str (s : String) :
    value? limit (fuel + 1) (writeString s ++ rest) = some (.str s, rest) := by
  rw [writeString_append, value?, if_pos rfl, string?_writeString]
  rfl

/-- A whole number is read, if the limit allows its digits. -/
theorem value?_int {n : Int} (hn : (Nat.toDigits 10 n.natAbs).length ≤ limit)
    (hrest : Closes rest) :
    value? limit (fuel + 1) (Text.decimal n ++ rest) = some (.int n, rest) := by
  have hword := word?_decimal n rest
  have hread := number?_decimal hn hrest
  obtain ⟨c, cs, hdigit, hcs⟩ := Text.decimal_eq_cons n
  have hsigns : c ≠ doubleMark ∧ c ≠ '[' ∧ c ≠ '\x7b' := by
    refine ⟨?_, ?_, ?_⟩ <;> (rintro rfl; cases hdigit)
  rcases hcs with hcs | hcs
  · rw [hcs, List.cons_append] at hword hread ⊢
    rw [value?, if_neg hsigns.1, if_neg hsigns.2.1, if_neg hsigns.2.2, hword, hread]
    rfl
  · rw [hcs, List.cons_append] at hword hread ⊢
    rw [value?, if_neg (by decide), if_neg (by decide), if_neg (by decide), hword, hread]
    rfl

/-- A value that starts with a bracket and an item is the array of its items. -/
theorem value?_items (hcs : Starts cs) :
    value? limit (fuel + 1) ('[' :: cs) = (items? limit fuel cs).map fun p => (.arr p.1, p.2) := by
  rw [value?, if_neg (by decide), if_pos rfl, hcs.skipSpace_eq]
  obtain ⟨c, rest, rfl, -, hc⟩ := hcs
  split
  · next heq => exact absurd (List.cons.inj heq).1 hc
  · rfl

-- a field starts with its key, so no blank has to be skipped behind the brace
/-- A value that starts with a brace and a key is the object of its fields. -/
theorem value?_fields :
    value? limit (fuel + 1) ('\x7b' :: doubleMark :: cs) =
      (fields? limit fuel (doubleMark :: cs)).map fun p => (ofFields p.1, p.2) := by
  rw [value?, if_neg (by decide), if_neg (by decide), if_pos rfl]
  rfl

/-- The last item stands before the bracket. -/
theorem items?_last {j : Json} (hj : value? limit fuel cs = some (j, ']' :: rest)) :
    items? limit (fuel + 1) cs = some ([j], rest) := by
  rw [items?, hj]
  rfl

/-- Another item stands behind a comma. -/
theorem items?_more {j : Json} (hj : value? limit fuel cs = some (j, ',' :: ' ' :: rest))
    (hrest : Starts rest) :
    items? limit (fuel + 1) cs = (items? limit fuel rest).map fun p => (j :: p.1, p.2) := by
  have hspace : skipSpace (' ' :: rest) = rest := hrest.skipSpace_eq
  rw [items?, hj]
  show (items? limit fuel (skipSpace (' ' :: rest))).map _ = _
  rw [hspace]

/-- A field whose key and colon are written. -/
theorem fields?_field {key : String} (hcs : Starts cs) :
    fields? limit (fuel + 1) (writeString key ++ ':' :: ' ' :: cs) =
      (value? limit fuel cs).bind fun p =>
        match skipSpace p.2 with
        | ',' :: rest =>
          (fields? limit fuel (skipSpace rest)).map fun q => ((key, p.1) :: q.1, q.2)
        | '\x7d' :: rest => some ([(key, p.1)], rest)
        | _ => none := by
  have hspace : skipSpace (' ' :: cs) = cs := hcs.skipSpace_eq
  rw [writeString_append, fields?, string?_writeString]
  show (value? limit fuel (skipSpace (' ' :: cs)) >>= _) = _
  rw [hspace]
  rfl

/-- The last field stands before the brace. -/
theorem fields?_last {key : String} {j : Json} (hcs : Starts cs)
    (hj : value? limit fuel cs = some (j, '\x7d' :: rest)) :
    fields? limit (fuel + 1) (writeString key ++ ':' :: ' ' :: cs) =
      some ([(key, j)], rest) := by
  rw [fields?_field hcs, hj]
  rfl

/-- Another field stands behind a comma. -/
theorem fields?_more {key : String} {j : Json} (hcs : Starts cs)
    (hj : value? limit fuel cs = some (j, ',' :: ' ' :: doubleMark :: rest)) :
    fields? limit (fuel + 1) (writeString key ++ ':' :: ' ' :: cs) =
      (fields? limit fuel (doubleMark :: rest)).map fun p => ((key, j) :: p.1, p.2) := by
  rw [fields?_field hcs, hj]
  rfl

/-! ## Values -/

mutual

/-- **A readable value is read as it is written.** -/
theorem value?_chars (j : Json) (hj : j.Readable limit) (fuel : Nat)
    (hfuel : 2 * j.chars.length ≤ fuel) (rest : List Char) (hrest : Closes rest) :
    value? limit fuel (j.chars ++ rest) = some (j, rest) := by
  -- every level of the value uses up fuel, and its two brackets pay for that
  match fuel, j with
  | 0, j =>
      obtain ⟨c, cs, hcs, -⟩ := starts_chars hj
      rw [hcs, List.length_cons] at hfuel
      omega
  | _ + 1, null => rfl
  | _ + 1, bool true => rfl
  | _ + 1, bool false => rfl
  | _ + 1, int n => exact value?_int hj hrest
  | _ + 1, real _ => exact hj.elim
  | _ + 1, str s => exact value?_str s
  | _ + 1, arr [] => rfl
  | fuel + 1, arr (j :: items) =>
      rw [chars, List.length_append, List.length_cons, List.length_singleton] at hfuel
      have hitems := items?_charsOfItems j items hj fuel (by omega) rest
      have hstarts := (starts_charsOfItems hj.1 items).append (']' :: rest)
      rw [chars_arr_append, value?_items hstarts, hitems]
      rfl
  | _ + 1, obj [] => rfl
  | fuel + 1, obj ((key, j) :: fields) =>
      rw [chars, List.length_append, List.length_cons, List.length_singleton] at hfuel
      have hfields := fields?_charsOfFields key j fields hj.2 fuel (by omega) rest
      obtain ⟨cs, hcs⟩ := starts_charsOfFields (key, j) fields
      rw [hcs, List.cons_append] at hfields
      rw [chars_obj_append, hcs, List.cons_append, value?_fields, hfields, Option.map_some,
        ofFields_of_nodup hj.1]

/-- The items of an array are. -/
theorem items?_charsOfItems (j : Json) (items : List Json)
    (hitems : AreReadable limit (j :: items)) (fuel : Nat)
    (hfuel : 2 * (charsOfItems (j :: items)).length + 1 ≤ fuel) (rest : List Char) :
    items? limit fuel (charsOfItems (j :: items) ++ ']' :: rest) = some (j :: items, rest) := by
  match fuel, items with
  | 0, _ => omega
  | fuel + 1, [] =>
      rw [charsOfItems] at hfuel ⊢
      exact items?_last (value?_chars j hitems.1 fuel (by omega) _ (.cons (by decide)))
  | fuel + 1, k :: items =>
      rw [charsOfItems_cons_cons, List.length_append, List.length_cons, List.length_cons] at hfuel
      have hj := value?_chars j hitems.1 fuel (by omega)
        (',' :: ' ' :: (charsOfItems (k :: items) ++ ']' :: rest)) (.cons (by decide))
      have hmore := items?_charsOfItems k items hitems.2 fuel (by omega) rest
      have hstarts := (starts_charsOfItems hitems.2.1 items).append (']' :: rest)
      rw [charsOfItems_cons_cons, List.append_assoc, List.cons_append, List.cons_append,
        items?_more hj hstarts, hmore]
      rfl

/-- The fields of an object are. -/
theorem fields?_charsOfFields (key : String) (j : Json) (fields : List (String × Json))
    (hfields : FieldsReadable limit ((key, j) :: fields)) (fuel : Nat)
    (hfuel : 2 * (charsOfFields ((key, j) :: fields)).length + 1 ≤ fuel) (rest : List Char) :
    fields? limit fuel (charsOfFields ((key, j) :: fields) ++ '\x7d' :: rest) =
      some ((key, j) :: fields, rest) := by
  have hstarts := starts_chars hfields.1
  match fuel, fields with
  | 0, _ => omega
  | fuel + 1, [] =>
      rw [charsOfFields, List.length_append, List.length_cons, List.length_cons] at hfuel
      rw [charsOfFields, List.append_assoc, List.cons_append, List.cons_append]
      exact fields?_last (hstarts.append _)
        (value?_chars j hfields.1 fuel (by omega) _ (.cons (by decide)))
  | fuel + 1, (key', k) :: fields =>
      obtain ⟨cs, hcs⟩ := starts_charsOfFields (key', k) fields
      rw [charsOfFields_cons_cons] at hfuel
      simp only [List.length_append, List.length_cons] at hfuel
      have hmore := fields?_charsOfFields key' k fields hfields.2 fuel (by omega) rest
      rw [hcs, List.cons_append] at hmore
      have hj := value?_chars j hfields.1 fuel (by omega)
        (',' :: ' ' :: doubleMark :: (cs ++ '\x7d' :: rest)) (.cons (by decide))
      rw [charsOfFields_cons_cons, hcs]
      simp only [List.append_assoc, List.cons_append]
      rw [fields?_more (hstarts.append _) hj, hmore]
      rfl

end

/-- **A text that is written is read** as the value that it was written of. -/
theorem parseWithin?_chars {j : Json} (hj : j.Readable limit) :
    parseWithin? limit j.chars = some j := by
  have hread := value?_chars j hj (2 * j.chars.length + 1) (Nat.le_succ _) [] .nil
  rw [List.append_nil] at hread
  rw [parseWithin?, (starts_chars hj).skipSpace_eq, hread]
  rfl

/-! ## Lines -/

open Text (IsLine)

/-- No character of a text is written with a line end. -/
theorem isLine_escapeChar (c : Char) : IsLine (escapeChar c) := by
  unfold escapeChar
  split
  · next hself =>
    refine .cons (by decide) (List.forall_mem_singleton.mpr ?_)
    rcases hself with rfl | rfl <;> decide
  split
  · decide
  split
  · decide
  split
  · decide
  split
  · decide
  split
  · decide
  split
  · next hfeed hreturn _ _ _ _ => exact List.forall_mem_singleton.mpr ⟨hfeed, hreturn⟩
  · intro d hd
    obtain ⟨n, -, hn⟩ := List.mem_flatMap.mp hd
    have hunit : IsLine (backslash :: 'u' :: Text.hex 4 n) :=
      .cons (by decide) (.cons (by decide) (Text.isShown_hex 4 n).isLine)
    exact hunit d hn

/-- A text is written in one line. -/
theorem isLine_writeString (s : String) : IsLine (writeString s) := by
  rw [writeString]
  refine (IsLine.cons (by decide) ?_).append (by decide)
  intro c hc
  obtain ⟨d, -, hd⟩ := List.mem_flatMap.mp hc
  exact isLine_escapeChar d c hd

mutual

/-- **A readable value is written in one line.** -/
theorem isLine_chars (j : Json) (hj : j.Readable limit) : IsLine j.chars := by
  match j with
  | null => decide +kernel
  | bool true => decide +kernel
  | bool false => decide +kernel
  | int n => exact (Text.isShown_decimal n).isLine
  | real _ => exact hj.elim
  | str s => exact isLine_writeString s
  | arr items => exact (IsLine.cons (by decide) (isLine_charsOfItems items hj)).append (by decide)
  | obj fields =>
      exact (IsLine.cons (by decide) (isLine_charsOfFields fields hj.2)).append (by decide)

/-- So are items. -/
theorem isLine_charsOfItems (items : List Json) (hitems : AreReadable limit items) :
    IsLine (charsOfItems items) := by
  match items with
  | [] => decide
  | [j] => exact isLine_chars j hitems.1
  | j :: k :: items =>
      rw [charsOfItems_cons_cons]
      have hmore := isLine_charsOfItems (k :: items) hitems.2
      exact (isLine_chars j hitems.1).append (.cons (by decide) (.cons (by decide) hmore))

/-- So are fields. -/
theorem isLine_charsOfFields (fields : List (String × Json))
    (hfields : FieldsReadable limit fields) : IsLine (charsOfFields fields) := by
  match fields with
  | [] => decide
  | [(key, j)] =>
      have hj := isLine_chars j hfields.1
      exact (isLine_writeString key).append (.cons (by decide) (.cons (by decide) hj))
  | (key, j) :: f :: fields =>
      rw [charsOfFields_cons_cons]
      have hmore := isLine_charsOfFields (f :: fields) hfields.2
      refine (isLine_writeString key).append (.cons (by decide) (.cons (by decide) ?_))
      exact (isLine_chars j hfields.1).append (.cons (by decide) (.cons (by decide) hmore))

end

end RegexCompiler.Json
