import RegexCompiler.Expr.Context

/-!
# Parts of expressions

A context and an expression in its hole are an occurrence of this expression as a part.  Of two
occurrences in one expression, one may lie within the other.  If not, there is a concatenation or a
union that has the one in its first part and the other in its second part (`related_of_fill_eq`), so
one of them stands left of the other.
-/

namespace RegexCompiler.Context

/-- The context that a context becomes when another one is put into its hole. -/
def comp : Context → Context → Context
  | hole, j => j
  | star k, j => star (k.comp j)
  | concatLeft k r, j => concatLeft (k.comp j) r
  | concatRight l k, j => concatRight l (k.comp j)
  | unionLeft k r, j => unionLeft (k.comp j) r
  | unionRight l k, j => unionRight l (k.comp j)

/-- Filling the hole of a context in a context fills one after the other. -/
theorem fill_comp (k j : Context) (e : Expr) : (k.comp j).fill e = k.fill (j.fill e) := by
  induction k with
  | hole => rfl
  | star k ih => exact congrArg Expr.star ih
  | concatLeft k r ih => exact congrArg (Expr.concat · r) ih
  | concatRight l k ih => exact congrArg (Expr.concat l) ih
  | unionLeft k r ih => exact congrArg (Expr.union · r) ih
  | unionRight l k ih => exact congrArg (Expr.union l) ih

/-- It does not matter which two of three contexts are put together first. -/
theorem comp_assoc (k j i : Context) : (k.comp j).comp i = k.comp (j.comp i) := by
  induction k with
  | hole => rfl
  | star k ih => exact congrArg star ih
  | concatLeft k r ih => exact congrArg (concatLeft · r) ih
  | concatRight l k ih => exact congrArg (concatRight l) ih
  | unionLeft k r ih => exact congrArg (unionLeft · r) ih
  | unionRight l k ih => exact congrArg (unionRight l) ih

/-- A context tells what was put into its hole. -/
theorem fill_injective {k : Context} {e e' : Expr} (h : k.fill e = k.fill e') : e = e' := by
  induction k with
  | hole => exact h
  | star k ih => exact ih (Expr.star.inj h)
  | concatLeft k r ih => exact ih (Expr.concat.inj h).1
  | concatRight l k ih => exact ih (Expr.concat.inj h).2
  | unionLeft k r ih => exact ih (Expr.union.inj h).1
  | unionRight l k ih => exact ih (Expr.union.inj h).2

/-! ## Where two parts stand -/

/-- Whether what is in the hole of `k` lies within what is in the hole of `k'`. -/
def Within (k k' : Context) : Prop := ∃ j, k = k'.comp j

/-- Whether `k` leads into the first part of a concatenation or union, and `k'` into the second. -/
def LeftOf (k k' : Context) : Prop :=
  ∃ (c j j' : Context) (l r : Expr),
    (k = c.comp (concatLeft j r) ∧ k' = c.comp (concatRight l j')) ∨
    (k = c.comp (unionLeft j r) ∧ k' = c.comp (unionRight l j'))

/-- Whether one of two parts lies within the other or stands left of it. -/
def Related (k k' : Context) : Prop :=
  k.Within k' ∨ k'.Within k ∨ k.LeftOf k' ∨ k'.LeftOf k

/-- What lies within a part does so in every context. -/
theorem Within.under {k k' : Context} (h : k.Within k') (c : Context) :
    (c.comp k).Within (c.comp k') := by
  obtain ⟨j, rfl⟩ := h
  exact ⟨j, (comp_assoc c k' j).symm⟩

/-- What lies to the left does so in every context. -/
theorem LeftOf.under {k k' : Context} (h : k.LeftOf k') (c : Context) :
    (c.comp k).LeftOf (c.comp k') := by
  obtain ⟨d, j, j', l, r, ⟨rfl, rfl⟩ | ⟨rfl, rfl⟩⟩ := h
  · exact ⟨c.comp d, j, j', l, r, .inl ⟨(comp_assoc _ _ _).symm, (comp_assoc _ _ _).symm⟩⟩
  · exact ⟨c.comp d, j, j', l, r, .inr ⟨(comp_assoc _ _ _).symm, (comp_assoc _ _ _).symm⟩⟩

/-- How two places lie to each other does not depend on the context. -/
theorem Related.under {k k' : Context} (h : k.Related k') (c : Context) :
    (c.comp k).Related (c.comp k') := by
  rcases h with h | h | h | h
  · exact .inl (h.under c)
  · exact .inr (.inl (h.under c))
  · exact .inr (.inr (.inl (h.under c)))
  · exact .inr (.inr (.inr (h.under c)))

/-- Every place lies within the whole. -/
theorem within_hole (k : Context) : k.Within hole := ⟨k, rfl⟩

/-- **Two parts of one expression** are related. -/
theorem related_of_fill_eq {k k' : Context} {e e' : Expr} (h : k.fill e = k'.fill e') :
    k.Related k' := by
  -- down both contexts at once: where they part, one is left of the other
  induction k generalizing k' with
  | hole => exact .inr (.inl k'.within_hole)
  | star k ih =>
      cases k' with
      | hole => exact .inl (within_hole _)
      | star k' => exact (ih (Expr.star.inj h)).under (star hole)
      | _ => cases h
  | concatLeft k r ih =>
      cases k' with
      | hole => exact .inl (within_hole _)
      | concatLeft k' r' =>
          obtain ⟨hleft, rfl⟩ := Expr.concat.inj h
          exact (ih hleft).under (concatLeft hole r)
      | concatRight l k' => exact .inr (.inr (.inl ⟨hole, k, k', l, r, .inl ⟨rfl, rfl⟩⟩))
      | _ => cases h
  | concatRight l k ih =>
      cases k' with
      | hole => exact .inl (within_hole _)
      | concatLeft k' r => exact .inr (.inr (.inr ⟨hole, k', k, l, r, .inl ⟨rfl, rfl⟩⟩))
      | concatRight l' k' =>
          obtain ⟨rfl, hright⟩ := Expr.concat.inj h
          exact (ih hright).under (concatRight l hole)
      | _ => cases h
  | unionLeft k r ih =>
      cases k' with
      | hole => exact .inl (within_hole _)
      | unionLeft k' r' =>
          obtain ⟨hleft, rfl⟩ := Expr.union.inj h
          exact (ih hleft).under (unionLeft hole r)
      | unionRight l k' => exact .inr (.inr (.inl ⟨hole, k, k', l, r, .inr ⟨rfl, rfl⟩⟩))
      | _ => cases h
  | unionRight l k ih =>
      cases k' with
      | hole => exact .inl (within_hole _)
      | unionLeft k' r => exact .inr (.inr (.inr ⟨hole, k', k, l, r, .inr ⟨rfl, rfl⟩⟩))
      | unionRight l' k' =>
          obtain ⟨rfl, hright⟩ := Expr.union.inj h
          exact (ih hright).under (unionRight l hole)
      | _ => cases h

end RegexCompiler.Context
