/-!
# JSON values

A value is null, a truth value, a number, a text, an array or an object.  Whole numbers are
exact; a number with a fraction or an exponent, and the three special numbers, are kept as they
were written.  An object keeps its keys in the order in which they came first, each key once.
-/

namespace RegexCompiler

/-- **JSON values.** -/
inductive Json where
  /-- The value `null`. -/
  | null
  /-- A truth value. -/
  | bool (b : Bool)
  /-- A whole number. -/
  | int (n : Int)
  /-- Any other number, by its spelling. -/
  | real (spelling : String)
  /-- A text. -/
  | str (s : String)
  /-- An array. -/
  | arr (items : List Json)
  /-- An object. -/
  | obj (fields : List (String × Json))
  deriving Repr, Inhabited

namespace Json

/-- A whole number, or null where there is none. -/
def ofInt? : Option Int → Json
  | some n => .int n
  | none => .null

/-- The fields with `key` set to `value`: the last value counts, at the first place. -/
def setField (fields : List (String × Json)) (key : String) (value : Json) :
    List (String × Json) :=
  match fields with
  | [] => [(key, value)]
  | (k, v) :: rest => if k = key then (key, value) :: rest else (k, v) :: setField rest key value

/-- The object with the given fields, of which a later one replaces an earlier one. -/
def ofFields (fields : List (String × Json)) : Json :=
  .obj (fields.foldl (fun acc f => setField acc f.1 f.2) [])

/-- The value of a field, if `j` is an object that has it. -/
def field? (j : Json) (key : String) : Option Json :=
  match j with
  | .obj fields => fields.lookup key
  | _ => none

/-- The text of a value, if it is one. -/
def text? : Json → Option String
  | str s => some s
  | _ => none

/-- Only a text has a text. -/
theorem text?_eq_some_iff {j : Json} {s : String} : j.text? = some s ↔ j = .str s := by
  cases j <;> simp [text?]

end Json

end RegexCompiler
