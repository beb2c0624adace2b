import RegexCompiler.Json.Basic
import RegexCompiler.Service.Text.Number

/-!
# The order of JSON values

Texts have an order, and so have numbers, of which truth values are two.  Arrays have the order of
their first items that are not the same; all other values have none, so that not every list of
values can be put in order.
-/

namespace RegexCompiler.Json

/-- The amount of a number or of a truth value, as a fraction; the denominator is zero if it is
infinite or undefined. -/
def amount? : Json → Option (Int × Nat)
  | int n => some (n, 1)
  | bool b => some (if b then 1 else 0, 1)
  | real spelling =>
    match Text.Number.ofText spelling.toList with
    | .finite isNegative b =>
      let r := b.toFraction
      some (if isNegative then -r.num else r.num, r.den)
    | .infinite isNegative => some (if isNegative then -1 else 1, 0)
    | .undefined => some (0, 0)
  | _ => none

/-- Whether two amounts are the same. -/
def isSameAmount (p q : Int × Nat) : Bool :=
  p.1 * q.2 == q.1 * p.2 && p.1.sign == q.1.sign && (p.2 == 0) == (q.2 == 0)

mutual

/-- **Sameness**: numbers are the same if their amounts are, objects if their fields are, in any
order. -/
def isSame : Json → Json → Bool
  | null, null => true
  | str s, str t => s == t
  | arr xs, arr ys => areSameItems xs ys
  | obj fs, obj gs => fs.length == gs.length && areSameFields fs gs
  | j, k =>
    match j.amount?, k.amount? with
    | some p, some q => isSameAmount p q
    | _, _ => false

/-- Whether items are the same, one by one. -/
def areSameItems : List Json → List Json → Bool
  | [], [] => true
  | x :: xs, y :: ys => isSame x y && areSameItems xs ys
  | _, _ => false

/-- Whether fields are the same as those of an object. -/
def areSameFields : List (String × Json) → List (String × Json) → Bool
  | [], _ => true
  | (key, x) :: fs, gs =>
    (match gs.lookup key with
    | some y => isSame x y
    | none => false) && areSameFields fs gs

end

mutual

/-- **Having an order**: whether one of two values comes before the other, or neither does. -/
def haveOrder : Json → Json → Bool
  | str _, str _ => true
  | arr xs, arr ys => itemsHaveOrder xs ys
  | j, k => j.amount?.isSome && k.amount?.isSome

/-- Whether the first items that are not the same have an order. -/
def itemsHaveOrder : List Json → List Json → Bool
  | x :: xs, y :: ys => if isSame x y then itemsHaveOrder xs ys else haveOrder x y
  | _, _ => true

end

/-- **Order** of a list: whether any two of its values have an order. -/
def isOrdered : List Json → Bool
  | [] => true
  | j :: rest => rest.all j.haveOrder && isOrdered rest

end RegexCompiler.Json
