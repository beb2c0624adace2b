import RegexCompiler.Json.Basic
import RegexCompiler.Service.Text.Number
import RegexCompiler.Text.Quoted

/-!
# JSON values as settings

What a value counts for where a setting is read: its truth, its items, its nesting and its
description.  The description of a text is the text itself; inside an array or an object a text is
quoted, and the words are `None`, `True` and `False`.
-/

namespace RegexCompiler.Json

/-- **Truth.**  Null, false, zero and whatever is empty count as false. -/
def isTrue : Json → Bool
  | null => false
  | bool b => b
  | int n => n ≠ 0
  | real spelling => !(Text.Number.ofText spelling.toList).isZero
  | str s => !s.isEmpty
  | arr items => !items.isEmpty
  | obj fields => !fields.isEmpty

/-- **Items.**  Those of an array, the keys of an object, and any other value itself. -/
def toItems : Json → List Json
  | arr items => items
  | obj fields => fields.map fun f => .str f.1
  | j => [j]

mutual

/-- **Nesting**: how many arrays and objects stand one inside the other. -/
def depth : Json → Nat
  | arr items => depthOfItems items + 1
  | obj fields => depthOfFields fields + 1
  | _ => 0

/-- The nesting of the deepest item. -/
def depthOfItems : List Json → Nat
  | [] => 0
  | j :: rest => max j.depth (depthOfItems rest)

/-- The nesting of the deepest field. -/
def depthOfFields : List (String × Json) → Nat
  | [] => 0
  | (_, j) :: rest => max j.depth (depthOfFields rest)

end

mutual

/-- A value inside another one. -/
def inner : Json → List Char
  | null => "None".toList
  | bool true => "True".toList
  | bool false => "False".toList
  | int n => Text.decimal n
  | real spelling => (Text.Number.ofText spelling.toList).toText
  | str s => Text.quoteChars s.toList
  | arr items => '[' :: innerItems items ++ [']']
  | obj fields => '\x7b' :: innerFields fields ++ ['\x7d']

/-- Items, separated by commas. -/
def innerItems : List Json → List Char
  | [] => []
  | [j] => j.inner
  | j :: rest => j.inner ++ ',' :: ' ' :: innerItems rest

/-- Fields, separated by commas. -/
def innerFields : List (String × Json) → List Char
  | [] => []
  | [(k, j)] => Text.quoteChars k.toList ++ ':' :: ' ' :: j.inner
  | (k, j) :: rest =>
    Text.quoteChars k.toList ++ ':' :: ' ' :: j.inner ++ ',' :: ' ' :: innerFields rest

end

/-- **The description** of a value. -/
def describe : Json → List Char
  | str s => s.toList
  | j => j.inner

end RegexCompiler.Json
