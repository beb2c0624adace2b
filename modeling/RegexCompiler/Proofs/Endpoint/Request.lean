import RegexCompiler.Endpoint
import RegexCompiler.Proofs.Compile.Basic
import RegexCompiler.Proofs.Json.Members
import RegexCompiler.Proofs.Text.Blank

/-!
# What a request asks for

A request *sends* members if its media type is one of JSON and its body is an object with these
members.  It *offers* a text if the last member `regex` that it sends is this text, and it *asks*
for a text of the grammar if it offers this text with blanks around it.

All of this is said of the request as it is sent.  The endpoint sees the document only, and how the
two hang together is the promise of the framework (`Framework.Reads`): an object keeps the last
value for each key, and without an object there is some other document.  It is the only thing that
is assumed of a framework here.
-/

namespace RegexCompiler.Endpoint

open Text (AreBlank)

/-- **A media type of JSON**: `application/json`, or `application/` and `+json` with anything
between them. -/
def IsJson (type : String) : Prop :=
  type = "application/json" ∨ ∃ base, type = "application/" ++ base ++ "+json"

namespace Framework

variable {Request : Type}

/-- **The members that a request sends.** -/
def Sends (framework : Framework Request) (r : Request) (members : List (String × Json)) : Prop :=
  ∃ type, framework.mediaType? r = some type ∧ IsJson type ∧ framework.members? r = some members

/-- **What a framework promises of a request**: it reads the document and does not break down. -/
structure Reads (framework : Framework Request) (r : Request) : Prop where
  /-- The members that are sent become an object, which keeps the last value for each key. -/
  object : ∀ members, framework.Sends r members →
    framework.document? r = some (Json.ofFields members)
  /-- If none are sent, the document is no object. -/
  other : (¬ ∃ members, framework.Sends r members) →
    ∃ document, framework.document? r = some document ∧ ∀ fields, document ≠ .obj fields

/-- **The text that a request offers.** -/
def Offers (framework : Framework Request) (r : Request) (text : String) : Prop :=
  ∃ members, framework.Sends r members ∧ members.reverse.lookup "regex" = some (.str text)

/-- **The text of the grammar that a request asks for.** -/
def Asks (framework : Framework Request) (r : Request) (cs : List Char) : Prop :=
  ∃ ws vs, AreBlank ws ∧ AreBlank vs ∧ framework.Offers r (String.ofList (ws ++ cs ++ vs)) ∧
    ∃ e, Derives .union cs e

variable {framework : Framework Request} {r : Request}

/-- A request sends one list of members at most. -/
theorem Sends.unique {members members' : List (String × Json)} (h : framework.Sends r members)
    (h' : framework.Sends r members') : members = members' := by
  obtain ⟨_, -, -, hmembers⟩ := h
  obtain ⟨_, -, -, hmembers'⟩ := h'
  exact Option.some.inj (hmembers.symm.trans hmembers')

/-- A request offers one text at most. -/
theorem Offers.unique {text text' : String} (h : framework.Offers r text)
    (h' : framework.Offers r text') : text = text' := by
  obtain ⟨members, hsends, hlookup⟩ := h
  obtain ⟨members', hsends', hlookup'⟩ := h'
  obtain rfl := hsends.unique hsends'
  exact Json.str.inj (Option.some.inj (hlookup.symm.trans hlookup'))

/-- **What is offered is the field of the document**, where the framework keeps its promise. -/
theorem Reads.exists_document (hreads : framework.Reads r) :
    ∃ document, framework.document? r = some document ∧
      ∀ text, framework.Offers r text ↔ document.field? "regex" = some (.str text) := by
  by_cases hsends : ∃ members, framework.Sends r members
  · obtain ⟨members, hmembers⟩ := hsends
    refine ⟨_, hreads.object members hmembers, ?_⟩
    intro text
    rw [Json.field?_ofFields]
    constructor
    · rintro ⟨members', hmembers', hlookup⟩
      rwa [hmembers.unique hmembers']
    · exact fun hlookup => ⟨members, hmembers, hlookup⟩
  · obtain ⟨document, hdocument, hother⟩ := hreads.other hsends
    refine ⟨document, hdocument, ?_⟩
    intro text
    constructor
    · rintro ⟨members, hmembers, -⟩
      exact absurd ⟨members, hmembers⟩ hsends
    · intro hfield
      cases document with
      | obj fields => exact absurd rfl (hother fields)
      | _ => cases hfield

/-- What is asked for is what trimming leaves of what is offered. -/
theorem Asks.trim {cs : List Char} (h : framework.Asks r cs) :
    ∃ text, framework.Offers r text ∧ Text.trim text.toList = cs := by
  obtain ⟨ws, vs, hws, hvs, hoffers, e, he⟩ := h
  refine ⟨_, hoffers, ?_⟩
  rw [String.toList_ofList, Text.trim_append hws hvs, Text.trim_of_not_isForeign he.written.2]

/-- A request asks for one text at most, however many blanks stand around it. -/
theorem Asks.unique {cs cs' : List Char} (h : framework.Asks r cs) (h' : framework.Asks r cs') :
    cs = cs' := by
  obtain ⟨text, hoffers, rfl⟩ := h.trim
  obtain ⟨text', hoffers', rfl⟩ := h'.trim
  rw [hoffers.unique hoffers']

/-- A request asks for what trimming leaves, if the grammar derives it. -/
theorem Offers.asks {text : String} {e : Expr} (h : framework.Offers r text)
    (he : Derives .union (Text.trim text.toList) e) :
    framework.Asks r (Text.trim text.toList) := by
  obtain ⟨ws, vs, hws, hvs, htext⟩ := Text.exists_blanks text.toList
  refine ⟨ws, vs, hws, hvs, ?_, e, he⟩
  rw [← htext, String.ofList_toList]
  exact h

end Framework

end RegexCompiler.Endpoint
