import RegexCompiler.Proofs.Automaton.Machine
import RegexCompiler.Proofs.Service.Reading

/-!
# What the endpoint decides

The reply is 200 to a request that asks for a text of the grammar, and shows the automaton of that
text (`Shows`); it is 400 to every other request, and tells what is to blame (`Blame`).  There is no
third reply where the framework keeps its promise: a compilation always ends with an automaton or a
refusal.
-/

namespace RegexCompiler.Endpoint

/-! ## What is replied to a document -/

/-- Whether a line renders a transition of a machine description. -/
def Renders (transition line : Json) : Prop :=
  ∃ source symbol target, transition.field? "from" = some (.int source) ∧
    transition.field? "symbol" = some (.str symbol) ∧
    transition.field? "to" = some (.int target) ∧
    line = .str ("(" ++ Text.ofInt source ++ ", " ++ symbol ++ ", " ++ Text.ofInt target ++ ")")

/-- **What a body shows** of a text that is compiled to `a`. -/
structure Shows (body : Json) (regex : String) (a : Automaton) : Prop where
  /-- The automaton is that of the text. -/
  compiled : compile regex = .ok a
  /-- The body says that the text is compiled. -/
  success : body.field? "success" = some (.bool true)
  /-- It repeats the text. -/
  regex_eq : body.field? "regex" = some (.str regex)
  /-- It describes the automaton. -/
  nfa : body.field? "nfa" = some a.machine.toJson
  /-- The states are numbered from zero on. -/
  states : a.machine.toJson.field? "states" =
    some (.arr ((List.range a.size.toNat).map fun i : Nat => .int i))
  /-- The first one is the start. -/
  start : a.machine.toJson.field? "start" = some (.int 0)
  /-- The last one accepts. -/
  accepting : a.machine.toJson.field? "accepting" = some (.arr [.int (a.size - 1)])
  /-- Each transition is rendered by the line at its place. -/
  display : ∃ transitions lines, a.machine.toJson.field? "transitions" = some (.arr transitions) ∧
    body.field? "display" = some (.arr lines) ∧ transitions.length = lines.length ∧
    ∀ (i : Nat) t line, transitions[i]? = some t → lines[i]? = some line → Renders t line

/-- The lines of a listing render the transitions of a machine description. -/
theorem renders_display {a : Automaton} {i : Nat} {t line : Json}
    (ht : (a.machine.transitions.map Machine.transitionJson)[i]? = some t)
    (hline : (a.display.map Json.str)[i]? = some line) : Renders t line := by
  simp only [Automaton.machine, Automaton.display, List.map_map, List.getElem?_map,
    List.getElem?_zipIdx, Option.map_eq_some_iff] at ht hline
  obtain ⟨_, ⟨transition, htransition, rfl⟩, rfl⟩ := ht
  obtain ⟨_, hsame, rfl⟩ := hline
  obtain rfl := Option.some.inj (htransition.symm.trans hsame)
  exact ⟨_, _, _, rfl, rfl, rfl, rfl⟩

/-- The body of an acceptance shows the automaton of its text. -/
theorem shows_acceptance {regex : String} {a : Automaton} (hcompile : compile regex = .ok a)
    (ha : a.Block) : Shows (acceptance regex a) regex a := by
  obtain ⟨hstates, hstart, haccepting⟩ := ha.machine_eq
  refine ⟨hcompile, rfl, rfl, rfl, ?_, ?_, ?_, _, _, rfl, rfl, ?_, ?_⟩
  · show some (Json.arr (a.machine.states.map .int)) = _
    rw [hstates, List.map_map]
    rfl
  · show some (Json.ofInt? a.machine.start) = _
    rw [hstart]
    rfl
  · show some (Json.arr (a.machine.accepting.map .int)) = _
    rw [haccepting]
    rfl
  · simp [Automaton.machine, Automaton.display]
  · intro i t line
    exact renders_display

/-- A text that compiles, without the blanks at its ends, is accepted. -/
theorem compileText_of_compile_eq_ok {text : String} {a : Automaton}
    (h : compile (String.ofList (Text.trim text.toList)) = .ok a) :
    compileText text =
      { status := 200, body := some (acceptance (String.ofList (Text.trim text.toList)) a) } := by
  rw [compileText, Compilation.ofText_of_compile_eq_ok h]

/-- A text that does not is refused, for the same error. -/
theorem compileText_of_compile_eq_error {text : String} {error : RegexError}
    (h : compile (String.ofList (Text.trim text.toList)) = .error (.refused error)) :
    compileText text = { status := 400, body := some (refusal error.text error.kind) } := by
  rw [compileText, Compilation.ofText_of_compile_eq_error h]

/-- A field that is a text is compiled. -/
theorem compileDocument_of_field {document : Json} {text : String}
    (h : document.field? "regex" = some (.str text)) :
    compileDocument document = compileText text := by
  rw [compileDocument, regexField?, h]

/-- A document without such a field is refused: a field that is missing counts as an empty text, and
any other value is no text. -/
theorem compileDocument_of_no_field {document : Json}
    (h : ∀ text, document.field? "regex" ≠ some (.str text)) :
    ∃ error, compileDocument document =
      { status := 400, body := some (refusal error .invalidInput) } := by
  cases hfield : document.field? "regex" with
  | none =>
      refine ⟨RegexError.emptyText.text, ?_⟩
      have hempty : compile (String.ofList (Text.trim "".toList)) = .error (.refused .emptyText) :=
        rfl
      simp only [compileDocument, regexField?, hfield]
      exact compileText_of_compile_eq_error hempty
  | some value =>
      cases value with
      | str text => exact absurd hfield (h text)
      | _ =>
          refine ⟨"regex must be a string", ?_⟩
          rw [compileDocument, regexField?, hfield]

/-! ## What is replied to a request -/

section

variable {Request : Type} {framework : Framework Request} {r : Request}

/-- **What is to blame** that a request asks for no text of the grammar. -/
inductive Blame (framework : Framework Request) (r : Request) : Kind → Prop where
  /-- It offers no text. -/
  | unusable : (¬ ∃ text, framework.Offers r text) → Blame framework r .invalidInput
  /-- The text is empty, or a character of it is foreign. -/
  | unwritten {text : String} : framework.Offers r text →
      Text.trim text.toList = [] ∨ (∃ c ∈ Text.trim text.toList, Alphabet.isForeign c = true) →
      Blame framework r .invalidInput
  /-- The text is written well, but the scan refuses it for its structure. -/
  | unreadable {text : String} {error : RegexError} : framework.Offers r text →
      Text.trim text.toList ≠ [] →
      (∀ c ∈ Text.trim text.toList, Alphabet.isForeign c = false) →
      Expr.parse (Text.trim text.toList) = .error (.refused error) →
      error.kind = .unbalancedParentheses ∨ error.kind = .stackImbalance →
      Blame framework r error.kind

/-- Where a text is offered that is not of the grammar, its characters are to blame or else its
structure, as the error says. -/
theorem Blame.of_offers {text : String} (h : framework.Offers r text) {error : RegexError}
    (herror : compile (String.ofList (Text.trim text.toList)) = .error (.refused error)) :
    Blame framework r error.kind := by
  have hcause := cause_of_compile_eq_error herror
  rw [String.toList_ofList] at hcause
  rcases hcause with ⟨hwritten, hkind⟩ | ⟨⟨hne, hwritten⟩, hparse, hkind⟩
  · rw [hkind]
    refine .unwritten h ?_
    by_cases hnil : Text.trim text.toList = []
    · exact .inl hnil
    · right
      simpa [hnil] using hwritten
  · exact .unreadable h hne hwritten hparse hkind

/-- A request that offers a text is replied to as that text is. -/
theorem respond_of_offers (hreads : framework.Reads r) {text : String}
    (h : framework.Offers r text) : framework.respond r = compileText text := by
  obtain ⟨document, hdocument, hoffers⟩ := hreads.exists_document
  rw [Framework.respond, hdocument]
  exact compileDocument_of_field ((hoffers text).mp h)

/-- **A request that asks for a text** is shown the automaton of that text. -/
theorem respond_of_asks (hreads : framework.Reads r) {cs : List Char} (h : framework.Asks r cs) :
    ∃ body a, framework.respond r = { status := 200, body := some body } ∧
      Shows body (String.ofList cs) a := by
  obtain ⟨text, hoffers, rfl⟩ := h.trim
  obtain ⟨ws, vs, -, -, -, e, he⟩ := h
  rw [← String.toList_ofList (l := Text.trim text.toList)] at he
  obtain ⟨a, hcompile, -, hblock, -⟩ := compile_of_derives he
  refine ⟨_, a, ?_, shows_acceptance hcompile hblock⟩
  rw [respond_of_offers hreads hoffers, compileText_of_compile_eq_ok hcompile]

/-- **Any other request** is told what is to blame. -/
theorem respond_of_not_asks (hreads : framework.Reads r) (h : ¬ ∃ cs, framework.Asks r cs) :
    ∃ error kind, framework.respond r = { status := 400, body := some (refusal error kind) } ∧
      Blame framework r kind := by
  by_cases hoffers : ∃ text, framework.Offers r text
  · obtain ⟨text, hoffers⟩ := hoffers
    have hderives : ¬ ∃ e, Derives .union (String.ofList (Text.trim text.toList)).toList e := by
      rw [String.toList_ofList]
      rintro ⟨e, he⟩
      exact h ⟨_, hoffers.asks he⟩
    obtain ⟨error, hcompile⟩ := compile_of_not_derives hderives
    refine ⟨error.text, error.kind, ?_, .of_offers hoffers hcompile⟩
    rw [respond_of_offers hreads hoffers, compileText_of_compile_eq_error hcompile]
  · obtain ⟨document, hdocument, hfield⟩ := hreads.exists_document
    have hnone : ∀ text, document.field? "regex" ≠ some (.str text) :=
      fun text htext => hoffers ⟨text, (hfield text).mpr htext⟩
    obtain ⟨error, hrefused⟩ := compileDocument_of_no_field hnone
    refine ⟨error, .invalidInput, ?_, .unusable hoffers⟩
    rw [Framework.respond, hdocument]
    exact hrefused

end

/-- **The decision**, for every request that the framework reads as it promises.

* The status is 200 or 400, and it is 200 just if the request asks for a text of the grammar.
* A request asks for one text at most, and the body shows what it is compiled to.
* In every other case the body says that nothing was compiled, and of which kind the blame is. -/
theorem compile_decision {Request : Type} (framework : Framework Request) (r : Request)
    (hreads : framework.Reads r) :
    let reply := framework.respond r
    (reply.status = 200 ∨ reply.status = 400) ∧
    (reply.status = 200 ↔ ∃ cs, framework.Asks r cs) ∧
    (∀ cs, framework.Asks r cs → (∀ cs', framework.Asks r cs' → cs' = cs) ∧
      ∃ shown a, reply.body = some shown ∧ Shows shown (String.ofList cs) a) ∧
    (reply.status = 400 → ∃ error kind,
      reply.body = some (.obj
        [("success", .bool false), ("error", .str error), ("kind", .str (Kind.name kind))]) ∧
      Blame framework r kind) := by
  intro reply
  -- what a request asks for fixes the whole reply, so the two cases give all four parts
  by_cases hasks : ∃ cs, framework.Asks r cs
  · obtain ⟨cs, hcs⟩ := hasks
    obtain ⟨shown, a, hreply, hshows⟩ := respond_of_asks hreads hcs
    refine ⟨.inl (congrArg Reply.status hreply),
      iff_of_true (congrArg Reply.status hreply) ⟨cs, hcs⟩, ?_, ?_⟩
    · intro cs' hcs'
      obtain rfl := hcs'.unique hcs
      exact ⟨fun _ h => h.unique hcs', shown, a, congrArg Reply.body hreply, hshows⟩
    · intro hstatus
      cases hstatus.symm.trans (congrArg Reply.status hreply)
  · obtain ⟨error, kind, hreply, hblame⟩ := respond_of_not_asks hreads hasks
    have hstatus : reply.status = 400 := congrArg Reply.status hreply
    refine ⟨.inr hstatus, iff_of_false (by simp [hstatus]) hasks, ?_, ?_⟩
    · intro cs hcs
      exact absurd ⟨cs, hcs⟩ hasks
    · intro _
      exact ⟨error, kind, congrArg Reply.body hreply, hblame⟩

/-- A request with a media type built on JSON, and a member that counts behind one that does not. -/
theorem compile_decision_repeated :
    let r : Service.Request :=
      { method := "POST", target := "/compile",
        contentType := some "Application/HAL+JSON; charset=utf-8",
        body := some "\x7b\x22regex\x22: [1], \x22regex\x22: \x22 (a|E)* \x22\x7d" }
    Service.framework.Reads r ∧ (Service.framework.respond r).status = 200 ∧
      ∃ shown a, (Service.framework.respond r).body = some shown ∧ Shows shown "(a|E)*" a := by
  intro r
  have hreads : Service.framework.Reads r := Service.reads_iff.mpr (by decide +kernel)
  have hlast : ((r.text?.bind (Json.membersWithin? Json.maxDigits)).bind fun members =>
      (members.reverse.lookup "regex").bind Json.text?) = some " (a|E)* " := by decide +kernel
  simp only [Option.bind_eq_some_iff, Json.text?_eq_some_iff] at hlast
  obtain ⟨members, ⟨cs, hcs, hmembers⟩, _, hlookup, rfl⟩ := hlast
  have hoffers : Service.framework.Offers r " (a|E)* " :=
    ⟨members, Service.sends_iff.mpr ⟨by decide +kernel, cs, hcs, hmembers⟩, hlookup⟩
  have htrim : Text.trim " (a|E)* ".toList = ['(', 'a', '|', 'E', ')', '*'] := by decide +kernel
  have hnone : Alphabet.foreign? ['(', 'a', '|', 'E', ')', '*'] = none := by decide
  have hderives : Derives .union ['(', 'a', '|', 'E', ')', '*']
      (.star (.union (.literal "a") (.literal "E"))) :=
    derives_of_parse (Alphabet.foreign?_eq_none_iff.mp hnone) rfl
  have hasks : Service.framework.Asks r ['(', 'a', '|', 'E', ')', '*'] :=
    htrim ▸ hoffers.asks (htrim.symm ▸ hderives)
  obtain ⟨-, hstatus, hshown, -⟩ := compile_decision Service.framework r hreads
  exact ⟨hreads, hstatus.mpr ⟨_, hasks⟩, (hshown _ hasks).2⟩

end RegexCompiler.Endpoint
