import RegexCompiler.Proofs.Endpoint.Decision
import RegexCompiler.Proofs.Session

/-!
# The two hosts agree

A text can be compiled by the command line, as a line of its standard input, and by the service, as
the field of a document, where it may have blanks around it.  Both compile the same text, so both
accept it or both refuse it.

If both accept it, they show the same automaton: the command line writes the lines that the service
sends, or a text that is read as the description that the service sends (`BothAccept`).  If both
refuse it, they tell the same kind and the same error (`BothRefuse`).
-/

namespace RegexCompiler

open Session (Output)

/-- **Both hosts accept a text**, where a command writes `listing`, and with JSON asked for
`json`. -/
structure BothAccept (regex : String) (reply : Endpoint.Reply) (listing json : Output) :
    Prop where
  /-- The service accepts. -/
  status : reply.status = 200
  /-- What is shown is the same: the line of JSON is read as the description that the service sends,
  whatever limit is set to the digits of numbers, if it allows the number of states. -/
  shown : ∃ body nfa states lines text, reply.body = some body ∧
    body.field? "regex" = some (.str regex) ∧ body.field? "nfa" = some nfa ∧
    body.field? "display" = some (.arr (lines.map .str)) ∧
    listing.answers = String.intercalate "\n" ("NFA:" :: lines) ++ "\n" ∧
    json.answers = text ++ "\n" ∧ Text.IsLine text.toList ∧
    nfa.field? "states" = some (.arr states) ∧
    ∀ limit, (Nat.toDigits 10 states.length).length ≤ limit →
      Json.parseWithin? limit text.toList = some nfa
  /-- Nobody complains. -/
  silent : listing.complaints = "" ∧ json.complaints = ""

/-- **Both hosts refuse a text**, for the same error. -/
structure BothRefuse (reply : Endpoint.Reply) (listing json : Output) : Prop where
  /-- The service refuses. -/
  status : reply.status = 400
  /-- What is told is the same. -/
  told : ∃ body kind error, reply.body = some body ∧
    body.field? "success" = some (.bool false) ∧ body.field? "kind" = some (.str kind) ∧
    body.field? "error" = some (.str error) ∧
    ∀ output ∈ [listing, json], output.answers = "" ∧
      (Text.lines output.complaints.toList).getLast? =
        some ("Error [" ++ kind ++ "]: " ++ error).toList

/-- What both hosts show of the automaton of a text. -/
theorem bothAccept_of_compile_eq_ok {regex : String} {a : Automaton}
    (hcompile : compile regex = .ok a) (ha : a.Block) :
    BothAccept regex { status := 200, body := some (Endpoint.acceptance regex a) }
      { answers := Session.render .listing a ++ "\n" }
      { answers := Session.render .json a ++ "\n" } := by
  have hshows := Endpoint.shows_acceptance hcompile ha
  refine ⟨rfl, ?_, rfl, rfl⟩
  refine ⟨_, a.machine.toJson, _, a.display, a.machine.toJson.write, rfl, hshows.regex_eq,
    hshows.nfa, rfl, rfl, rfl, ?_, hshows.states, ?_⟩
  · rw [Json.write, String.toList_ofList]
    exact Json.isLine_chars _ (ha.readable_machine (Nat.le_refl _))
  · intro limit hlimit
    rw [List.length_map, List.length_range] at hlimit
    rw [Json.write, String.toList_ofList]
    exact Json.parseWithin?_chars (ha.readable_machine hlimit)

/-- What both hosts tell of a refusal. -/
theorem bothRefuse_of_complaints {error : RegexError} {listing json : Output}
    (hlisting : ∃ warning : String,
      listing = { complaints := warning ++ "\n" ++ Session.complaint error ++ "\n" })
    (hjson : ∃ warning : String,
      json = { complaints := warning ++ "\n" ++ Session.complaint error ++ "\n" }) :
    BothRefuse { status := 400, body := some (Endpoint.refusal error.text error.kind) }
      listing json := by
  refine ⟨rfl, _, error.kind.name, error.text, rfl, rfl, rfl, rfl, ?_⟩
  have htold : ∀ output : Output, (∃ warning : String,
      output = { complaints := warning ++ "\n" ++ Session.complaint error ++ "\n" }) →
      output.answers = "" ∧
        (Text.lines output.complaints.toList).getLast? = some (Session.complaint error).toList := by
    rintro output ⟨warning, rfl⟩
    exact ⟨rfl, Session.getLast?_lines_complaints warning error⟩
  exact List.forall_mem_cons.mpr
    ⟨htold listing hlisting, List.forall_mem_singleton.mpr (htold json hjson)⟩

/-- **The two hosts agree** on every text of one line that has no blanks at its ends and does not
say to quit: given as a line to a quiet command, as a listing and as JSON, and with any blanks
around it as the field of a document to the service, it is accepted by both or refused by both.  It
does not matter how command lines are read, and which requests have which documents. -/
theorem hosts_agree {Request : Type} (framework : Endpoint.Framework Request) {request : Request}
    (understand : List String → Except CommandLine.UsageError CommandLine.Invocation)
    {listingArgs jsonArgs : List String} (read? : String → Option String)
    {document : Json} {regex ws vs : String}
    (hlisting : understand listingArgs = .ok (.session .listing true .standardInput))
    (hjson : understand jsonArgs = .ok (.session .json true .standardInput))
    (hline : Text.IsLine regex.toList) (htrim : Text.trim regex.toList = regex.toList)
    (hquit : regex ∉ Session.quitWords) (hws : Text.AreBlank ws.toList)
    (hvs : Text.AreBlank vs.toList) (hdocument : framework.document? request = some document)
    (hfield : document.field? "regex" = some (.str (ws ++ regex ++ vs))) :
    let reply := framework.respond request
    ∃ listing json : Output,
      CommandLine.runWith understand listingArgs read? (regex ++ "\n") = .ok (.finished listing) ∧
      CommandLine.runWith understand jsonArgs read? (regex ++ "\n") = .ok (.finished json) ∧
      (BothAccept regex reply listing json ∨ BothRefuse reply listing json) := by
  intro reply
  have hreply : reply = Endpoint.compileText (ws ++ regex ++ vs) := by
    show Endpoint.respond (framework.document? request) = _
    rw [hdocument]
    exact Endpoint.compileDocument_of_field hfield
  -- the service takes the blanks off, so both hosts compile the same text
  have hstripped : String.ofList (Text.trim (ws ++ regex ++ vs).toList) = regex := by
    rw [String.toList_append, String.toList_append, Text.trim_append hws hvs, htrim,
      String.ofList_toList]
  have hcontinues : Session.isQuit regex.toList = false := by
    simpa [Session.isQuit] using hquit
  have hrun : ∀ {args : List String} {style : Session.Style} {output : Output},
      understand args = .ok (.session style true .standardInput) →
      Session.reply style regex.toList = .ok output →
      CommandLine.runWith understand args read? (regex ++ "\n") = .ok (.finished output) := by
    intro args style output hargs hanswer
    refine CommandLine.runWith_standardInput read? hargs ?_
    rw [String.toList_append]
    exact (Session.run_line hline hcontinues).trans hanswer
  by_cases hderives : ∃ e, Derives .union regex.toList e
  · obtain ⟨e, he⟩ := hderives
    obtain ⟨a, hcompile, -, hblock, -⟩ := compile_of_derives he
    have hanswer : ∀ style, Session.reply style regex.toList =
        .ok { answers := Session.render style a ++ "\n" } :=
      fun style => Session.reply_of_compile_eq_ok style (by rwa [String.ofList_toList])
    refine ⟨_, _, hrun hlisting (hanswer _), hrun hjson (hanswer _), .inl ?_⟩
    rw [hreply, Endpoint.compileText_of_compile_eq_ok (hstripped.symm ▸ hcompile), hstripped]
    exact bothAccept_of_compile_eq_ok hcompile hblock
  · obtain ⟨error, hcompile⟩ := compile_of_not_derives hderives
    have hanswer : ∀ style, ∃ warning : String, Session.reply style regex.toList =
        .ok { complaints := warning ++ "\n" ++ Session.complaint error ++ "\n" } :=
      fun style => Session.reply_of_compile_eq_error style (by rwa [String.ofList_toList])
    obtain ⟨warning, hlistingAnswer⟩ := hanswer .listing
    obtain ⟨warning', hjsonAnswer⟩ := hanswer .json
    refine ⟨_, _, hrun hlisting hlistingAnswer, hrun hjson hjsonAnswer, .inr ?_⟩
    rw [hreply, Endpoint.compileText_of_compile_eq_error (hstripped.symm ▸ hcompile)]
    exact bothRefuse_of_complaints ⟨warning, rfl⟩ ⟨warning', rfl⟩

/-- A text that stands between blanks, in a document that has an earlier member of the same name. -/
theorem hosts_agree_spaced :
    let request : Service.Request :=
      { method := "POST", target := "/compile", contentType := some "application/json",
        body := some "\x7b\x22regex\x22: 1, \x22regex\x22: \x22 a* \x22\x7d" }
    ∃ document, Service.framework.document? request = some document ∧
      document.field? "regex" = some (.str (" " ++ "a*" ++ " ")) ∧
      ∃ listing json : Output,
        CommandLine.run ["-q"] (fun _ => none) ("a*" ++ "\n") = .ok (.finished listing) ∧
        CommandLine.run ["-q", "--json"] (fun _ => none) ("a*" ++ "\n") = .ok (.finished json) ∧
        (BothAccept "a*" (Service.framework.respond request) listing json ∨
          BothRefuse (Service.framework.respond request) listing json) := by
  intro request
  have hread : ((Service.framework.document? request).bind fun document =>
      (document.field? "regex").bind Json.text?) = some (" " ++ "a*" ++ " ") := by decide +kernel
  simp only [Option.bind_eq_some_iff, Json.text?_eq_some_iff] at hread
  obtain ⟨document, hdocument, _, hfield, rfl⟩ := hread
  have hblank : Text.AreBlank " ".toList := by
    intro c hc
    obtain rfl : c = ' ' := List.mem_singleton.mp hc
    decide
  exact ⟨document, hdocument, hfield,
    hosts_agree Service.framework CommandLine.parse (fun _ => none) rfl rfl (by decide +kernel)
      (by decide +kernel) (by decide) hblank hblank hdocument hfield⟩

end RegexCompiler
