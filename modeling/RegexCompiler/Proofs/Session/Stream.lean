import Mathlib.Data.List.TakeWhile
import RegexCompiler.Proofs.Session

/-!
# Sessions over texts that are put together

A session answers the lines of its text one by one, and what it answers to a line depends on this
line alone.  So it does not matter how much of the text is there at a time: cut between two lines, a
text is answered as its halves are, one after the other, and nothing is answered from the first line
on that says to quit (`Streams`).

What a session writes is a function of its text, as no line is ever a fault (`run_eq_ok`), and a
quiet command writes just that (`command_streams`).
-/

namespace RegexCompiler

namespace Session

open Text (Cuts IsLine IsWhole)

/-! ## Outputs -/

/-- It does not matter how three outputs are grouped. -/
theorem append_assoc (x y z : Output) : x ++ y ++ z = x ++ (y ++ z) := by
  show (x.append y).append z = x.append (y.append z)
  simp [Output.append, String.append_assoc]

/-- Outputs one after the other. -/
def join (outputs : List Output) : Output := outputs.foldr Output.append {}

/-- One output is joined to itself. -/
theorem join_singleton (o : Output) : join [o] = o := append_empty o

/-- Outputs are joined part by part. -/
theorem join_append (os os' : List Output) : join (os ++ os') = join os ++ join os' := by
  induction os with
  | nil => exact (empty_append _).symm
  | cons o os ih =>
      show o ++ join (os ++ os') = o ++ join os ++ join os'
      rw [ih, append_assoc]

/-! ## The lines that are answered -/

/-- Whether some line of a text says to quit. -/
def Quits (text : String) : Prop :=
  ":q".toList ∈ Text.lines text.toList ∨ "QUIT".toList ∈ Text.lines text.toList

instance (text : String) : Decidable (Quits text) := inferInstanceAs (Decidable (_ ∨ _))

/-- There are two ways to quit. -/
theorem isQuit_eq_true_iff {line : List Char} :
    isQuit line = true ↔ line = ":q".toList ∨ line = "QUIT".toList := by
  simp only [isQuit, quitWords, List.contains_iff_mem, List.mem_cons, List.not_mem_nil, or_false,
    ← String.toList_inj, String.toList_ofList]

/-- A text quits if one of its lines does. -/
theorem quits_iff {text : String} :
    Quits text ↔ ∃ line ∈ Text.lines text.toList, isQuit line = true := by
  simp only [isQuit_eq_true_iff, Quits]
  constructor
  · rintro (h | h)
    · exact ⟨_, h, .inl rfl⟩
    · exact ⟨_, h, .inr rfl⟩
  · rintro ⟨line, hline, rfl | rfl⟩
    · exact .inl hline
    · exact .inr hline

/-- If no line says to quit, all lines are answered. -/
theorem requests_eq_lines {x : String} (hx : ¬ Quits x) :
    requests x.toList = Text.lines x.toList := by
  refine List.takeWhile_eq_self_iff.mpr ?_
  intro line hline
  rw [Bool.not_eq_true', Bool.eq_false_iff]
  exact fun hquit => hx (quits_iff.mpr ⟨line, hline, hquit⟩)

/-- If no line says to quit, the lines behind a cut are answered too. -/
theorem requests_append {x y : String} (hcut : Cuts x.toList y.toList) (hx : ¬ Quits x) :
    requests (x ++ y).toList = requests x.toList ++ requests y.toList := by
  rw [requests_eq_lines hx, requests, String.toList_append, Text.lines_append hcut,
    List.takeWhile_append_of_pos]
  · rfl
  · exact List.takeWhile_eq_self_iff.mp (requests_eq_lines hx)

/-- If some line says to quit, no line behind a cut is answered. -/
theorem requests_append_of_quits {x y : String} (hcut : Cuts x.toList y.toList) (hx : Quits x) :
    requests (x ++ y).toList = requests x.toList := by
  obtain ⟨line, hline, hquit⟩ := quits_iff.mp hx
  have hshort : ((Text.lines x.toList).takeWhile fun line => !isQuit line).length ≠
      (Text.lines x.toList).length := by
    intro hlength
    have hall := (List.takeWhile_prefix _).eq_of_length hlength
    have hcontinues := List.takeWhile_eq_self_iff.mp hall line hline
    rw [hquit] at hcontinues
    cases hcontinues
  rw [requests, String.toList_append, Text.lines_append hcut, List.takeWhile_append,
    if_neg hshort]
  rfl

/-! ## What is answered -/

/-- What is written for a line that is refused: no answer, and two lines of complaints. -/
def refusal (line : String) (error : RegexError) : Output :=
  { complaints := (LogRecord.rejected line error).text ++ "\n" ++ complaint error ++ "\n" }

/-- The answer to one line: its automaton, or why it is refused. -/
def Answers (style : Style) (line : String) (o : Output) : Prop :=
  (∃ a, compile line = .ok a ∧ o = { answers := render style a ++ "\n" }) ∨
  ∃ error, compile line = .error (.refused error) ∧ o = refusal line error

/-- There is one answer only to a line that is refused. -/
theorem Answers.eq_refusal {style : Style} {line : String} {o : Output} {error : RegexError}
    (h : Answers style line o) (herror : compile line = .error (.refused error)) :
    o = refusal line error := by
  rcases h with ⟨a, ha, -⟩ | ⟨error', herror', rfl⟩
  · rw [herror] at ha
    cases ha
  · rw [herror] at herror'
    cases herror'
    rfl

/-- **Every line is answered**, and no line stops the session. -/
theorem exists_answers (style : Style) (line : List Char) :
    ∃ o, reply style line = .ok o ∧ Answers style (String.ofList line) o := by
  by_cases h : ∃ e, Derives .union (String.ofList line).toList e
  · obtain ⟨e, he⟩ := h
    obtain ⟨a, ha, -⟩ := compile_of_derives he
    exact ⟨_, reply_of_compile_eq_ok style ha, .inl ⟨a, ha, rfl⟩⟩
  · obtain ⟨error, herror⟩ := compile_of_not_derives h
    refine ⟨_, ?_, .inr ⟨error, herror, rfl⟩⟩
    rw [reply, Compilation.ofText_of_compile_eq_error herror]
    rfl

/-- A session joins the answers to its lines. -/
theorem run_eq_ok {style : Style} {answer : List Char → Output}
    (h : ∀ line, reply style line = .ok (answer line)) (text : List Char) :
    run style text = .ok (join ((requests text).map answer)) := by
  have hreply : reply style = fun line => pure (answer line) := funext h
  rw [run, hreply, List.mapM_pure]
  rfl

/-- **Sessions as streams.**  What is written, as a function of the text. -/
structure Streams (style : Style) (output : String → Output) : Prop where
  /-- A line is answered as a whole, whatever characters it holds that end no line. -/
  line : ∀ line : String, IsLine line.toList → line ∉ quitWords →
    Answers style line (output (line ++ "\n"))
  /-- Texts one after the other are answered one after the other. -/
  append : ∀ x y : String, Cuts x.toList y.toList → ¬ Quits x →
    output (x ++ y) = output x ++ output y
  /-- Nothing is answered behind a line that says to quit. -/
  quit : ∀ x y : String, Cuts x.toList y.toList → Quits x → output (x ++ y) = output x
  /-- All lines may be ended by line feeds. -/
  unifyEnds : ∀ x : String, output (String.ofList (Text.unifyEnds x.toList)) = output x
  /-- The last line need not be ended. -/
  ended : ∀ x mark : String, ¬ IsWhole x.toList → mark.toList ∈ Text.ends →
    output (x ++ mark) = output x

/-- A text of one line has one request. -/
theorem requests_line {line : String} (hline : IsLine line.toList) (hquit : line ∉ quitWords) :
    requests (line ++ "\n").toList = [line.toList] := by
  have hcontinues : isQuit line.toList = false := by simpa [isQuit] using hquit
  rw [requests, String.toList_append]
  show (Text.lines (line.toList ++ ['\n'])).takeWhile _ = _
  rw [Text.lines_of_isLine hline]
  simp [hcontinues]

/-- A line that does not say to quit makes no text that does. -/
theorem not_quits_line {line : String} (hline : IsLine line.toList) (hquit : line ∉ quitWords) :
    ¬ Quits (line ++ "\n") := by
  rw [quits_iff, String.toList_append]
  show ¬ ∃ l ∈ Text.lines (line.toList ++ ['\n']), isQuit l = true
  rw [Text.lines_of_isLine hline]
  simpa [isQuit] using hquit

/-- **A session is a stream.** -/
theorem streams_join {style : Style} {answer : List Char → Output}
    (h : ∀ line, Answers style (String.ofList line) (answer line)) :
    Streams style fun text => join ((requests text.toList).map answer) := by
  have happend : ∀ x y : String, Cuts x.toList y.toList → ¬ Quits x →
      join ((requests (x ++ y).toList).map answer) =
        join ((requests x.toList).map answer) ++ join ((requests y.toList).map answer) := by
    intro x y hcut hx
    rw [requests_append hcut hx, List.map_append, join_append]
  have hline : ∀ line : String, IsLine line.toList → line ∉ quitWords →
      join ((requests (line ++ "\n").toList).map answer) = answer line.toList := by
    intro line hline hquit
    rw [requests_line hline hquit]
    exact join_singleton _
  refine ⟨?_, happend, ?_, ?_, ?_⟩
  · intro line hisLine hquit
    have hanswer := h line.toList
    rw [String.ofList_toList] at hanswer
    exact (hline line hisLine hquit).symm ▸ hanswer
  · intro x y hcut hx
    rw [requests_append_of_quits hcut hx]
  · intro x
    rw [String.toList_ofList, requests, Text.lines_unifyEnds]
    rfl
  · intro x mark hx hmark
    rw [String.toList_append, requests, Text.lines_append_end hmark hx]
    rfl

/-- **A line that is refused** stops nothing, and changes nothing that is written for others. -/
theorem Streams.append_refused {style : Style} {output : String → Output} {x line y : String}
    {error : RegexError} (h : Streams style output) (hcut : Cuts x.toList (line ++ "\n").toList)
    (hx : ¬ Quits x) (hline : IsLine line.toList) (hquit : line ∉ quitWords)
    (herror : compile line = .error (.refused error)) :
    output (x ++ (line ++ "\n" ++ y)) = output x ++ refusal line error ++ output y := by
  have hfirst : Cuts x.toList (line ++ "\n" ++ y).toList := by
    rw [String.toList_append]
    exact hcut.append (by simp) _
  have hsecond : Cuts (line ++ "\n").toList y.toList := by
    rw [String.toList_append]
    exact Text.cuts_end _ _
  rw [h.append _ _ hfirst hx, h.append _ _ hsecond (not_quits_line hline hquit),
    (h.line line hline hquit).eq_refusal herror, append_assoc]

end Session

namespace CommandLine

open Text (Cuts IsLine)

/-- **A quiet command is a stream.**  What it writes is a function of the text of its source: the
text may be cut between two lines, nothing is answered behind a line that says to quit, a line that
is refused makes no difference to others, and it does not matter how lines are ended.  The command
always ends well, in whatever way its command line says that it is to be quiet. -/
theorem command_streams {understand : List String → Except UsageError Invocation}
    {args : List String} {style : Session.Style} {source : Source}
    (hargs : understand args = .ok (.session style true source)) :
    ∃ output : String → Session.Output, Session.Streams style output ∧
      (∀ (x line y : String) (error : RegexError), Cuts x.toList (line ++ "\n").toList →
        ¬ Session.Quits x → IsLine line.toList → line ∉ Session.quitWords →
        compile line = .error (.refused error) →
        output (x ++ (line ++ "\n" ++ y)) =
          output x ++ Session.refusal line error ++ output y) ∧
      ∀ (read? : String → Option String) (given text : String),
        source.text? read? given = some text →
        ∃ outcome, runWith understand args read? given = .ok outcome ∧
          outcome = .finished (output text) ∧ outcome.exitCode = 0 := by
  choose answer hanswer using Session.exists_answers style
  have hstreams := Session.streams_join fun line => (hanswer line).2
  refine ⟨_, hstreams, fun x line y error => hstreams.append_refused, ?_⟩
  intro read? given text htext
  have hrun := Session.run_eq_ok (fun line => (hanswer line).1) text.toList
  exact ⟨_, runWith_of_text? hargs htext hrun, rfl, rfl⟩

/-- Texts with all three ends of lines, with lines that are refused and lines that say to quit. -/
theorem command_streams_cut :
    ∃ output : String → Session.Output,
      output ("a\u2028b\r" ++ "\r\n*\x0b") = output "a\u2028b\r" ++ output "\r\n*\x0b" ∧
      output ("a\r\n:q\r" ++ "b\n") = output "a\r\n:q\r" ∧
      output ("a\r" ++ (")" ++ "\n" ++ "QUIT\rb")) =
        output "a\r" ++ Session.refusal ")" (.extraClosing 0) ++ output "QUIT\rb" ∧
      output "a\nb\n" = output "a\rb\r\n" ∧ output "a\r\nb\r" = output "a\r\nb" ∧
      run ["--json", "-q"] (fun _ => none) "a\r\nb" = .ok (.finished (output "a\r\nb")) := by
  have hargs : parse ["--json", "-q"] = .ok (.session .json true .standardInput) := rfl
  obtain ⟨output, hstreams, hrefused, hrun⟩ := command_streams hargs
  obtain ⟨outcome, houtcome, rfl, -⟩ := hrun (fun _ => none) "a\r\nb" "a\r\nb" rfl
  refine ⟨output, ?_, ?_, ?_, ?_, ?_, houtcome⟩
  · exact hstreams.append _ _ (by decide +kernel) (by decide +kernel)
  · exact hstreams.quit _ _ (by decide +kernel) (by decide +kernel)
  · exact hrefused _ _ _ _ (by decide +kernel) (by decide +kernel) (by decide +kernel)
      (by decide +kernel) rfl
  · exact hstreams.unifyEnds "a\rb\r\n"
  · exact hstreams.ended "a\r\nb" "\r" (by decide +kernel) (by decide +kernel)

end CommandLine

end RegexCompiler
