import RegexCompiler.CommandLine
import RegexCompiler.Proofs.Compile.Basic
import RegexCompiler.Proofs.Text.Lines

/-!
# The answer to one line

A session over a text of one line answers this line and nothing else (`run_line`), unless the line
says to quit.  A line that compiles is answered by its automaton; any other line is complained of,
and the last line of the complaints says why it is refused (`getLast?_lines_complaints`).
-/

namespace RegexCompiler.Session

open Text (IsLine IsShown)

variable {style : Style} {line : List Char}

/-- Nothing is written behind an output. -/
theorem append_empty (x : Output) : x.append {} = x := by
  simp [Output.append]

/-- Nothing is written in front of an output. -/
theorem empty_append (x : Output) : ({} : Output) ++ x = x := by
  show Output.append {} x = x
  simp [Output.append]

/-- **A session over one line** answers that line. -/
theorem run_line (hline : IsLine line) (hquit : isQuit line = false) :
    run style (line ++ ['\n']) = reply style line := by
  have hrequests : requests (line ++ ['\n']) = [line] := by
    simp [requests, Text.lines_of_isLine hline, hquit]
  rw [run, hrequests]
  cases hreply : reply style line with
  | error f => simp [hreply]
  | ok output =>
      simp only [List.mapM_cons, List.mapM_nil, hreply]
      exact congrArg Except.ok (append_empty output)

/-- A line that compiles is answered by its automaton. -/
theorem reply_of_compile_eq_ok (style : Style) {a : Automaton}
    (h : compile (String.ofList line) = .ok a) :
    reply style line = .ok { answers := render style a ++ "\n" } := by
  rw [reply, Compilation.ofText_of_compile_eq_ok h]
  rfl

/-- A line that is refused is complained of in two lines, the second of which tells the error. -/
theorem reply_of_compile_eq_error (style : Style) {error : RegexError}
    (h : compile (String.ofList line) = .error (.refused error)) :
    ∃ warning, reply style line =
      .ok { complaints := warning ++ "\n" ++ complaint error ++ "\n" } := by
  refine ⟨(LogRecord.rejected (String.ofList line) error).text, ?_⟩
  rw [reply, Compilation.ofText_of_compile_eq_error h]
  rfl

/-- A complaint is one line, as it holds printable characters only. -/
theorem isLine_complaint (error : RegexError) : IsLine (complaint error).toList := by
  have hkind : IsShown error.kind.name.toList := by cases error.kind <;> decide +kernel
  have hshown : IsShown (complaint error).toList := by
    simp only [complaint, String.toList_append]
    refine .append (.append (.append ?_ hkind) ?_) error.isShown_text
    all_goals decide +kernel
  exact hshown.isLine

/-- **The last line of the complaints** of one line says why it is refused. -/
theorem getLast?_lines_complaints (warning : String) (error : RegexError) :
    (Text.lines (warning ++ "\n" ++ complaint error ++ "\n").toList).getLast? =
      some (complaint error).toList := by
  simp only [String.toList_append, List.append_assoc]
  exact Text.getLast?_lines (isLine_complaint error)

end RegexCompiler.Session

namespace RegexCompiler.CommandLine

section

variable {understand : List String → Except UsageError Invocation} {args : List String}
  {style : Session.Style} {output : Session.Output}

/-- A quiet command writes what its session does over the text of its source. -/
theorem runWith_of_text? {source : Source} {read? : String → Option String} {given text : String}
    (hargs : understand args = .ok (.session style true source))
    (htext : source.text? read? given = some text)
    (hrun : Session.run style text.toList = .ok output) :
    runWith understand args read? given = .ok (.finished output) := by
  have hgreeting : greeting true ++ output = output := Session.empty_append output
  rw [runWith, hargs]
  dsimp only
  rw [htext]
  dsimp only
  rw [hrun]
  exact congrArg (fun o => Except.ok (Outcome.finished o)) hgreeting

/-- A quiet command that reads the standard input writes what its session does over that text. -/
theorem runWith_standardInput {text : String} (read? : String → Option String)
    (hargs : understand args = .ok (.session style true .standardInput))
    (hrun : Session.run style text.toList = .ok output) :
    runWith understand args read? text = .ok (.finished output) :=
  runWith_of_text? hargs rfl hrun

end

end RegexCompiler.CommandLine
