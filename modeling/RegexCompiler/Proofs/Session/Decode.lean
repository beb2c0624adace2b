import RegexCompiler.Proofs.Compile.Listing
import RegexCompiler.Proofs.Log
import RegexCompiler.Proofs.Session.Stream

/-!
# Reading what a session writes

The answers of a session are the renderings of the automata of its text, one after the other.  What
is rendered is made of lines, and no line ends inside of what it shows, so the answers are read back
line by line.

* With JSON asked for, each line is a description.
* A listing starts with its heading, and no other line of it is the heading, so the answers are cut
  before each heading (`blocksAt`), and any cut into as many parts that start with a heading is this
  one (`eq_of_flatten_eq`).

Either way the answers tell the automata that were accepted, and nothing else (`Writes.tells`,
`Writes.answers_eq_iff`).
-/

namespace RegexCompiler

namespace Session

open Text (IsLine)

/-! ## Blocks -/

section

variable {α : Type} [DecidableEq α] {mark : α}

/-- What is read of some lines from the end: those before the first mark, and the blocks behind. -/
def cutBefore (mark line : α) (p : List α × List (List α)) : List α × List (List α) :=
  if line = mark then ([], (line :: p.1) :: p.2) else (line :: p.1, p.2)

/-- The blocks of a list: it is cut before each mark. -/
def blocksAt (mark : α) (ls : List α) : List (List α) := (ls.foldr (cutBefore mark) ([], [])).2

/-- Lines without the mark are put in front of the first block. -/
theorem foldr_cutBefore {body : List α} (hbody : mark ∉ body) (bs : List (List α)) :
    body.foldr (cutBefore mark) ([], bs) = (body, bs) := by
  induction body with
  | nil => rfl
  | cons line body ih =>
      rw [List.mem_cons, not_or] at hbody
      rw [List.foldr_cons, ih hbody.2, cutBefore, if_neg (Ne.symm hbody.1)]

/-- Whether a block starts with the mark, and has it nowhere else. -/
def IsBlock (mark : α) (b : List α) : Prop := ∃ body, b = mark :: body ∧ mark ∉ body

/-- **Blocks one after the other** are cut before each mark. -/
theorem blocksAt_flatten {bs : List (List α)} (hbs : ∀ b ∈ bs, IsBlock mark b) :
    blocksAt mark bs.flatten = bs := by
  have hread : bs.flatten.foldr (cutBefore mark) ([], []) = ([], bs) := by
    induction bs with
    | nil => rfl
    | cons b bs ih =>
        obtain ⟨⟨body, rfl, hbody⟩, hrest⟩ := List.forall_mem_cons.mp hbs
        rw [List.flatten_cons, List.foldr_append, ih hrest, List.foldr_cons, foldr_cutBefore hbody,
          cutBefore, if_pos rfl]
  rw [blocksAt, hread]

/-- A block holds its mark once. -/
theorem IsBlock.count_eq {b : List α} (hb : IsBlock mark b) : b.count mark = 1 := by
  obtain ⟨body, rfl, hbody⟩ := hb
  rw [List.count_cons_self, List.count_eq_zero_of_not_mem hbody]

/-- There are as many marks as blocks. -/
theorem count_flatten_of_isBlock {bs : List (List α)} (hbs : ∀ b ∈ bs, IsBlock mark b) :
    bs.flatten.count mark = bs.length := by
  induction bs with
  | nil => rfl
  | cons b bs ih =>
      obtain ⟨hb, hrest⟩ := List.forall_mem_cons.mp hbs
      rw [List.flatten_cons, List.count_append, hb.count_eq, ih hrest, List.length_cons,
        Nat.add_comm]

/-- There are no more blocks than marks. -/
theorem length_le_count_flatten {bs : List (List α)} (hbs : ∀ b ∈ bs, b.head? = some mark) :
    bs.length ≤ bs.flatten.count mark := by
  induction bs with
  | nil => exact Nat.zero_le _
  | cons b bs ih =>
      obtain ⟨hb, hrest⟩ := List.forall_mem_cons.mp hbs
      have hone : 1 ≤ b.count mark := List.count_pos_iff.mpr (List.mem_of_head? hb)
      have hmore := ih hrest
      rw [List.flatten_cons, List.count_append, List.length_cons]
      omega

/-- If there are no more marks than parts that start with one, the parts are blocks. -/
theorem isBlock_of_count_flatten {bs : List (List α)} (hbs : ∀ b ∈ bs, b.head? = some mark)
    (hcount : bs.flatten.count mark = bs.length) : ∀ b ∈ bs, IsBlock mark b := by
  induction bs with
  | nil => simp
  | cons b bs ih =>
      obtain ⟨hb, hrest⟩ := List.forall_mem_cons.mp hbs
      cases b with
      | nil => cases hb
      | cons line body =>
          obtain rfl := Option.some.inj hb
          have hmore := length_le_count_flatten hrest
          rw [List.flatten_cons, List.count_append, List.count_cons_self,
            List.length_cons] at hcount
          refine List.forall_mem_cons.mpr ⟨⟨body, rfl, ?_⟩, ih hrest (by omega)⟩
          exact List.count_eq_zero.mp (by omega)

/-- **There is one way to cut a list into as many parts as it has blocks**, if each part is to start
with the mark: then no part holds another mark. -/
theorem eq_of_flatten_eq {bs parts : List (List α)} (hbs : ∀ b ∈ bs, IsBlock mark b)
    (hparts : ∀ part ∈ parts, part.head? = some mark) (hlength : parts.length = bs.length)
    (hflatten : parts.flatten = bs.flatten) : parts = bs := by
  have hcount : parts.flatten.count mark = parts.length := by
    rw [hflatten, count_flatten_of_isBlock hbs, hlength]
  have hblocks := isBlock_of_count_flatten hparts hcount
  rw [← blocksAt_flatten hblocks, hflatten, blocksAt_flatten hbs]

end

/-- **Whether some parts are a split** of a text into `n` parts, each of which starts with the
heading of a listing. -/
structure Splits (text : List Char) (n : Nat) (parts : List (List (List Char))) : Prop where
  /-- There are `n` parts. -/
  length_eq : parts.length = n
  /-- They make up the lines of the text. -/
  flatten_eq : parts.flatten = Text.lines text
  /-- Each starts with the heading. -/
  head?_eq : ∀ part ∈ parts, part.head? = some Automaton.heading

/-! ## What a session answers -/

/-- The automata of the lines that are accepted. -/
def automataOf (ls : List (List Char)) : List Automaton :=
  ls.filterMap fun line => (compile (String.ofList line)).toOption

/-- The lines that are refused, each with the reason. -/
def refusalsOf (ls : List (List Char)) : List (String × RegexError) :=
  ls.filterMap fun line =>
    match compile (String.ofList line) with
    | .error (.refused error) => some (String.ofList line, error)
    | _ => none

/-- **The automata of a text**: those of its lines that are accepted, up to the first line that says
to quit. -/
def accepted (text : String) : List Automaton := automataOf (requests text.toList)

/-- **The refusals of a text**, up to the first line that says to quit. -/
def rejected (text : String) : List (String × RegexError) := refusalsOf (requests text.toList)

/-- The lines of a rendered automaton. -/
def renderLines (style : Style) (a : Automaton) : List (List Char) :=
  match style with
  | .listing => a.listingLines
  | .json => [a.machine.toJson.chars]

/-- The two lines of complaints about a refusal. -/
def refusalLines (r : String × RegexError) : List (List Char) :=
  [(LogRecord.rejected r.1 r.2).text.toList, (complaint r.2).toList]

/-- What is written for an automaton, line by line. -/
theorem toList_render (style : Style) (a : Automaton) :
    (render style a ++ "\n").toList = Text.unlines (renderLines style a) := by
  rw [String.toList_append]
  cases style with
  | listing =>
      show a.listing.toList ++ ['\n'] = _
      rw [a.toList_listing]
      exact Text.unlines_intercalate _ _
  | json =>
      show (String.ofList a.machine.toJson.chars).toList ++ ['\n'] = _
      rw [String.toList_ofList]
      exact (List.flatMap_singleton _ _).symm

/-- What is written for a refusal, line by line. -/
theorem toList_complaints_refusal (line : String) (error : RegexError) :
    (refusal line error).complaints.toList = Text.unlines (refusalLines (line, error)) := by
  simp [refusal, refusalLines, Text.unlines]

/-- **What is written for some lines**, as lines. -/
theorem toList_join {style : Style} {answer : List Char → Output}
    (h : ∀ line, Answers style (String.ofList line) (answer line)) (ls : List (List Char)) :
    (join (ls.map answer)).answers.toList =
        Text.unlines ((automataOf ls).flatMap (renderLines style)) ∧
      (join (ls.map answer)).complaints.toList =
        Text.unlines ((refusalsOf ls).flatMap refusalLines) := by
  induction ls with
  | nil => exact ⟨rfl, rfl⟩
  | cons line ls ih =>
      have hanswers : (join ((line :: ls).map answer)).answers.toList =
          (answer line).answers.toList ++ (join (ls.map answer)).answers.toList :=
        String.toList_append
      have hcomplaints : (join ((line :: ls).map answer)).complaints.toList =
          (answer line).complaints.toList ++ (join (ls.map answer)).complaints.toList :=
        String.toList_append
      rw [hanswers, hcomplaints, ih.1, ih.2]
      -- a line adds to one of the two lists and leaves the other one as it is
      rcases h line with ⟨a, hcompile, hanswer⟩ | ⟨error, hcompile, hanswer⟩
      · have hautomata : automataOf (line :: ls) = a :: automataOf ls := by
          simp [automataOf, hcompile, Except.toOption]
        have hrefusals : refusalsOf (line :: ls) = refusalsOf ls := by
          simp [refusalsOf, hcompile]
        rw [hanswer, hautomata, hrefusals, List.flatMap_cons, Text.unlines_append, toList_render]
        exact ⟨rfl, rfl⟩
      · have hautomata : automataOf (line :: ls) = automataOf ls := by
          simp [automataOf, hcompile, Except.toOption]
        have hrefusals :
            refusalsOf (line :: ls) = (String.ofList line, error) :: refusalsOf ls := by
          simp [refusalsOf, hcompile]
        rw [hanswer, hautomata, hrefusals, List.flatMap_cons, Text.unlines_append,
          toList_complaints_refusal]
        exact ⟨rfl, rfl⟩

/-! ## No line ends inside of what is shown -/

/-- An accepted line gives the automaton of an expression, whose listing is made of lines. -/
theorem exists_expr_of_mem_automataOf {ls : List (List Char)} {a : Automaton}
    (ha : a ∈ automataOf ls) :
    ∃ e : Expr, a = e.automaton ∧ ∀ l ∈ a.listingLines, IsLine l := by
  obtain ⟨line, -, hline⟩ := List.mem_filterMap.mp ha
  cases hcompile : compile (String.ofList line) with
  | error failure =>
      rw [hcompile] at hline
      cases hline
  | ok b =>
      rw [hcompile] at hline
      obtain rfl := Option.some.inj hline
      obtain ⟨e, rfl, hsymbols⟩ := exists_expr_of_compile_eq_ok hcompile
      refine ⟨e, rfl, List.forall_mem_cons.mpr ⟨by decide, ?_⟩⟩
      intro l hl
      obtain ⟨t, ht, rfl⟩ := Automaton.mem_map_display.mp hl
      exact Transition.isLine_line (hsymbols t ht)

/-- Everything that is shown of an automaton is made of lines. -/
theorem isLine_of_mem_renderLines {style : Style} {ls : List (List Char)} {l : List Char}
    (hl : l ∈ (automataOf ls).flatMap (renderLines style)) : IsLine l := by
  obtain ⟨a, ha, hl⟩ := List.mem_flatMap.mp hl
  obtain ⟨e, rfl, hlines⟩ := exists_expr_of_mem_automataOf ha
  cases style with
  | listing => exact hlines l hl
  | json =>
      obtain rfl := List.mem_singleton.mp hl
      exact Json.isLine_chars _ (e.block_automaton.readable_machine (le_refl _))

/-- So is everything that is told of a refusal. -/
theorem isLine_of_mem_refusalLines {rs : List (String × RegexError)} {l : List Char}
    (hl : l ∈ rs.flatMap refusalLines) : IsLine l := by
  obtain ⟨r, -, hl⟩ := List.mem_flatMap.mp hl
  rcases List.mem_cons.mp hl with rfl | hl
  · exact (LogRecord.isShown_rejected r.1 r.2).isLine
  · obtain rfl := List.mem_singleton.mp hl
    exact isLine_complaint r.2

/-! ## Reading the answers -/

/-- In JSON every automaton has one line. -/
theorem flatMap_renderLines_json (as : List Automaton) :
    as.flatMap (renderLines .json) = as.map (·.machine.toJson.chars) :=
  List.map_eq_flatMap.symm

/-- The listings of some automata of expressions are blocks. -/
theorem isBlock_of_mem_map_listingLines {as : List Automaton} {b : List (List Char)}
    (hb : b ∈ as.map Automaton.listingLines) : IsBlock Automaton.heading b := by
  obtain ⟨a, -, rfl⟩ := List.mem_map.mp hb
  exact ⟨_, rfl, a.heading_not_mem_display⟩

/-- **Listings are read back**, each by itself. -/
theorem map_ofListing_accepted (text : String) :
    ((accepted text).map Automaton.listingLines).map Automaton.ofListing = accepted text := by
  rw [List.map_map]
  refine (List.map_congr_left ?_).trans (List.map_id _)
  intro a ha
  obtain ⟨e, rfl, -⟩ := exists_expr_of_mem_automataOf ha
  exact Automaton.ofListing_listingLines e

/-- Listings one after the other are cut before each heading. -/
theorem blocksAt_accepted (text : String) :
    blocksAt Automaton.heading ((accepted text).flatMap (renderLines .listing)) =
      (accepted text).map Automaton.listingLines :=
  blocksAt_flatten fun _ => isBlock_of_mem_map_listingLines

/-- **Descriptions tell lists of blocks apart.** -/
theorem eq_of_map_chars_eq {as bs : List Automaton} (has : ∀ a ∈ as, a.Block)
    (hbs : ∀ b ∈ bs, b.Block)
    (h : as.map (·.machine.toJson.chars) = bs.map (·.machine.toJson.chars)) : as = bs := by
  induction as generalizing bs with
  | nil => exact (List.map_eq_nil_iff.mp h.symm).symm
  | cons a as ih =>
      cases bs with
      | nil => cases h
      | cons b bs =>
          obtain ⟨ha, has⟩ := List.forall_mem_cons.mp has
          obtain ⟨hb, hbs⟩ := List.forall_mem_cons.mp hbs
          obtain ⟨hfirst, hmore⟩ := List.cons.inj h
          rw [ha.eq_of_chars_eq hb hfirst, ih has hbs hmore]

/-- The automata of a session are blocks. -/
theorem block_of_mem_automataOf {ls : List (List Char)} {a : Automaton} (ha : a ∈ automataOf ls) :
    a.Block := by
  obtain ⟨e, rfl, -⟩ := exists_expr_of_mem_automataOf ha
  exact e.block_automaton

/-- **What is written tells what was read.**  A quiet command writes `listing`, or `json` if it is
asked for, over the text. -/
structure Tells (text : String) (listing json : Output) : Prop where
  /-- The answers in JSON are lines, one for each automaton, and each is read as its description,
  within any limit to the digits of numbers that allows its number of states. -/
  json_answers : ∃ ls, json.answers.toList = Text.unlines ls ∧ (∀ l ∈ ls, IsLine l) ∧
    List.Forall₂ (fun l a => ∀ limit, (Nat.toDigits 10 a.size.toNat).length ≤ limit →
      Json.parseWithin? limit l = some a.machine.toJson) ls (accepted text)
  /-- The listings are lines, which can be cut into as many parts as there are automata in one way
  only, if each part is to start with a heading; and from each part its automaton is read. -/
  listing_answers : listing.answers.toList = Text.unlines (Text.lines listing.answers.toList) ∧
    ∃ bs, Splits listing.answers.toList (accepted text).length bs ∧
      (∀ parts, Splits listing.answers.toList (accepted text).length parts → parts = bs) ∧
      bs.map Automaton.ofListing = accepted text
  /-- The complaints are two lines for each refusal, in order. -/
  complaints : ∀ o ∈ [listing, json],
    o.complaints.toList = Text.unlines (Text.lines o.complaints.toList) ∧
    Text.lines o.complaints.toList = (rejected text).flatMap refusalLines ∧
    (Text.lines o.complaints.toList).length = 2 * (rejected text).length

section

variable {style : Style} {text : String} {o : Output}

/-- Whether an output is what a session of a style writes over a text. -/
def Writes (style : Style) (text : String) (o : Output) : Prop :=
  o.answers.toList = Text.unlines ((accepted text).flatMap (renderLines style)) ∧
    o.complaints.toList = Text.unlines ((rejected text).flatMap refusalLines)

/-- The lines of the answers are those of the accepted automata, one after the other. -/
theorem Writes.lines_answers (h : Writes style text o) :
    Text.lines o.answers.toList = (accepted text).flatMap (renderLines style) := by
  rw [h.1]
  exact Text.lines_unlines fun _ => isLine_of_mem_renderLines

/-- The lines of the complaints are those of the refusals. -/
theorem Writes.lines_complaints (h : Writes style text o) :
    Text.lines o.complaints.toList = (rejected text).flatMap refusalLines := by
  rw [h.2]
  exact Text.lines_unlines fun _ => isLine_of_mem_refusalLines

/-- There are two lines of complaints for each refusal, and each one is ended. -/
theorem Writes.complaints (h : Writes style text o) :
    o.complaints.toList = Text.unlines (Text.lines o.complaints.toList) ∧
    Text.lines o.complaints.toList = (rejected text).flatMap refusalLines ∧
    (Text.lines o.complaints.toList).length = 2 * (rejected text).length := by
  rw [h.lines_complaints, List.length_flatMap]
  refine ⟨h.2, rfl, ?_⟩
  simp [refusalLines, Nat.mul_comm]

/-- **What is written tells what was accepted**, in either style. -/
theorem Writes.tells {listing json : Output} (hlisting : Writes .listing text listing)
    (hjson : Writes .json text json) : Tells text listing json := by
  refine ⟨?_, ⟨?_, ?_⟩, ?_⟩
  · refine ⟨_, hjson.1, fun _ => isLine_of_mem_renderLines, ?_⟩
    rw [flatMap_renderLines_json, List.forall₂_map_left_iff, List.forall₂_same]
    intro a ha limit hlimit
    exact Json.parseWithin?_chars ((block_of_mem_automataOf ha).readable_machine hlimit)
  · rw [hlisting.lines_answers]
    exact hlisting.1
  · have hlines : Text.lines listing.answers.toList =
        ((accepted text).map Automaton.listingLines).flatten := hlisting.lines_answers
    have hblocks : ∀ b ∈ (accepted text).map Automaton.listingLines, IsBlock Automaton.heading b :=
      fun _ => isBlock_of_mem_map_listingLines
    refine ⟨(accepted text).map Automaton.listingLines, ⟨List.length_map _, hlines.symm, ?_⟩, ?_,
      map_ofListing_accepted text⟩
    · intro b hb
      obtain ⟨body, rfl, -⟩ := hblocks b hb
      rfl
    · intro parts hparts
      refine eq_of_flatten_eq hblocks hparts.head?_eq ?_ ?_
      · rw [hparts.length_eq, List.length_map]
      · rw [hparts.flatten_eq, hlines]
  · refine List.forall_mem_cons.mpr ⟨hlisting.complaints, ?_⟩
    exact List.forall_mem_singleton.mpr hjson.complaints

/-- What is answered to two texts is the same just if the same automata are accepted. -/
theorem Writes.answers_eq_iff {text' : String} {o' : Output} (h : Writes style text o)
    (h' : Writes style text' o') : o.answers = o'.answers ↔ accepted text = accepted text' := by
  rw [← String.toList_inj]
  constructor
  · intro heq
    have hlines := congrArg Text.lines heq
    rw [h.lines_answers, h'.lines_answers] at hlines
    cases style with
    | listing =>
        rw [← map_ofListing_accepted, ← blocksAt_accepted, hlines, blocksAt_accepted,
          map_ofListing_accepted]
    | json =>
        rw [flatMap_renderLines_json, flatMap_renderLines_json] at hlines
        exact eq_of_map_chars_eq (fun _ => block_of_mem_automataOf)
          (fun _ => block_of_mem_automataOf) hlines
  · intro heq
    rw [h.1, h'.1, heq]

end

/-- **Sessions lose nothing.**  What a quiet command writes is a function of the text of its source,
in whatever way its command line is read.
From what it writes, as a listing or as JSON, the accepted automata can be read, each one and in
their order, and the complaints are two lines for each refusal.  So what is answered to two texts is
the same in either style just if the same automata are accepted. -/
theorem answers_decode :
    ∃ output : Style → String → Output,
      (∀ (understand : List String → Except CommandLine.UsageError CommandLine.Invocation)
        (args : List String) (style : Style) (source : CommandLine.Source)
        (read? : String → Option String) (given text : String),
        understand args = .ok (.session style true source) →
        source.text? read? given = some text →
        CommandLine.runWith understand args read? given = .ok (.finished (output style text))) ∧
      (∀ text, Tells text (output .listing text) (output .json text)) ∧
      ∀ x y,
        ((output .listing x).answers = (output .listing y).answers ↔ accepted x = accepted y) ∧
        ((output .json x).answers = (output .json y).answers ↔ accepted x = accepted y) := by
  choose answer hanswer using exists_answers
  have hwrites : ∀ style text,
      Writes style text (join ((requests text.toList).map (answer style))) :=
    fun style text => toList_join (fun line => (hanswer style line).2) _
  refine ⟨fun style text => join ((requests text.toList).map (answer style)), ?_, ?_, ?_⟩
  · intro understand args style source read? given text hargs htext
    exact CommandLine.runWith_of_text? hargs htext
      (run_eq_ok (fun line => (hanswer style line).1) text.toList)
  · exact fun text => (hwrites .listing text).tells (hwrites .json text)
  · intro x y
    exact ⟨(hwrites .listing x).answers_eq_iff (hwrites .listing y),
      (hwrites .json x).answers_eq_iff (hwrites .json y)⟩

/-- Two texts with one automaton between them, and a third one with another. -/
theorem answers_decode_one :
    ∃ output : Style → String → Output,
      CommandLine.run ["-q"] (fun _ => none) "a\n)\n" =
        .ok (.finished (output .listing "a\n)\n")) ∧
      CommandLine.run ["--json", "-q"] (fun _ => none) "(a)\r:q\nb" =
        .ok (.finished (output .json "(a)\r:q\nb")) ∧
      (output .listing "a\n)\n").answers = (output .listing "(a)\r:q\nb").answers ∧
      (output .json "a\n)\n").answers = (output .json "(a)\r:q\nb").answers ∧
      (output .json "a\n)\n").answers ≠ (output .json "b").answers ∧
      (Text.lines (output .listing "a\n)\n").complaints.toList).length = 2 := by
  obtain ⟨output, hrun, htells, hsame⟩ := answers_decode
  have heq : accepted "a\n)\n" = accepted "(a)\r:q\nb" := by decide +kernel
  have hne : accepted "a\n)\n" ≠ accepted "b" := by decide +kernel
  have hone : (rejected "a\n)\n").length = 1 := by decide +kernel
  refine ⟨output, ?_, ?_, ?_, ?_, ?_, ?_⟩
  · exact hrun CommandLine.parse ["-q"] .listing .standardInput _ _ _ rfl rfl
  · exact hrun CommandLine.parse ["--json", "-q"] .json .standardInput _ _ _ rfl rfl
  · exact (hsame _ _).1.mpr heq
  · exact (hsame _ _).2.mpr heq
  · exact fun h => hne ((hsame _ _).2.mp h)
  · rw [((htells _).complaints _ List.mem_cons_self).2.2, hone]

end Session

end RegexCompiler
