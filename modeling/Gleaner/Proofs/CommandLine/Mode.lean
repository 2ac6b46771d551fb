import Mathlib
import Gleaner.CommandLine.Run
import Gleaner.Proofs.Search.Trace
/-!
# The modes of `find`

Texts, their number and a trace are three searches of a document, and each prints in its own order:
the first two when the search is over, the last while it goes on. Where the files can be used at all
the modes end alike, with one number or with one error, and what the trace has printed by then are
the places that the search has reached (`run_modes_agree`). Printed texts hold no line breaks, so
lines can be counted.
-/
namespace Gleaner

theorem Json.hexChar_ne_newline : ∀ n < 16, Json.hexChar n ≠ '\n' := by decide

theorem Json.newline_not_mem_escape (c : Char) : '\n' ∉ Json.escape c := by
  unfold Json.escape
  split_ifs with _ _ _ _ hnewline _ _ hcontrol
  any_goals decide
  · have hhigh := Json.hexChar_ne_newline (c.toNat / 16) (by omega)
    have hlow := Json.hexChar_ne_newline (c.toNat % 16) (by omega)
    simp [hhigh.symm, hlow.symm]
  · simpa using Ne.symm hnewline

theorem Json.newline_not_mem_quote (s : String) : '\n' ∉ (Json.quote s).toList := by
  rw [Json.quote, String.toList_ofList]
  simp [Json.newline_not_mem_escape]

namespace CommandLine

theorem not_mem_digits {c : Char} (h : c.isDigit = false) (n : Nat) : c ∉ Nat.toDigits 10 n := by
  intro hmem
  have hdigit : c.isDigit = true := Nat.isDigit_of_mem_toDigits (by decide) (by decide) hmem
  rw [hdigit] at h
  cases h

theorem newline_not_mem_describe (o : Outcome) : '\n' ∉ (describe o).toList := by
  cases o with
  | descended children =>
    have hdigits : '\n' ∉ Nat.toDigits 10 children := not_mem_digits (by decide) children
    simp [describe, hdigits]
    decide
  | _ => decide

theorem newline_not_mem_stepLine (s : Step) : '\n' ∉ (stepLine s).toList := by
  have hname : '\n' ∉ s.kind.name.toList := by cases s.kind <;> decide
  have hdigits : '\n' ∉ Nat.toDigits 10 s.ordinal := not_mem_digits (by decide) s.ordinal
  simp [stepLine, numbered, hdigits, hname, newline_not_mem_describe]

def matchedLine (k : Nat) : String := toString k ++ " matched"

theorem newline_not_mem_matchedLine (k : Nat) : '\n' ∉ (matchedLine k).toList := by
  have hdigits : '\n' ∉ Nat.toDigits 10 k := not_mem_digits (by decide) k
  simp [matchedLine, hdigits]

/-- The line after a trace has one blank, and the line of a visit has more. -/
theorem stepLine_ne_matchedLine (s : Step) (k : Nat) : stepLine s ≠ matchedLine k := by
  intro hline
  have hstep : 2 ≤ (stepLine s).toList.count ' ' := by
    simp [stepLine]
    omega
  have hdigits : (Nat.toDigits 10 k).count ' ' = 0 :=
    List.count_eq_zero_of_not_mem (not_mem_digits (by decide) k)
  have hmatched : (matchedLine k).toList.count ' ' = 1 := by simp [matchedLine, hdigits]
  rw [hline, hmatched] at hstep
  omega

def visitLines (q : Query) (places : List Place) : List String :=
  places.mapIdx fun i p => stepLine (q.step i p)

theorem exists_step_of_mem_visitLines {q : Query} {places : List Place} {line : String}
    (h : line ∈ visitLines q places) : ∃ s, line = stepLine s := by
  obtain ⟨i, hi, rfl⟩ := List.mem_mapIdx.mp h
  exact ⟨q.step i places[i], rfl⟩

theorem newline_not_mem_visitLines {q : Query} {places : List Place} {line : String}
    (h : line ∈ visitLines q places) : '\n' ∉ line.toList := by
  obtain ⟨s, rfl⟩ := exists_step_of_mem_visitLines h
  exact newline_not_mem_stepLine s

theorem steps_map_stepLine (f : Finder) (root : Node) :
    (f.trace root).steps.map stepLine = visitLines f.query (f.query.reached root.preorder) := by
  simp [Finder.trace_steps, visitLines, List.mapIdx_eq_zipIdx_map]

/-- What a search that gives texts prints. -/
def printed (q : Query) (root : Node) (texts : List String) : FindMode → List String
  | .values => texts.map Json.quote
  | .count => [toString texts.length]
  | .trace => visitLines q root.preorder ++ [matchedLine texts.length]

/-- What a search that fails has printed when it has reached the given places. -/
def printedBefore (q : Query) (reached : List Place) : FindMode → List String
  | .values => []
  | .count => []
  | .trace => visitLines q reached

theorem newline_not_mem_quoted {texts : List String} {line : String}
    (h : line ∈ texts.map Json.quote) : '\n' ∉ line.toList := by
  obtain ⟨text, _, rfl⟩ := List.mem_map.mp h
  exact Json.newline_not_mem_quote text

theorem newline_not_mem_printed {q : Query} {root : Node} {texts : List String} {mode : FindMode}
    {line : String} (h : line ∈ printed q root texts mode) : '\n' ∉ line.toList := by
  cases mode with
  | values => exact newline_not_mem_quoted h
  | count =>
    obtain rfl := List.mem_singleton.mp h
    have hdigits : '\n' ∉ Nat.toDigits 10 texts.length := not_mem_digits (by decide) _
    simpa using hdigits
  | trace =>
    rcases List.mem_append.mp h with hstep | hlast
    · exact newline_not_mem_visitLines hstep
    · obtain rfl := List.mem_singleton.mp hlast
      exact newline_not_mem_matchedLine texts.length

theorem newline_not_mem_printedBefore {q : Query} {reached : List Place} {mode : FindMode}
    {line : String} (h : line ∈ printedBefore q reached mode) : '\n' ∉ line.toList := by
  cases mode with
  | values => cases h
  | count => cases h
  | trace => exact newline_not_mem_visitLines h

section Search

variable {f : Finder} {root : Node}

theorem search_of_texts {texts : List String} (h : f.query.answer root = .ok texts)
    (mode : FindMode) : search mode f root = ⟨printed f.query root texts mode, none⟩ := by
  have hreached : f.query.reached root.preorder = root.preorder :=
    Query.reached_of_answer (List.findSome?_eq_none_iff.mpr (Query.answerOf_isOk.mp ⟨texts, h⟩))
  cases mode with
  | values => simp only [search, Finder.find_eq_report, Finder.report_eq, h, printed]
  | count => simp only [search, Finder.count_eq, h, Except.map, printed]
  | trace =>
    simp only [search, Finder.trace_result, steps_map_stepLine, h, hreached, printed, matchedLine]

theorem search_of_error {error : FindError} (h : f.query.answer root = .error error)
    (mode : FindMode) : search mode f root =
      ⟨printedBefore f.query (f.query.reached root.preorder) mode, some (.search error)⟩ := by
  cases mode with
  | values => simp only [search, Finder.find_eq_report, Finder.report_eq, h, printedBefore]
  | count => simp only [search, Finder.count_eq, h, Except.map, printedBefore]
  | trace => simp only [search, Finder.trace_result, steps_map_stepLine, h, printedBefore]

end Search

/-- The files hold a schema that loads and has the type, and a document that can be read. -/
def Files.Loads (files : Files) (args : FindArguments) (f : Finder) (root : Node) : Prop :=
  ∃ config schema, files.schema args.schema = .ok config ∧
    registry.loadSchema config = .ok schema ∧ schema.require args.typeName = .ok f ∧
    files.document args.document = .ok root

section Run

variable {files : Files} {args : FindArguments} {f : Finder} {root : Node}

theorem find_of_loads (h : files.Loads args f root) :
    find files args = search args.mode f root := by
  obtain ⟨config, schema, hconfig, hschema, hfinder, hroot⟩ := h
  simp only [find, hconfig, hschema, hfinder, hroot]

theorem run_of_loads (hloads : files.Loads args f root) {arguments : List String} {mode : FindMode}
    (hparse : Command.parse arguments = .ok (.find { args with mode := mode })) :
    run files arguments = (search mode f root).result := by
  have hfind : find files { args with mode := mode } = search mode f root := find_of_loads hloads
  simp only [run, hparse, hfind]

/-- The three modes of `find` agree on files that load. Either the texts are printed one a line, as
many as the number that is printed and as the trace ends with after a line for each node of the
document in pre-order; or there is an error, the same for all three, and only the trace has printed
anything, which is a line for each node as far as the failing one and no number. -/
theorem run_modes_agree (hloads : files.Loads args f root) {arguments : FindMode → List String}
    (hparse : ∀ mode, Command.parse (arguments mode) = .ok (.find { args with mode := mode })) :
    (∀ mode, ∀ line ∈ (run files (arguments mode)).output, '\n' ∉ line.toList) ∧
    ((∃ texts, f.find root = .ok texts ∧
      run files (arguments .values) = ⟨0, texts.map Json.quote, []⟩ ∧
      run files (arguments .count) = ⟨0, [toString texts.length], []⟩ ∧
      run files (arguments .trace) =
        ⟨0, visitLines f.query root.preorder ++ [matchedLine texts.length], []⟩) ∨
    ∃ error front p back, f.find root = .error error ∧ root.preorder = front ++ p :: back ∧
      (∀ x ∈ front, f.query.failure? x = none) ∧ f.query.failure? p = some error ∧
      run files (arguments .values) = ⟨1, [], ["error: " ++ error.message]⟩ ∧
      run files (arguments .count) = ⟨1, [], ["error: " ++ error.message]⟩ ∧
      run files (arguments .trace) =
        ⟨1, visitLines f.query (front ++ [p]), ["error: " ++ error.message]⟩ ∧
      ∀ k, matchedLine k ∉ (run files (arguments .trace)).output) := by
  have hrun := fun mode => run_of_loads hloads (hparse mode)
  have hfind : f.find root = f.query.answer root := by rw [Finder.find_eq_report, Finder.report_eq]
  cases hanswer : f.query.answer root with
  | ok texts =>
    have hresult : ∀ mode,
        run files (arguments mode) = ⟨0, printed f.query root texts mode, []⟩ := by
      intro mode
      rw [hrun, search_of_texts hanswer]
      rfl
    refine ⟨fun mode line hline => ?_, .inl ⟨texts, hfind.trans hanswer, ?_⟩⟩
    · rw [hresult] at hline
      exact newline_not_mem_printed hline
    · exact ⟨hresult .values, hresult .count, hresult .trace⟩
  | error error =>
    obtain ⟨front, p, back, hplaces, hreached, hfront, hp⟩ :=
      Query.reached_of_failure (Query.answerOf_eq_error.mp hanswer)
    have hresult : ∀ mode, run files (arguments mode) =
        ⟨1, printedBefore f.query (front ++ [p]) mode, ["error: " ++ error.message]⟩ := by
      intro mode
      rw [hrun, search_of_error hanswer, hreached]
      rfl
    refine ⟨fun mode line hline => ?_,
      .inr ⟨error, front, p, back, hfind.trans hanswer, hplaces, hfront, hp, ?_⟩⟩
    · rw [hresult] at hline
      exact newline_not_mem_printedBefore hline
    · refine ⟨hresult .values, hresult .count, hresult .trace, fun k hk => ?_⟩
      rw [hresult] at hk
      obtain ⟨s, hs⟩ := exists_step_of_mem_visitLines hk
      exact stepLine_ne_matchedLine s k hs.symm

end Run

/-- A list in which one text has the wanted front and another has not. -/
theorem run_modes_agree_prefix :
    let files : Files := fun path =>
      if path = "s.json" then
        .ok "\x7b\"types\": [\x7b\"name\": \"t\", \"constraint\":
          \x7b\"type\": \"match\", \"value_match\": \x7b\"prefix\": \"a\"\x7d\x7d\x7d]\x7d"
      else .ok "[\"a1\", 2, \"b\"]"
    let arguments : FindMode → List String
      | .values => ["find", "s.json", "t", "d.json"]
      | .count => ["find", "--count", "s.json", "t", "d.json"]
      | .trace => ["find", "s.json", "t", "d.json", "--trace"]
    let args : FindArguments := ⟨"s.json", "t", "d.json", .values⟩
    let f : Finder := ⟨.named "t" (.ofCheck (Matcher.literal .leading "a" false).check), 512⟩
    let root : Node :=
      .container .list [(none, .text "a1"), (none, .scalar (.int 2)), (none, .text "b")]
    files.Loads args f root ∧
      (∀ mode, Command.parse (arguments mode) = .ok (.find { args with mode := mode })) ∧
      run files (arguments .values) = ⟨0, ["\"a1\""], []⟩ ∧
      run files (arguments .count) = ⟨0, ["1"], []⟩ ∧
      run files (arguments .trace) = ⟨0, ["     0 list descended (3)", "     1   string matched",
        "     2   int not text", "     3   string rejected", "1 matched"], []⟩ := by
  intro files arguments args f root
  have hparse : ∀ mode,
      Command.parse (arguments mode) = .ok (.find { args with mode := mode }) := by
    intro mode
    cases mode <;> cbv
  -- Both files hold JSON, and are read for what they hold before anything is searched.
  let config : SchemaConfig := ⟨none, [⟨"t", .matching ⟨.literal .leading, "a"⟩⟩]⟩
  have hconfig : files.schema args.schema = .ok config := by cbv
  have hroot : files.document args.document = .ok root := by cbv
  have hschema : ∃ schema, registry.loadSchema config = .ok schema ∧
      schema.require args.typeName = .ok f := ⟨_, rfl, rfl⟩
  obtain ⟨schema, hschema, hrequire⟩ := hschema
  have hloads : files.Loads args f root := ⟨config, schema, hconfig, hschema, hrequire, hroot⟩
  have hfind : f.find root = .ok ["a1"] := by
    rw [Finder.find_eq_report, Finder.report_eq]
    rfl
  have hlines : visitLines f.query root.preorder = ["     0 list descended (3)",
      "     1   string matched", "     2   int not text", "     3   string rejected"] := by cbv
  refine ⟨hloads, hparse, ?_⟩
  rcases (run_modes_agree hloads hparse).2 with
    ⟨texts, htexts, hvalues, hcount, htrace⟩ | ⟨error, _, _, _, herror, _⟩
  · obtain rfl : texts = ["a1"] := Except.ok.inj (htexts.symm.trans hfind)
    rw [hlines] at htrace
    exact ⟨hvalues, hcount, htrace⟩
  · cases herror.symm.trans hfind

end CommandLine

end Gleaner
