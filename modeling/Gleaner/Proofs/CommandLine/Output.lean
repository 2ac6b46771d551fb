import Gleaner.Proofs.CommandLine.Mode
import Gleaner.Proofs.Json.Quotation
/-!
# Reading the output of `find`

The texts that are found are printed as quoted texts, one a line. A quoted text has no line break in
it, so the output can be cut into its lines again, and each line read as JSON is its text. What is
printed therefore tells which texts were found (`run_values_decodes`).
-/
namespace Gleaner.CommandLine

theorem toList_unlines (lines : List String) :
    (unlines lines).toList = ['\n'].intercalate (lines.map String.toList ++ [[]]) := by
  induction lines with
  | nil => rfl
  | cons line rest ih =>
    have hne : rest.map String.toList ++ [[]] ≠ [] := List.append_ne_nil_of_right_ne_nil _ nofun
    rw [unlines, List.map_cons, String.join_cons, String.toList_append, String.toList_append,
      ← unlines, ih, List.map_cons, List.cons_append, List.intercalate_cons_of_ne_nil hne]
    rfl

/-- Lines without line breaks in them are what lies between the line breaks of their text, with
nothing after the last. -/
theorem splitOn_unlines {lines : List String} (h : ∀ line ∈ lines, '\n' ∉ line.toList) :
    (unlines lines).toList.splitOn '\n' = lines.map String.toList ++ [[]] := by
  rw [toList_unlines]
  refine List.splitOn_intercalate '\n' ?_ (List.append_ne_nil_of_right_ne_nil _ nofun)
  simpa [or_imp, forall_and] using h

theorem unlines_inj {lines others : List String} (hlines : ∀ line ∈ lines, '\n' ∉ line.toList)
    (hothers : ∀ line ∈ others, '\n' ∉ line.toList) (h : unlines lines = unlines others) :
    lines = others := by
  have hsplit := splitOn_unlines hlines
  rw [h, splitOn_unlines hothers, List.append_left_inj] at hsplit
  exact (List.map_injective_iff.mpr (fun _ _ => String.toList_injective) hsplit).symm

/-- The program is asked for the texts that a document holds, and these are what its search finds.
-/
def Files.FindTexts (files : Files) (arguments texts : List String) : Prop :=
  ∃ args f root, Command.parse arguments = .ok (.find args) ∧ args.mode = .values ∧
    files.Loads args f root ∧ f.find root = .ok texts

variable {files : Files} {arguments texts : List String}

theorem run_of_findTexts (h : files.FindTexts arguments texts) :
    run files arguments = ⟨0, texts.map Json.quote, []⟩ := by
  obtain ⟨args, f, root, hparse, hmode, hloads, hfind⟩ := h
  rw [Finder.find_eq_report, Finder.report_eq] at hfind
  have hparse : Command.parse arguments = .ok (.find { args with mode := .values }) := by
    rw [hparse, ← hmode]
  rw [run_of_loads hloads hparse, search_of_texts hfind]
  rfl

/-- The texts that are found can be read off what is printed. It is as many lines as there are
texts, each ended by a line break and without one inside, and each is JSON for the node that its
text is. So where other texts are found, something else is printed. -/
theorem run_values_decodes (h : files.FindTexts arguments texts) :
    (run files arguments).exit = 0 ∧
    (∃ lines : List String, lines.length = texts.length ∧
      (unlines (run files arguments).output).toList.splitOn '\n' =
        lines.map String.toList ++ [[]] ∧
      (∀ line ∈ lines, '\n' ∉ line.toList) ∧
      lines.map (fun line => (Json.read? line).map Json.toNode) = texts.map (some ∘ Node.text)) ∧
    ∀ {files' : Files} {arguments' texts' : List String}, files'.FindTexts arguments' texts' →
      texts' ≠ texts →
        unlines (run files' arguments').output ≠ unlines (run files arguments).output := by
  rw [run_of_findTexts h]
  refine ⟨rfl, ⟨texts.map Json.quote, List.length_map _, ?_, fun _ => newline_not_mem_quoted, ?_⟩,
    ?_⟩
  · exact splitOn_unlines fun _ => newline_not_mem_quoted
  · rw [List.map_map]
    exact List.map_congr_left fun text _ => Json.toNode_of_quote text
  · intro files' arguments' texts' h' hne hsame
    rw [run_of_findTexts h'] at hsame
    refine hne (List.map_injective_iff.mpr Json.quote_injective ?_)
    exact unlines_inj (fun _ => newline_not_mem_quoted) (fun _ => newline_not_mem_quoted) hsame

/-- A text with a quote, a backslash, a line break and a control character in it. -/
theorem run_values_decodes_escapes :
    let files : Files := fun path =>
      if path = "s.json" then
        .ok "\x7b\"types\": [\x7b\"name\": \"t\", \"constraint\":
          \x7b\"type\": \"match\", \"value_match\": \x7b\"prefix\": \"a\"\x7d\x7d\x7d]\x7d"
      else .ok "[\"a\\\"\\\\\\n\\u0001\", \"b\"]"
    let arguments := ["find", "s.json", "t", "d.json"]
    files.FindTexts arguments ["a\"\\\n\x01"] ∧
      ∃ line, (unlines (run files arguments).output).toList.splitOn '\n' = [line.toList, []] ∧
        '\n' ∉ line.toList ∧ (Json.read? line).map Json.toNode = some (.text "a\"\\\n\x01") := by
  intro files arguments
  let args : FindArguments := ⟨"s.json", "t", "d.json", .values⟩
  let f : Finder := ⟨.named "t" (.ofCheck (Matcher.literal .leading "a" false).check), 512⟩
  let root : Node := .container .list [(none, .text "a\"\\\n\x01"), (none, .text "b")]
  let config : SchemaConfig := ⟨none, [⟨"t", .matching ⟨.literal .leading, "a"⟩⟩]⟩
  have hparse : Command.parse arguments = .ok (.find args) := by cbv
  have hconfig : files.schema args.schema = .ok config := by cbv
  have hroot : files.document args.document = .ok root := by cbv
  have hschema : ∃ schema, registry.loadSchema config = .ok schema ∧
      schema.require args.typeName = .ok f := ⟨_, rfl, rfl⟩
  obtain ⟨schema, hschema, hrequire⟩ := hschema
  have hloads : files.Loads args f root := ⟨config, schema, hconfig, hschema, hrequire, hroot⟩
  have hfind : f.find root = .ok ["a\"\\\n\x01"] := by
    rw [Finder.find_eq_report, Finder.report_eq]
    rfl
  have hfinds : files.FindTexts arguments ["a\"\\\n\x01"] :=
    ⟨args, f, root, hparse, rfl, hloads, hfind⟩
  obtain ⟨_, ⟨lines, hlength, hsplit, hlines, hread⟩, _⟩ := run_values_decodes hfinds
  obtain ⟨line, rfl⟩ := List.length_eq_one_iff.mp hlength
  exact ⟨hfinds, line, hsplit, hlines line List.mem_cons_self, (List.cons.inj hread).1⟩

end Gleaner.CommandLine
