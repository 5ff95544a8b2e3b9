import Sheetflow.Configuration.Document
import Sheetflow.Proofs.Rule.Written
import Sheetflow.Proofs.Text.Trim

/-!
# Exported documents

What a configuration exports is a document that reads as the same configuration
(`parse_exported`).  The shape of the document is right because the ids of the rules and the name
were not blank when they were read (`problems_exported`); its parts are restored by
their readers.
-/

namespace Sheetflow

open Sheetflow.Field Checked

theorem Csv.Encoding.read_name (e : Csv.Encoding) :
    Field.word all name (.str e.name) = .valid e := by
  cases e <;> rfl

namespace OutputFormat

theorem delimiter_ne_empty {v : Value} {f : OutputFormat} (h : read v = .valid f) :
    f.delimiter ≠ "" := by
  obtain ⟨es, rfl, hes⟩ := exists_of_model h
  simp only [apply_valid_iff, map_valid_iff] at hes
  obtain ⟨_, _, ⟨_, _, ⟨_, delimiter, ⟨-, -, rfl⟩, hdelimiter, rfl⟩, -, rfl⟩, -, rfl⟩ := hes
  rcases exists_of_withDefault hdelimiter with rfl | ⟨_, hv⟩
  · exact show "," ≠ "" by decide
  · exact ne_empty_of_textOfLength hv

theorem restores_read : Restores read dump := by
  intro v f h
  rw [dump, Value.record, read, model,
    withDefault_record (by simp [Table.get?_cons])
      (show word [()] (fun _ => "CSV") (.str "CSV") = .valid () from rfl),
    withDefault_record (by simp [Table.get?_cons]) (textOfLength_of_ne_empty (delimiter_ne_empty h)),
    withDefault_record (by simp [Table.get?_cons]) f.encoding.read_name,
    withDefault_record (by simp [Table.get?_cons])
      (show boolean (.bool f.includeHeaders) = _ from rfl)]
  rfl

end OutputFormat

/-! ### The entries of an exported configuration -/

namespace Configuration
variable (c : Configuration)

theorem exported_name : c.exported.get? "name" = some (.str c.name) := by
  rw [exported, Value.get?_record]
  simp [Table.get?_cons]

theorem exported_description : c.exported.get? "description" = c.description.map .str := by
  rw [exported, Value.get?_record]
  simp [Table.get?_cons, written]

theorem exported_rules : c.exported.get? "rules" = some (.list (c.rules.map (Rule.dump false))) := by
  rw [exported, Value.get?_record]
  simp [Table.get?_cons]

theorem exported_outputFormat : c.exported.get? "outputFormat" = some c.output.dump := by
  rw [exported, Value.get?_record]
  simp [Table.get?_cons]

end Configuration

namespace Document
variable {target : Target} {doc : Value} {c : Configuration}

/-- **When a document reads as a configuration.** -/
theorem parse_eq_ok_iff :
    parse target doc = .ok c ↔ problems doc = [] ∧
      Rule.readAll ((doc.get? "rules").getD .null) = .valid c.rules ∧
      OutputFormat.read ((doc.get? "outputFormat").getD .null) = .valid c.output ∧
      repeated (c.rules.map Rule.id) = [] ∧ build target doc c.rules c.output = c := by
  constructor
  · intro h
    unfold parse at h
    split at h
    · cases h
    · rename_i hproblems
      split at h
      · cases h
      · rename_i rules hrules
        split at h
        · cases h
        · rename_i output houtput
          split at h
          · rename_i hrepeated
            cases h
            exact ⟨hproblems, hrules, houtput, hrepeated, rfl⟩
          · cases h
  · rintro ⟨hproblems, hrules, houtput, hrepeated, hbuild⟩
    simp only [parse, hproblems, hrules, houtput, hrepeated, hbuild]

/-! ### The shape of documents -/

theorem exists_of_isFilledText {v : Option Value} (h : isFilledText v = true) :
    ∃ s, v = some (.str s) ∧ Text.isBlankText s = false := by
  unfold isFilledText at h
  split at h
  · rename_i s
    exact ⟨s, rfl, by simpa using h⟩
  · cases h

/-- A rule of the right shape does not have a blank id. -/
theorem isBlankText_id {i : Nat} {rule : Value} {r : Rule} (h : ruleProblems i rule = [])
    (hr : Rule.read rule = .valid r) : Text.isBlankText r.id = false := by
  obtain ⟨es, tag, reader, params, rfl, -, -, -, hid⟩ := Rule.exists_of_read hr
  have hfilled : isFilledText (Value.entry? "id" es) = true := by
    by_contra hne
    simp [ruleProblems, hne] at h
  obtain ⟨s, hs, hblank⟩ := exists_of_isFilledText hfilled
  simp only [required, present?, hs, under_valid_iff] at hid
  obtain ⟨t, ht, hlen⟩ := andThen_valid_iff.mp hid
  cases ht
  split at hlen
  · cases hlen
  · cases hlen
    exact hblank

/-- A written rule has the right shape, unless its id is blank. -/
theorem ruleProblems_dump (i : Nat) {r : Rule} (h : Text.isBlankText r.id = false) :
    ruleProblems i (r.dump false) = [] := by
  have hid : isFilledText (some (.str r.id)) = true := by simp [isFilledText, h]
  have htag : ∀ place, tagProblems place (some (.str r.action.tag)) = [] := by
    intro place
    cases r.action <;> simp [tagProblems, Action.tag, Action.tags] <;> decide
  have hparams : isMapEntry (some (r.action.dump false)) = true := by
    cases r.action with
    | deleteRows rows => cases rows <;> rfl
    | _ => rfl
  rw [Rule.dump, Value.record, ruleProblems]
  simp only [Value.entry?_record]
  simp [Table.get?_cons, hid, htag, hparams]

/-- No rule of a document of the right shape has a blank id. -/
theorem isBlankText_id_of_mem {ruleList : Option Value} {rules : List Rule}
    (h : ruleListProblems ruleList = []) (hr : Rule.readAll (ruleList.getD .null) = .valid rules) :
    ∀ r ∈ rules, Text.isBlankText r.id = false := by
  unfold ruleListProblems at h
  split at h
  · rename_i raw
    intro r hmem
    obtain ⟨rule, hrule, hread⟩ := mem_of_allFrom hr r hmem
    obtain ⟨i, hi⟩ := List.mem_iff_getElem?.mp hrule
    have hzip : (rule, i) ∈ raw.zipIdx := List.mem_zipIdx_iff_getElem?.mpr hi
    exact isBlankText_id (List.flatMap_eq_nil_iff.mp h _ hzip) hread
  · cases h

theorem ruleListProblems_dump {rules : List Rule}
    (h : ∀ r ∈ rules, Text.isBlankText r.id = false) :
    ruleListProblems (some (.list (rules.map (Rule.dump false)))) = [] := by
  refine List.flatMap_eq_nil_iff.mpr ?_
  rintro ⟨rule, i⟩ hmem
  obtain ⟨r, hr, rfl⟩ := List.mem_map.mp (List.mem_of_getElem? (List.mem_zipIdx_iff_getElem?.mp hmem))
  exact ruleProblems_dump i (h r hr)

/-- What the shape of a document says of its entries. -/
theorem problems_eq_nil_iff :
    problems doc = [] ↔ doc.isMap = true ∧ isFilledText (doc.get? "name") = true ∧
      descriptionProblems (doc.get? "description") = [] ∧ ruleListProblems (doc.get? "rules") = [] ∧
      isDelimitedFormat (doc.get? "outputFormat") = true := by
  cases doc with
  | map es => simp [problems, Value.isMap, Value.get?]
  | _ => simp [problems, Value.isMap]

theorem problems_exported (hname : Text.isBlankText c.name = false)
    (hids : ∀ r ∈ c.rules, Text.isBlankText r.id = false) : problems c.exported = [] := by
  rw [problems_eq_nil_iff, c.exported_name, c.exported_description, c.exported_rules,
    c.exported_outputFormat]
  refine ⟨rfl, by simp [isFilledText, hname], ?_, ruleListProblems_dump hids, rfl⟩
  cases c.description <;> rfl

/-- The name of a configuration that was read is trimmed, and not blank. -/
theorem name_of_parse (h : parse target doc = .ok c) :
    Text.trim c.name = c.name ∧ Text.isBlankText c.name = false := by
  obtain ⟨hproblems, -, -, -, hbuild⟩ := parse_eq_ok_iff.mp h
  obtain ⟨-, hfilled, -⟩ := problems_eq_nil_iff.mp hproblems
  obtain ⟨s, hs, hblank⟩ := exists_of_isFilledText hfilled
  have hname : c.name = Text.trim s := by
    rw [← hbuild]
    simp only [build, hs, Option.getD_some]
  rw [hname, Text.trim_trim, Text.isBlankText_trim]
  exact ⟨rfl, hblank⟩

theorem build_exported (hname : Text.trim c.name = c.name)
    (hbuild : build target doc c.rules c.output = c) :
    build target c.exported c.rules c.output = c := by
  calc build target c.exported c.rules c.output
      = { build target doc c.rules c.output with
          name := Text.trim c.name, description := c.description } := by
        simp only [build, c.exported_name, c.exported_description, Option.getD_some]
        cases c.description <;> rfl
    _ = c := by rw [hbuild, hname]

/-- **What a configuration exports reads as the same configuration**, under whatever names its
parameters were given when it was read first; so exporting once more gives the same document. -/
theorem parse_exported (h : parse target doc = .ok c) :
    parse target c.exported = .ok c ∧
      (parse target c.exported).map Configuration.exported = .ok c.exported := by
  obtain ⟨hproblems, hrules, houtput, hrepeated, hbuild⟩ := parse_eq_ok_iff.mp h
  obtain ⟨hname, hblank⟩ := name_of_parse h
  have hshape : problems c.exported = [] :=
    problems_exported hblank (isBlankText_id_of_mem (problems_eq_nil_iff.mp hproblems).2.2.2.1 hrules)
  have hparse : parse target c.exported = .ok c := by
    refine parse_eq_ok_iff.mpr ⟨hshape, ?_, ?_, hrepeated, build_exported hname hbuild⟩
    · rw [c.exported_rules]
      exact restores_list (Rule.restores_read false) hrules
    · rw [c.exported_outputFormat]
      exact OutputFormat.restores_read houtput
  exact ⟨hparse, by rw [hparse]; rfl⟩

/-- A document that mixes current, older and plain names reads as a configuration with all eight kinds
of rules, and so does what that configuration exports. -/
theorem parse_exported_mixed_names :
    let rule (id tag : String) (params : List (String × Value)) : Value :=
      .record [("id", .str id), ("type", .str tag), ("params", .record params)]
    let doc : Value := .record [("name", .str " Cleanup\n"), ("description", .null),
      ("rules", .list
        [rule "a" "SELECT_WORKSHEET" [("type", .str "name"), ("value", .str "Data")],
          rule "b" "VALIDATE_COLUMNS"
            [("numOfColumns", .float (.ofInt 3)), ("on_failure", .str "stop")],
          rule "c" "UNMERGE_AND_FILL" [("columns", Value.texts ["A"]), ("fillDirection", .str "up")],
          rule "d" "DELETE_ROWS" [("condition", .record [("type", .str "empty")]),
            ("rows", .list [.int 2])],
          rule "e" "DELETE_COLUMNS" [("columns", .list [])],
          rule "f" "COMBINE_WORKSHEETS" [("source_sheets", Value.texts ["B"]),
            ("operation", .str "merge")],
          rule "g" "EVALUATE_FORMULAS" [("enabled", .str "No")],
          rule "h" "REPLACE_CHARACTERS" [("replacements", .list [.record [("find", .str "x"),
            ("scope", .str "specific_rows"), ("rows", .list [.int 1])]])]]),
      ("outputFormat", .record [("type", .str "CSV"), ("include_headers", .int 0)])]
    let target : Target := ⟨"org", "cfg_1", 3⟩
    let c : Configuration :=
      { id := "cfg_1", organization := "org", name := "Cleanup", description := none
        rules := [⟨"a", .selectWorksheet .name "Data"⟩, ⟨"b", .validateColumns 3 .stop⟩,
          ⟨"c", .unmergeAndFill ["A"] .up⟩,
          ⟨"d", .deleteRows (.byCondition ⟨.blank none, none⟩ (some [2]))⟩, ⟨"e", .deleteColumns []⟩,
          ⟨"f", .combineWorksheets ["B"] .merge⟩, ⟨"g", .evaluateFormulas false⟩,
          ⟨"h", .replaceCharacters [⟨"x", "", .rows, none, some [1]⟩]⟩]
        output := ⟨",", .utf8, false⟩, version := 3, active := true
        createdAt := none, updatedAt := none }
    parse target doc = .ok c ∧ parse target c.exported = .ok c := by
  intro rule doc target c
  have h : parse target doc = .ok c := by decide +kernel
  exact ⟨h, (parse_exported h).1⟩

end Document

end Sheetflow
