import Mathlib.Data.List.Nodup
import Sheetflow.Proofs.Configuration.Export
import Sheetflow.Proofs.Field.Reasons
import Sheetflow.Proofs.Rule.Ready

/-!
# Documents as a gate

Reading a document ends in one of two ways (`parse_accepts_or_explains`): with a configuration whose
rules correspond to those of the document and are ready to be applied, or with at least one message.

The first stage looks at the shape only, so what it lets through may still be refused by the readers of
rules and of the format, and by the comparison of ids.  Each stage gives its reasons; what the stages
say of an accepted document is put together rule by rule.
-/

namespace Sheetflow

open Sheetflow.Field Checked

/-- A rule was read from a map that has its id, the tag of its action and the parameters of it. -/
def Rule.ReadFrom (v : Value) (r : Rule) : Prop :=
  ∃ es params, v = .map es ∧ Value.entry? "id" es = some (.str r.id) ∧
    Value.entry? "type" es = some (.str r.action.tag) ∧
    Value.entry? "params" es = some (.map params) ∧ r.action.ReadFrom params

namespace Document
variable {target : Target} {doc : Value} {c : Configuration}

/-! ### Rules -/

/-- The entries that the shape of a rule asks for. -/
theorem entries_of_ruleProblems {i : Nat} {es : List (Value × Value)}
    (h : ruleProblems i (.map es) = []) :
    isFilledText (Value.entry? "id" es) = true ∧ ∃ ps, Value.entry? "params" es = some (.map ps) := by
  simp only [ruleProblems, List.append_eq_nil_iff, ite_eq_left_iff, List.cons_ne_self,
    imp_false, Bool.not_eq_true, Bool.not_eq_false] at h
  obtain ⟨⟨hid, -⟩, hparams⟩ := h
  refine ⟨hid, ?_⟩
  cases hv : Value.entry? "params" es with
  | none => simp [hv, isMapEntry] at hparams
  | some v =>
    cases v with
    | map ps => exact ⟨ps, rfl⟩
    | _ => simp [hv, isMapEntry, Value.isMap] at hparams

/-- A rule of the right shape was read from the entries that the shape asks for, and its action is
ready. -/
theorem readFrom_of_ruleProblems {i : Nat} {v : Value} {r : Rule} (h : ruleProblems i v = [])
    (hr : Rule.read v = .valid r) : r.ReadFrom v ∧ r.action.Ready := by
  obtain ⟨es, tag, reader, rfl, htype, hreader, haction, hid⟩ := Rule.fields_of_read hr
  obtain ⟨hfilled, params, hparams⟩ := entries_of_ruleProblems h
  obtain ⟨s, hs, -⟩ := exists_of_isFilledText hfilled
  obtain rfl : s = r.id := by
    obtain ⟨t, ht, hlen⟩ := andThen_valid_iff.mp (read_of_required hs hid)
    cases ht
    split at hlen
    · cases hlen
    · exact Checked.valid.inj hlen
  have hread : reader (.map params) = .valid r.action := read_of_required hparams haction
  obtain rfl : r.action.tag = tag := (Action.restores_reader? false hreader hread).1
  obtain ⟨hready, hfrom⟩ := Action.ready_of_reader? hreader hread
  exact ⟨⟨es, params, rfl, hs, htype, hparams, hfrom⟩, hready⟩

/-- **The rules of an accepted document correspond to its rules**, in order. -/
theorem forall₂_rules {ruleList : Option Value} {rules : List Rule}
    (h : ruleListProblems ruleList = []) (hr : Rule.readAll (ruleList.getD .null) = .valid rules) :
    ∃ raw, ruleList = some (.list raw) ∧
      List.Forall₂ (fun v r => r.ReadFrom v ∧ r.action.Ready) raw rules := by
  unfold ruleListProblems at h
  split at h
  · rename_i raw
    refine ⟨raw, rfl, List.forall₂_iff_get.mpr ?_⟩
    obtain ⟨hlen, hread⟩ := List.forall₂_iff_get.mp (forall₂_of_allFrom hr)
    refine ⟨hlen, fun i hi hi' => readFrom_of_ruleProblems (i := i) ?_ (hread i hi hi')⟩
    have hzip : (raw.get ⟨i, hi⟩, i) ∈ raw.zipIdx :=
      List.mem_zipIdx_iff_getElem?.mpr (List.getElem?_eq_getElem hi)
    exact List.flatMap_eq_nil_iff.mp h _ hzip
  · cases h

/-- If no text is reported as repeated, all texts differ. -/
theorem nodup_of_repeated {ids : List String} (h : repeated ids = []) : ids.Nodup := by
  rw [List.nodup_iff_count_le_one]
  intro id
  by_contra hcount
  have hmem : id ∈ ids.filter fun i => 1 < ids.count i := by
    have hpos : 0 < ids.count id := by omega
    simpa [List.count_pos_iff.mp hpos] using hcount
  have hrepeated : id ∈ repeated ids :=
    (List.mem_mergeSort).mpr (List.mem_eraseDups.mpr hmem)
  rw [h] at hrepeated
  cases hrepeated

/-! ### The two ways a document is read -/

/-- A document that is refused is refused with a message. -/
theorem ne_nil_of_parse_error {ps : List String} (h : parse target doc = .error ps) : ps ≠ [] := by
  unfold parse at h
  split at h
  · cases h
    exact List.cons_ne_nil _ _
  · split at h
    · rename_i qs hrules
      cases h
      intro hnil
      obtain rfl := List.map_eq_nil_iff.mp hnil
      exact Rule.readAll_givesReasons _ hrules
    · split at h
      · rename_i qs houtput
        cases h
        intro hnil
        obtain rfl := List.map_eq_nil_iff.mp hnil
        exact OutputFormat.read_givesReasons _ houtput
      · split at h
        · cases h
        · cases h
          exact List.cons_ne_nil _ _

/-- **A document is read as a configuration or refused with messages.**  The rules of a configuration
that is read correspond one to one to those of the document; their ids are not blank and differ; their
actions are ready to be applied.  Its name is that of the document, trimmed, and not empty. -/
theorem parse_accepts_or_explains (target : Target) (doc : Value) :
    (∃ c raw name, parse target doc = .ok c ∧
        doc.get? "rules" = some (.list raw) ∧ List.Forall₂ (fun v r => Rule.ReadFrom v r) raw c.rules ∧
        (∀ r ∈ c.rules, Text.isBlankText r.id = false) ∧ (c.rules.map Rule.id).Nodup ∧
        doc.get? "name" = some (.str name) ∧ c.name = Text.trim name ∧
        Text.trim c.name = c.name ∧ c.name ≠ "" ∧
        ∀ r ∈ c.rules, r.action.Ready) ∨
      ∃ messages, parse target doc = .error messages ∧ messages ≠ [] := by
  cases h : parse target doc with
  | error messages => exact .inr ⟨messages, rfl, ne_nil_of_parse_error h⟩
  | ok c =>
    obtain ⟨hproblems, hrules, -, hrepeated, hbuild⟩ := parse_eq_ok_iff.mp h
    obtain ⟨-, hfilled, -, hlist, -⟩ := problems_eq_nil_iff.mp hproblems
    obtain ⟨raw, hraw, hall⟩ := forall₂_rules hlist hrules
    obtain ⟨name, hname, -⟩ := exists_of_isFilledText hfilled
    obtain ⟨htrim, hblank⟩ := name_of_parse h
    have htext : c.name = Text.trim name := by
      rw [← hbuild]
      simp only [build, hname, Option.getD_some]
    have hne : c.name ≠ "" := by
      intro hempty
      rw [← htrim, Text.trim_eq_empty_iff, hblank] at hempty
      cases hempty
    have hready : ∀ r ∈ c.rules, r.action.Ready := by
      intro r hr
      obtain ⟨i, hi, rfl⟩ := List.getElem_of_mem hr
      obtain ⟨hlen, hget⟩ := List.forall₂_iff_get.mp hall
      exact (hget i (hlen ▸ hi) hi).2
    exact .inl ⟨c, raw, name, rfl, hraw, hall.imp fun _ _ h => h.1, isBlankText_id_of_mem hlist hrules,
      nodup_of_repeated hrepeated, hname, htext, htrim, hne, hready⟩

end Document

end Sheetflow
