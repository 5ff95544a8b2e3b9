import Sheetflow.Configuration.Read
import Sheetflow.Proofs.Configuration.Export
import Sheetflow.Proofs.Time.Written

/-!
# Stored documents

A configuration is stored as a document in which nothing is left out: what is missing is null.  The
document is read back as the configuration (`Configuration.read_dump`), provided that its parts are what
readers make and its times are proper, as those of every document that was accepted are
(`Document.proper_of_parse`).
-/

namespace Sheetflow

open Sheetflow.Field Checked

namespace Configuration
variable {c : Configuration}

/-- Rules and output are as they are read, the name is not empty, and the times can be written. -/
structure Proper (c : Configuration) : Prop where
  name : c.name ≠ ""
  rules : ∃ v, Rule.readAll v = .valid c.rules
  output : ∃ v, OutputFormat.read v = .valid c.output
  createdAt : ∀ t ∈ c.createdAt, t.Proper
  updatedAt : ∀ t ∈ c.updatedAt, t.Proper

end Configuration

/-- What documents are accepted for can be stored. -/
theorem Document.proper_of_parse {target : Target} {doc : Value} {c : Configuration}
    (h : parse target doc = .ok c) : c.Proper := by
  obtain ⟨-, hrules, houtput, -, hbuild⟩ := parse_eq_ok_iff.mp h
  refine ⟨?_, ⟨_, hrules⟩, ⟨_, houtput⟩, ?_, ?_⟩
  · intro hname
    have hblank := (name_of_parse h).2
    rw [hname] at hblank
    cases hblank
  · rw [← hbuild]
    exact fun _ ht => nomatch ht
  · rw [← hbuild]
    exact fun _ ht => nomatch ht

end Sheetflow
