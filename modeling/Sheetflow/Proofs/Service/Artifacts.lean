import Sheetflow.Proofs.File.Tree
import Sheetflow.Proofs.Service.Ending

/-!
# Artifacts of jobs

The artifact of a completed job is the file that its reference leads to.  A job that ends has either
made exactly this file, which is read back as it was written, or no file at all
(`Submission.ending_cases`).
-/

namespace Sheetflow

open Service

variable [Host]

namespace Outputs

/-- The reference to the output of a job. -/
def refOf (org job name : String) : String := org ++ "/" ++ job ++ "/" ++ FileName.base name

/-- A reference leads to a file. -/
structure Leads (files : FileTree) (ref : String) (bs : Bytes) (p : Path) : Prop where
  path : Outputs.path ref = .ok p
  fits : p.Fits
  file : files.HasFile p bs

/-- An artifact is read as it stands there. -/
theorem exec_read {w : World} {ref : String} {bs : Bytes} {p : Path} (h : Leads w.files ref bs p) :
    exec (read ref) w = (w, .ok bs) := by
  have hfile : @exec (Except FileFault (Option Bytes)) (command (.readFile p)) w =
      (w, .ok (.ok (some bs))) := by
    rw [← FileTree.read_of_hasFile h.fits h.file]
    rfl
  rw [read, h.path, exec_bind_of_ok (show exec (result (.ok p)) w = (w, .ok p) from rfl),
    exec_bind_of_ok hfile]
  rfl

variable {files files' : FileTree} {org job name : String} {bs : Bytes}

/-- An output that was saved stands where its reference leads; the other files stay. -/
theorem leads_of_saved {ref : String} (h : saved files org job name bs = (files', .ok ref)) :
    ref = refOf org job name ∧ ∃ p, Leads files' ref bs p ∧
      ∀ q ≠ p, ∀ bs', files'.HasFile q bs' ↔ files.HasFile q bs' := by
  unfold saved at h
  simp only at h
  cases hp : path (org ++ "/" ++ job ++ "/" ++ FileName.base name) with
  | error e =>
    rw [hp] at h
    cases h
  | ok p =>
    rw [hp] at h
    simp only at h
    cases hw : files.write p bs with
    | mk files₁ written =>
      rw [hw] at h
      cases written with
      | error e => cases h
      | ok _ =>
        cases h
        obtain ⟨hfile, hothers⟩ := FileTree.hasFile_of_write hw
        exact ⟨rfl, p, ⟨hp, FileTree.fits_of_write hw, hfile⟩, hothers⟩

/-- An output that could not be saved left the files as they were. -/
theorem hasFile_of_not_saved {e : ServiceError} (h : saved files org job name bs = (files', .error e))
    (q : Path) (bs' : Bytes) : files'.HasFile q bs' ↔ files.HasFile q bs' := by
  unfold saved at h
  simp only at h
  cases hp : path (org ++ "/" ++ job ++ "/" ++ FileName.base name) with
  | error e' =>
    rw [hp] at h
    cases h
    exact .rfl
  | ok p =>
    rw [hp] at h
    simp only at h
    cases hw : files.write p bs with
    | mk files₁ written =>
      rw [hw] at h
      cases written with
      | error e' =>
        cases h
        exact FileTree.hasFile_of_write_error hw
      | ok _ => cases h

end Outputs

namespace Submission

/-- The name of the output that a job makes of a file. -/
def outputName (c : Configuration) (fileName : String) : String :=
  FileName.ofOutput fileName c.output.delimiter

/-- Why a job fails. -/
inductive Fails (files : FileTree) (j : Job) (c : Configuration) (file : File) (fileName : String) :
    Prop
  /-- The file cannot be transformed. -/
  | stopped {e : TransformError} (transform : c.transform file fileName = .error e)
  /-- A rule ends the run. -/
  | aborted {r : RunResult} (transform : c.transform file fileName = .ok r) (abort : r.aborted = true)
  /-- The output cannot be saved. -/
  | notSaved {r : RunResult} {e : ServiceError} (transform : c.transform file fileName = .ok r)
      (save : (Outputs.saved files j.organization j.id (outputName c fileName)
        (c.outputBytes r.matrix).bytes).2 = .error e)

/-- **What a job that ends leaves**: it is completed, with its artifact, or it has failed for a
reason, and the files are those of before. -/
theorem ending_cases (j : Job) (c : Configuration) (file : File) (fileName : String)
    (files : FileTree) :
    (∃ r files' p, c.transform file fileName = .ok r ∧ r.aborted = false ∧
        ending j c file fileName files =
          delivered c files' r (Outputs.refOf j.organization j.id (outputName c fileName)) ∧
        Outputs.Leads files' (Outputs.refOf j.organization j.id (outputName c fileName))
          (c.outputBytes r.matrix).bytes p ∧
        ∀ q ≠ p, ∀ bs, files'.HasFile q bs ↔ files.HasFile q bs) ∨
      ∃ files' message r, ending j c file fileName files = failing files' message r ∧
        Fails files j c file fileName ∧ ∀ q bs, files'.HasFile q bs ↔ files.HasFile q bs := by
  unfold ending
  cases htransform : c.transform file fileName with
  | error e => exact .inr ⟨files, e.message, none, rfl, .stopped htransform, fun _ _ => .rfl⟩
  | ok r =>
    simp only [endingOf]
    by_cases ha : r.aborted = true
    · rw [if_pos ha]
      exact .inr ⟨files, _, some r, rfl, .aborted htransform ha, fun _ _ => .rfl⟩
    · rw [if_neg ha]
      cases hsaved : Outputs.saved files j.organization j.id (FileName.ofOutput fileName
        c.output.delimiter) (c.outputBytes r.matrix).bytes with
      | mk files' saved =>
        cases saved with
        | error e =>
          refine .inr ⟨files', e.message, some r, rfl, .notSaved (e := e) htransform ?_,
            Outputs.hasFile_of_not_saved hsaved⟩
          rw [outputName, hsaved]
        | ok ref =>
          obtain ⟨rfl, p, hleads, hothers⟩ := Outputs.leads_of_saved hsaved
          exact .inl ⟨r, files', p, rfl, by simpa using ha, rfl, hleads, hothers⟩

theorem Fails.congr {files : FileTree} {j j' : Job} {c : Configuration} {file : File}
    {fileName : String} (h : Fails files j c file fileName) (horg : j'.organization = j.organization)
    (hid : j'.id = j.id) : Fails files j' c file fileName := by
  cases h with
  | stopped transform => exact .stopped transform
  | aborted transform abort => exact .aborted transform abort
  | notSaved transform save => exact .notSaved transform (by rw [horg, hid, save])

end Submission

end Sheetflow
