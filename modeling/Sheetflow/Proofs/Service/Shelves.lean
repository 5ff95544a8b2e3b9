import Mathlib.Data.String.Basic
import Sheetflow.Proofs.Document.JsonString
import Sheetflow.Proofs.File.Place
import Sheetflow.Proofs.Service.Artifacts
import Sheetflow.Proofs.Service.Filing
import Sheetflow.Service.Organization

/-!
# Outputs on their shelves

Services save outputs three levels below the root, under an organization, a job and the name of a file.
A tree that is filled like this only (`FileTree.Shelved`) has files on the third level and directories
above them, so nothing stands in the way of the next output (`Artifact.exec_save`), and an output changes
what is read for its own organization and job only (`Artifact.fetched_other`).

References may be any texts.  One is refused or leads below the root (`Outputs.path_cases`); with an
organization and a job in front it leads to their shelf or to what that stands on, whatever name follows
(`Outputs.path_refOf_cases`).  `outputs_contained` puts both together.
-/

namespace Sheetflow

open Service

namespace FileTree
variable {t t' : FileTree} {org job name : String}

/-! ### Trees of outputs -/

/-- Directories on two levels, and files below them. -/
structure Shelved (t : FileTree) : Prop where
  file : ∀ p bs, Table.get? t p = some (.file bs) → p.length = 3
  directory : ∀ p, Table.get? t p = some .directory → p.length < 3
  closed : ∀ org job, Table.get? t [org, job] ≠ none → Table.get? t [org] = some .directory

theorem shelved_nil : Shelved [] where
  file _ _ h := nomatch h
  directory _ h := nomatch h
  closed _ _ h := absurd rfl h

/-- On the upper levels there are directories. -/
theorem Shelved.directory_or_none (h : t.Shelved) {p : Path} (hp : p.length < 3) :
    Table.get? t p = some .directory ∨ Table.get? t p = none := by
  cases hentry : Table.get? t p with
  | none => exact .inr rfl
  | some entry =>
    cases entry with
    | directory => exact .inl rfl
    | file bs => exact absurd (h.file p bs hentry) (Nat.ne_of_lt hp)

theorem Shelved.one (h : t.Shelved) (a : String) :
    Table.get? t [a] = some .directory ∨ Table.get? t [a] = none :=
  h.directory_or_none (show 1 < 3 by decide)

theorem Shelved.two (h : t.Shelved) (a b : String) :
    Table.get? t [a, b] = some .directory ∨ Table.get? t [a, b] = none :=
  h.directory_or_none (show 2 < 3 by decide)

theorem entry?_of_ne_nil {p : Path} (hp : p ≠ []) : t.entry? p = Table.get? t p := by
  unfold entry?
  rw [if_neg (by simpa using hp)]

/-- What saving an output changes in a tree. -/
structure Adds (t t' : FileTree) (org job name : String) : Prop where
  top : Table.get? t' [org] = some .directory
  directory : Table.get? t' [org, job] = some .directory
  file : Table.get? t' [org, job, name] = Table.get? t [org, job, name] ∨
    ∃ bs, Table.get? t' [org, job, name] = some (.file bs)
  others : ∀ p, p ≠ [org] → p ≠ [org, job] → p ≠ [org, job, name] → Table.get? t' p = Table.get? t p

theorem Shelved.adds (h : t.Shelved) (hadds : Adds t t' org job name) : t'.Shelved := by
  have hcases (p : Path) : (p.length < 3 ∧ Table.get? t' p = some .directory) ∨
      (p.length = 3 ∧ ∃ bs, Table.get? t' p = some (.file bs)) ∨
      Table.get? t' p = Table.get? t p := by
    by_cases horg : p = [org]
    · exact .inl ⟨by rw [horg]; exact show 1 < 3 by decide, horg ▸ hadds.top⟩
    · by_cases hjob : p = [org, job]
      · exact .inl ⟨by rw [hjob]; exact show 2 < 3 by decide, hjob ▸ hadds.directory⟩
      · by_cases hname : p = [org, job, name]
        · subst hname
          exact hadds.file.elim (fun hsame => .inr (.inr hsame)) fun hfile => .inr (.inl ⟨rfl, hfile⟩)
        · exact .inr (.inr (hadds.others p horg hjob hname))
  refine ⟨fun p bs hfile => ?_, fun p hdirectory => ?_, fun o j hentry => ?_⟩
  · obtain ⟨-, hp⟩ | ⟨hlen, -⟩ | hp := hcases p
    · rw [hp] at hfile
      cases hfile
    · exact hlen
    · exact h.file p bs (hp ▸ hfile)
  · obtain ⟨hlen, -⟩ | ⟨-, bs, hp⟩ | hp := hcases p
    · exact hlen
    · rw [hp] at hdirectory
      cases hdirectory
    · exact h.directory p (hp ▸ hdirectory)
  · by_cases ho : o = org
    · exact ho ▸ hadds.top
    · have hsame (p : Path) (hp : p.head? = some o) : Table.get? t' p = Table.get? t p := by
        have hne (q : Path) (hq : q.head? = some org) : p ≠ q := by
          rintro rfl
          exact ho (Option.some.inj (hp.symm.trans hq))
        exact hadds.others p (hne _ rfl) (hne _ rfl) (hne _ rfl)
      rw [hsame _ rfl] at hentry ⊢
      exact h.closed o j hentry

/-! ### Writing -/

/-- Making one directory where there is none, or one already. -/
theorem get?_directory {p : Path} (hp : p ≠ [])
    (hentry : Table.get? t p = some .directory ∨ Table.get? t p = none) (q : Path) :
    Table.get? (if (t.entry? p).isSome then t else Table.set t p .directory) q =
      if q = p then some .directory else Table.get? t q := by
  rw [entry?_of_ne_nil hp]
  obtain hentry | hentry := hentry
  · rw [hentry, Option.isSome_some, if_pos rfl]
    split
    · rename_i hq
      rw [hq, hentry]
    · rfl
  · rw [hentry, Option.isSome_none, if_neg Bool.false_ne_true]
    split
    · rename_i hq
      rw [hq, Table.get?_set_self]
    · rename_i hq
      rw [Table.get?_set_ne _ _ hq]

theorem ancestry_pair (org job : String) : ancestry [org, job] = [[org], [org, job]] := rfl

/-- The directories of a job are made. -/
theorem makeDirectories_shelf (h : t.Shelved) (horg : isTooLong org = false)
    (hjob : isTooLong job = false) :
    ∃ t₀ : FileTree, t.makeDirectories (ancestry [org, job]) = (t₀, .ok ()) ∧
      ∀ p, Table.get? t₀ p =
        if p = [org, job] then some .directory else if p = [org] then some .directory
        else Table.get? t p := by
  have hfirst := get?_directory (List.cons_ne_nil org []) (h.one org)
  rw [ancestry_pair, makeDirectories, if_neg (by simpa using horg)]
  generalize (if (t.entry? [org]).isSome then t else Table.set t [org] .directory) = t₁ at hfirst ⊢
  have htwo : Table.get? t₁ [org, job] = some .directory ∨ Table.get? t₁ [org, job] = none := by
    rw [hfirst, if_neg (by simp)]
    exact h.two org job
  have hsecond := get?_directory (List.cons_ne_nil org [job]) htwo
  rw [makeDirectories, if_neg (by simpa using hjob), makeDirectories]
  refine ⟨_, rfl, fun p => ?_⟩
  rw [hsecond, hfirst]

theorem obstacle?_shelf (h : t.Shelved) (horg : isTooLong org = false) (hjob : isTooLong job = false) :
    t.obstacle? (ancestry [org, job]) = none := by
  rw [ancestry_pair, obstacle?, if_neg (by simpa using horg), entry?_of_ne_nil (List.cons_ne_nil _ _)]
  obtain hone | hone := h.one org
  · simp only [hone]
    rw [obstacle?, if_neg (by simpa using hjob), entry?_of_ne_nil (List.cons_ne_nil _ _)]
    obtain htwo | htwo := h.two org job
    · simp only [htwo, obstacle?]
    · simp only [htwo]
  · simp only [hone]

/-- **Saving an output in a tree of outputs** adds it if its names fit.  If only the name of the file
does not, the directories are made. -/
theorem write_shelf (h : t.Shelved) (horg : isTooLong org = false) (hjob : isTooLong job = false)
    (name : String) (bs : Bytes) :
    Adds t (t.write [org, job, name] bs).1 org job name ∧
      (isTooLong name = false → (t.write [org, job, name] bs).2 = .ok ()) := by
  obtain ⟨t₀, hmade, hget⟩ := makeDirectories_shelf h horg hjob
  have hdirectory : Table.get? t₀ [org] = some .directory := by
    rw [hget, if_neg (by simp), if_pos rfl]
  have hdirectory' : Table.get? t₀ [org, job] = some .directory := by rw [hget, if_pos rfl]
  have hsame (p : Path) (hp : p ≠ [org]) (hp' : p ≠ [org, job]) :
      Table.get? t₀ p = Table.get? t p := by rw [hget, if_neg hp', if_neg hp]
  have hfile : t₀.entry? [org, job, name] = Table.get? t [org, job, name] := by
    rw [entry?_of_ne_nil (List.cons_ne_nil _ _), hsame _ (by simp) (by simp)]
  have hparent : [org, job, name].dropLast = [org, job] := rfl
  have hwrite : t.write [org, job, name] bs =
      if isTooLong name then (t₀, .error ⟨.nameTooLong, [org, job, name]⟩)
      else (Table.set t₀ [org, job, name] (.file bs), .ok ()) := by
    rw [write]
    simp only [hparent, obstacle?_shelf h horg hjob, hmade, hfile]
    cases hentry : Table.get? t [org, job, name] with
    | none => rfl
    | some entry =>
      cases entry with
      | file _ => rfl
      | directory => exact absurd (h.directory _ hentry) (Nat.lt_irrefl 3)
  rw [hwrite]
  cases hname : isTooLong name with
  | true =>
    simp only [if_true]
    exact ⟨⟨hdirectory, hdirectory', .inl (hsame _ (by simp) (by simp)),
      fun p hp hp' _ => hsame p hp hp'⟩, fun hfits => Bool.noConfusion hfits⟩
  | false =>
    simp only [Bool.false_eq_true, if_false, imp_self, and_true]
    refine ⟨?_, ?_, .inr ⟨bs, Table.get?_set_self _ _ _⟩, fun p hp hp' hp'' => ?_⟩
    · rw [Table.get?_set_ne _ _ (by simp), hdirectory]
    · rw [Table.get?_set_ne _ _ (by simp), hdirectory']
    · rw [Table.get?_set_ne _ _ hp'', hsame p hp hp']

/-- Nothing is made for an organization whose name does not fit. -/
theorem write_of_isTooLong (horg : isTooLong org = true) (job name : String) (bs : Bytes) :
    (t.write [org, job, name] bs).1 = t := by
  have hobstacle : t.obstacle? (ancestry [org, job]) = some .nameTooLong := by
    rw [ancestry_pair, obstacle?, if_pos (by simpa using horg)]
  rw [write]
  simp only [show [org, job, name].dropLast = [org, job] from rfl, hobstacle]

theorem Shelved.write (h : t.Shelved) (hjob : isTooLong job = false) (org name : String) (bs : Bytes) :
    (t.write [org, job, name] bs).1.Shelved := by
  cases horg : isTooLong org with
  | true =>
    rw [write_of_isTooLong horg]
    exact h
  | false => exact h.adds (write_shelf h horg hjob name bs).1

/-! ### Reading -/

/-- The bytes of an entry that is a file. -/
def bytesOf : Option FileEntry → Option Bytes
  | some (.file bs) => some bs
  | _ => none

theorem read_eq (t : FileTree) (p : Path) :
    t.read p = if t.obstacle? (ancestry p) = some .nameTooLong then .error ⟨.nameTooLong, p⟩
      else .ok (bytesOf (t.entry? p)) := by
  rw [read]
  split
  · rename_i hobstacle
    rw [if_pos hobstacle]
  · rename_i hobstacle
    rw [if_neg hobstacle]
    unfold bytesOf
    split <;> simp_all

/-- There are no files on the first level. -/
theorem read_one (h : t.Shelved) (a : String) :
    t.read [a] = if isTooLong a then .error ⟨.nameTooLong, [a]⟩ else .ok none := by
  have hentry : t.entry? [a] = Table.get? t [a] := entry?_of_ne_nil (List.cons_ne_nil _ _)
  rw [read_eq, show ancestry [a] = [[a]] from rfl, obstacle?, hentry]
  cases hlong : isTooLong a <;> obtain ha | ha := h.one a <;> simp [hlong, ha, obstacle?, bytesOf]

/-- Nor are there on the second. -/
theorem read_two (h : t.Shelved) {b : String} (hb : isTooLong b = false) (a : String) :
    t.read [a, b] = if isTooLong a then .error ⟨.nameTooLong, [a, b]⟩ else .ok none := by
  cases hlong : isTooLong a with
  | true => simp [read_eq, ancestry_pair, obstacle?, hlong]
  | false =>
    have hentry : t.entry? [a, b] = Table.get? t [a, b] := entry?_of_ne_nil (List.cons_ne_nil _ _)
    rw [read_eq, obstacle?_shelf h hlong hb, hentry]
    obtain hab | hab := h.two a b <;> simp [hab, bytesOf]

/-- On the third level what is read depends on the entry and on its directory being there. -/
theorem read_three (h : t.Shelved) {b : String} (hb : isTooLong b = false) (a c : String) :
    t.read [a, b, c] =
      if isTooLong a || (isTooLong c && (Table.get? t [a, b]).isSome) then
        .error ⟨.nameTooLong, [a, b, c]⟩
      else .ok (bytesOf (Table.get? t [a, b, c])) := by
  have hentry {p : Path} {x : String} : t.entry? (x :: p) = Table.get? t (x :: p) :=
    entry?_of_ne_nil (List.cons_ne_nil _ _)
  have hobstacle : t.obstacle? (ancestry [a, b, c]) = some .nameTooLong ↔
      (isTooLong a || (isTooLong c && (Table.get? t [a, b]).isSome)) = true := by
    rw [show ancestry [a, b, c] = [[a], [a, b], [a, b, c]] from rfl, obstacle?, hentry]
    cases hlong : isTooLong a with
    | true => simp [hlong]
    | false =>
      obtain hab | hab := h.two a b
      · have ha : Table.get? t [a] = some .directory :=
          h.closed a b (by rw [hab]; exact Option.some_ne_none _)
        cases hlong' : isTooLong c with
        | true => simp [hlong, hlong', hb, ha, hab, obstacle?, hentry]
        | false =>
          simp only [List.getLast?_singleton, Option.any_some, hlong, ha, obstacle?, hentry, hab]
          cases Table.get? t [a, b, c] with
          | none => simp [hlong', hb]
          | some entry => cases entry <;> simp [hlong', hb]
      · obtain ha | ha := h.one a <;> simp [hlong, hb, ha, hab, obstacle?, hentry]
  rw [read_eq, hentry]
  exact if_congr hobstacle rfl rfl

/-- **What is read for other organizations and jobs stays as it was.** -/
theorem read_adds (h : t.Shelved) (hadds : Adds t t' org job name) {o j : String}
    (hj : isTooLong j = false) (hother : (o, j) ≠ (org, job)) :
    t'.read [o] = t.read [o] ∧ t'.read [o, j] = t.read [o, j] ∧
      ∀ x, t'.read [o, j, x] = t.read [o, j, x] := by
  have h' : t'.Shelved := h.adds hadds
  have hne : ¬ (o = org ∧ j = job) := fun heq => hother (Prod.ext heq.1 heq.2)
  have hpair : Table.get? t' [o, j] = Table.get? t [o, j] :=
    hadds.others _ (by simp) (by simpa using hne) (by simp)
  have hfile (x : String) : Table.get? t' [o, j, x] = Table.get? t [o, j, x] :=
    hadds.others _ (by simp) (by simp) fun heq => hne (by simp_all)
  refine ⟨by rw [read_one h, read_one h'], by rw [read_two h hj, read_two h' hj], fun x => ?_⟩
  rw [read_three h hj, read_three h' hj, hpair, hfile]

end FileTree

/-! ### Names that references are made of -/

theorem Organization.notMem_of_isValid {org : String} (h : isValid org = true) {c : Char}
    (hletter : Text.isAlphanumeric c = false) (hseparator : isSeparator c = false) : c ∉ org.toList := by
  intro hc
  rcases all_of_isValid h c hc with hc | hc
  · rw [hletter] at hc
    cases hc
  · rw [hseparator] at hc
    cases hc

/-- The id of an organization is a plain name. -/
theorem Organization.isPart_of_isValid {org : String} (h : isValid org = true) :
    FileName.IsPart org.toList := by
  have hpoint : '.' ∉ org.toList := notMem_of_isValid h (by decide) (by decide)
  refine ⟨notMem_of_isValid h (by decide) (by decide), fun hnil => ?_, fun hdot => ?_, fun hdots => ?_⟩
  · rw [isValid, hnil] at h
    cases h
  · exact hpoint (hdot ▸ List.mem_cons_self)
  · exact hpoint (hdots ▸ List.mem_cons_self)

theorem utf8Len_le (cs : List Char) : String.utf8Len cs ≤ 4 * cs.length := by
  induction cs with
  | nil => exact Nat.le_refl 0
  | cons c cs ih =>
    have hc := c.utf8Size_le_four
    rw [String.utf8Len_cons, List.length_cons]
    omega

/-- The id of a job fits. -/
theorem IdKind.isTooLong_id {n : Nat} (h : n < 16 ^ 32) :
    FileTree.isTooLong (IdKind.job.id n) = false := by
  have hlen : (IdKind.job.id n).toList.length = 36 := by
    rw [toList_id, List.length_append, Json.length_hex (by decide) h]
    rfl
  have hsize := utf8Len_le (IdKind.job.id n).toList
  rw [hlen, ← String.utf8ByteSize_ofList, String.ofList_toList] at hsize
  rw [FileTree.isTooLong, decide_eq_false_iff_not, FileTree.nameLimit]
  omega

namespace FileName

theorem mem_of_mem_split {cs p : List Char} (hp : p ∈ split cs) {c : Char} (hc : c ∈ p) : c ∈ cs := by
  induction cs generalizing p with
  | nil =>
    rw [List.mem_singleton.mp hp] at hc
    cases hc
  | cons d cs ih =>
    rw [split] at hp
    split at hp
    · rcases List.mem_cons.mp hp with rfl | hp
      · cases hc
      · exact List.mem_cons_of_mem d (ih hp hc)
    · cases hs : split cs with
      | nil => exact absurd hs (split_ne_nil cs)
      | cons q qs =>
        rw [hs] at hp
        rcases List.mem_cons.mp hp with rfl | hp
        · rcases List.mem_cons.mp hc with rfl | hc
          · exact List.mem_cons_self
          · exact List.mem_cons_of_mem d (ih (hs ▸ List.mem_cons_self) hc)
        · exact List.mem_cons_of_mem d (ih (hs ▸ List.mem_cons_of_mem q hp) hc)

theorem mem_of_mem_baseChars {path : List Char} {c : Char} (h : c ∈ baseChars path) : c ∈ path := by
  rw [baseChars] at h
  cases hlast : (parts path).getLast? with
  | none =>
    rw [hlast] at h
    cases h
  | some p =>
    rw [hlast] at h
    exact mem_of_mem_split (List.mem_of_mem_filter (List.mem_of_getLast? hlast)) h

/-- The name of an output has the characters of its source and some letters. -/
theorem nul_notMem_ofOutput {source : String} (h : '\x00' ∉ source.toList) (delimiter : String) :
    '\x00' ∉ (ofOutput source delimiter).toList := by
  rw [toList_ofOutput]
  intro hmem
  rcases List.mem_append.mp hmem with hmem | hmem
  · split at hmem
    · exact absurd hmem (by decide)
    · rw [stem, String.toList_ofList] at hmem
      refine h (mem_of_mem_baseChars ?_)
      rw [← splitSuffix_append (baseChars source.toList)]
      exact List.mem_append_left _ hmem
  · revert hmem
    split <;> decide

end FileName

namespace Outputs

/-! ### References -/

variable [Host]

/-- What is read under a reference with these files. -/
def fetched (files : FileTree) (ref : String) : Except ServiceError Bytes :=
  match path ref with
  | .error e => .error e
  | .ok p =>
    match files.read p with
    | .ok (some bs) => .ok bs
    | .ok none => .error (.storage (.notFound ref))
    | .error e => .error (.file e)

theorem exec_read_eq (w : World) (ref : String) :
    exec (read ref) w = (w, fetched w.files ref) := by
  rw [read, fetched]
  cases path ref with
  | error e => rfl
  | ok p =>
    have hfile : @exec (Except FileFault (Option Bytes)) (command (.readFile p)) w =
        (w, .ok (w.files.read p)) := rfl
    rw [exec_bind_of_ok (show exec (result (.ok p)) w = (w, .ok p) from rfl), exec_bind_of_ok hfile]
    dsimp only
    rcases w.files.read p with e | (_ | bs) <;> rfl

theorem ofRef_of_path {ref : String} {p : Path} (h : path ref = .ok p) :
    Location.ofRef Host.root ref = .below p := by
  unfold path at h
  split at h
  · rename_i q hq
    rw [hq, Except.ok.inj h]
  · cases h
  · cases h

variable {org job name : String}

omit [Host] in
/-- From an organization and a job in front a reference goes on with what it names. -/
theorem place_refOf (horg : FileName.IsPart org.toList) (hjob : FileName.IsPart job.toList)
    (root : Path) (name : String) : Location.place root (refOf org job name) =
      Location.climb (root ++ [org, job]) (FileName.parts (FileName.base name).toList) := by
  have htext : (refOf org job name).toList =
      org.toList ++ '/' :: (job.toList ++ '/' :: (FileName.base name).toList) := by
    simp [refOf, String.toList_append]
  have hstart : (refOf org job name).toList.head? ≠ some '/' := by
    obtain ⟨c, cs, hcs⟩ := List.exists_cons_of_ne_nil horg.ne_nil
    have hc : c ≠ '/' := fun hc => horg.noSlash (by rw [hcs, hc]; exact List.mem_cons_self)
    simp [htext, hcs, hc]
  have hparts : FileName.parts (refOf org job name).toList =
      org.toList :: job.toList :: FileName.parts (FileName.base name).toList := by
    rw [htext, FileName.parts_append_slash, FileName.parts_append_slash, horg.parts, hjob.parts]
    rfl
  rw [Location.place, if_neg hstart, hparts, Location.climb_cons horg, Location.climb_cons hjob,
    String.ofList_toList, String.ofList_toList, List.append_assoc]
  rfl

/-- The reference to a saved output leads to its shelf. -/
theorem path_refOf (horg : FileName.IsPart org.toList) (hjob : FileName.IsPart job.toList)
    (hname : FileName.IsPart name.toList) (horg₀ : '\x00' ∉ org.toList) (hjob₀ : '\x00' ∉ job.toList)
    (hname₀ : '\x00' ∉ name.toList) : path (refOf org job name) = .ok [org, job, name] := by
  have hbase : FileName.base name = name := by
    rw [FileName.base, hname.baseChars, String.ofList_toList]
  have hlocation : Location.ofRef Host.root (refOf org job name) = .below [org, job, name] := by
    refine Location.ofRef_below_iff.mpr ⟨?_, List.cons_ne_nil _ _, ?_⟩
    · simp [refOf, hbase, String.toList_append, horg₀, hjob₀, hname₀]
    · rw [place_refOf horg hjob, hbase, hname.parts, Location.climb_cons hname, Location.climb,
        String.ofList_toList, List.append_assoc]
      rfl
  rw [path, hlocation]

/-- Under any name a reference leads to the shelf of its organization and job, or to what it stands on. -/
theorem path_refOf_cases (horg : FileName.IsPart org.toList) (hjob : FileName.IsPart job.toList)
    {p : Path} (h : path (refOf org job name) = .ok p) :
    p = [org] ∨ p = [org, job] ∨ ∃ x, p = [org, job, x] := by
  obtain ⟨-, -, hplace⟩ := Location.ofRef_below_iff.mp (ofRef_of_path h)
  have hslash : '/' ∉ (FileName.base name).toList := by
    rw [FileName.base, String.toList_ofList]
    exact FileName.noSlash_baseChars _
  rw [place_refOf horg hjob, FileName.parts, FileName.split_of_notMem hslash, List.filter_cons,
    List.filter_nil] at hplace
  split at hplace
  · rw [Location.climb] at hplace
    split at hplace
    · have hback : (Host.root ++ [org, job]).dropLast = Host.root ++ [org] := by
        rw [List.dropLast_append_of_ne_nil (List.cons_ne_nil _ _)]
        rfl
      rw [Location.climb, hback] at hplace
      exact .inl (List.append_cancel_left hplace).symm
    · rw [Location.climb, List.append_assoc] at hplace
      exact .inr (.inr ⟨_, (List.append_cancel_left hplace).symm⟩)
  · exact .inr (.inl (List.append_cancel_left hplace).symm)

/-- **Where a reference leads.**  Either it is refused, and then it does not lead below the root; or it
leads strictly below the root, along plain names. -/
theorem path_cases {ref : String} (hnul : '\x00' ∉ ref.toList) :
    (path ref = .error (.storage (.invalidReference ref)) ∧
        ¬ Location.IsBelow Host.root (Location.place Host.root ref)) ∨
      ∃ p, path ref = .ok p ∧ p ≠ [] ∧ (∀ name ∈ p, FileName.IsPart name.toList) ∧
        Location.place Host.root ref = Host.root ++ p := by
  cases hlocation : Location.ofRef Host.root ref with
  | below p =>
    obtain ⟨-, hp, hplace⟩ := Location.ofRef_below_iff.mp hlocation
    exact .inr ⟨p, by rw [path, hlocation], hp, Location.isPart_of_place hplace, hplace⟩
  | outside =>
    exact .inl ⟨by rw [path, hlocation], (Location.ofRef_outside_iff.mp hlocation).2⟩
  | invalid => exact absurd (Location.ofRef_invalid_iff.mp hlocation) hnul

end Outputs

/-! ### Outputs of jobs -/

/-- An output as services save it: for an organization with a valid id, a job with a generated id, and
the file that the job was made of. -/
structure Artifact where
  organization : String
  valid : Organization.isValid organization = true
  number : Nat
  generated : number < 16 ^ 32
  source : String
  delimiter : String
  bytes : Bytes

namespace Artifact
variable (a b : Artifact)

def job : String := IdKind.job.id a.number

def name : String := FileName.ofOutput a.source a.delimiter

/-- Names are short enough, and there is no character in them that a path cannot have. -/
structure Fits : Prop where
  organization : FileTree.isTooLong a.organization = false
  name : FileTree.isTooLong a.name = false
  source : '\x00' ∉ a.source.toList

def save [Host] : Service String := Outputs.save a.organization a.job a.name a.bytes

def ref : String := Outputs.refOf a.organization a.job a.name

theorem isPart_organization : FileName.IsPart a.organization.toList :=
  Organization.isPart_of_isValid a.valid

theorem isPart_name : FileName.IsPart a.name.toList := FileName.isPart_ofOutput _ _

theorem isTooLong_job : FileTree.isTooLong a.job = false := IdKind.isTooLong_id a.generated

theorem path_ref [Host] (h : '\x00' ∉ a.name.toList) :
    Outputs.path a.ref = .ok [a.organization, a.job, a.name] :=
  Outputs.path_refOf a.isPart_organization (IdKind.isPart_id a.number) a.isPart_name
    (Organization.notMem_of_isValid a.valid (by decide) (by decide))
    (IdKind.notMem_id (by decide) (by decide) a.number) h

theorem Fits.path_ref [Host] {a : Artifact} (h : a.Fits) :
    Outputs.path a.ref = .ok [a.organization, a.job, a.name] :=
  a.path_ref (FileName.nul_notMem_ofOutput h.source a.delimiter)

theorem base_name : FileName.base a.name = a.name := by
  rw [FileName.base, a.isPart_name.baseChars, String.ofList_toList]

/-- What saving leaves of the files. -/
theorem files_save [Host] (w : World) : (exec a.save w).1.files = w.files ∨
    (exec a.save w).1.files = (w.files.write [a.organization, a.job, a.name] a.bytes).1 := by
  rw [save, Outputs.exec_save, Outputs.saved]
  cases hp : Outputs.path (a.organization ++ "/" ++ a.job ++ "/" ++ FileName.base a.name) with
  | error e => exact .inl rfl
  | ok p =>
    have hnul : '\x00' ∉ a.name.toList := by
      have href := (Location.ofRef_below_iff.mp (Outputs.ofRef_of_path hp)).1
      rw [a.base_name, String.toList_append] at href
      exact fun h => href (List.mem_append_right _ h)
    obtain rfl : p = [a.organization, a.job, a.name] := Except.ok.inj (hp.symm.trans (a.path_ref hnul))
    refine .inr ?_
    dsimp only
    rcases w.files.write [a.organization, a.job, a.name] a.bytes with ⟨files, e | ⟨⟩⟩ <;> rfl

variable {w : World}

/-- **Saving outputs keeps trees of outputs**, whether the names fit or not. -/
theorem shelved_save [Host] (a : Artifact) (h : w.files.Shelved) :
    (exec a.save w).1.files.Shelved := by
  obtain hfiles | hfiles := a.files_save w
  · exact hfiles ▸ h
  · rw [hfiles]
    exact h.write a.isTooLong_job _ _ _

end Artifact

/-- The world after some outputs were saved, one after the other. -/
def World.saving [Host] (w : World) (outputs : List Artifact) : World :=
  outputs.foldl (fun w a => (exec a.save w).1) w

theorem World.shelved_saving [Host] {w : World} (h : w.files.Shelved) (outputs : List Artifact) :
    (w.saving outputs).files.Shelved := by
  induction outputs generalizing w with
  | nil => exact h
  | cons a outputs ih => exact ih (a.shelved_save h)

namespace Artifact
variable {a : Artifact} {w : World}

/-- An output whose names fit is saved on its shelf. -/
theorem exec_save [Host] (h : w.files.Shelved) (ha : a.Fits) :
    ∃ files, exec a.save w = ({ w with files }, .ok a.ref) ∧
      files.HasFile [a.organization, a.job, a.name] a.bytes ∧
      FileTree.Adds w.files files a.organization a.job a.name := by
  obtain ⟨hadds, hok⟩ := FileTree.write_shelf h ha.organization a.isTooLong_job a.name a.bytes
  have hwrite : w.files.write [a.organization, a.job, a.name] a.bytes =
      ((w.files.write [a.organization, a.job, a.name] a.bytes).1, .ok ()) := Prod.ext rfl (hok ha.name)
  refine ⟨_, ?_, (FileTree.hasFile_of_write hwrite).1, hadds⟩
  have hpath : Outputs.path (a.organization ++ "/" ++ a.job ++ "/" ++ FileName.base a.name) = _ :=
    ha.path_ref
  have hsaved : Outputs.saved w.files a.organization a.job a.name a.bytes =
      ((w.files.write [a.organization, a.job, a.name] a.bytes).1, .ok a.ref) := by
    rw [Outputs.saved]
    simp only [hpath]
    rw [hwrite]
    rfl
  rw [save, Outputs.exec_save, hsaved]

/-- What is read under references of other organizations and jobs. -/
theorem fetched_other [Host] {files : FileTree} {b : Artifact} (h : w.files.Shelved)
    (hadds : FileTree.Adds w.files files a.organization a.job a.name)
    (hother : (b.organization, b.job) ≠ (a.organization, a.job)) (name : String) :
    Outputs.fetched files (Outputs.refOf b.organization b.job name) =
      Outputs.fetched w.files (Outputs.refOf b.organization b.job name) := by
  obtain ⟨hone, htwo, hthree⟩ := FileTree.read_adds h hadds b.isTooLong_job hother
  unfold Outputs.fetched
  cases hp : Outputs.path (Outputs.refOf b.organization b.job name) with
  | error e => rfl
  | ok p =>
    have hread : files.read p = w.files.read p := by
      obtain rfl | rfl | ⟨x, rfl⟩ :=
        Outputs.path_refOf_cases b.isPart_organization (IdKind.isPart_id b.number) hp
      · exact hone
      · exact htwo
      · exact hthree x
    simp only [hread]

end Artifact

/-- **Outputs stay below the root, and apart.**  A reference without characters that a path cannot have is
refused, and then it leads elsewhere, or it leads strictly below the root, wherever the root is.  Whatever
outputs were saved before, one whose names fit is saved at the place made of its organization, its job and
one plain name; it is read back under the reference to it, and what is read under any name of another
organization or job is as before. -/
theorem outputs_contained [Host] (ref : String) {w : World} (hempty : w.files = [])
    (earlier : List Artifact) {a : Artifact} (ha : a.Fits) :
    ('\x00' ∉ ref.toList →
      (Outputs.path ref = .error (.storage (.invalidReference ref)) ∧
          ¬ Location.IsBelow Host.root (Location.place Host.root ref)) ∨
        ∃ p, Outputs.path ref = .ok p ∧ p ≠ [] ∧ (∀ name ∈ p, FileName.IsPart name.toList) ∧
          Location.place Host.root ref = Host.root ++ p) ∧
    ∃ files, exec a.save (w.saving earlier) = ({ w.saving earlier with files }, .ok a.ref) ∧
      Outputs.path a.ref = .ok [a.organization, a.job, a.name] ∧ FileName.IsPart a.name.toList ∧
      exec (Outputs.read a.ref) { w.saving earlier with files } =
        ({ w.saving earlier with files }, .ok a.bytes) ∧
      ∀ (b : Artifact) (name : String), (b.organization, b.job) ≠ (a.organization, a.job) →
        (exec (Outputs.read (Outputs.refOf b.organization b.job name))
            { w.saving earlier with files }).2 =
          (exec (Outputs.read (Outputs.refOf b.organization b.job name)) (w.saving earlier)).2 := by
  refine ⟨Outputs.path_cases, ?_⟩
  have hshelved : (w.saving earlier).files.Shelved :=
    World.shelved_saving (hempty ▸ FileTree.shelved_nil) earlier
  obtain ⟨files, hsave, hfile, hadds⟩ := Artifact.exec_save hshelved ha
  have hfits : Path.Fits [a.organization, a.job, a.name] :=
    ⟨List.cons_ne_nil _ _, by simp [ha.organization, a.isTooLong_job, ha.name]⟩
  refine ⟨files, hsave, ha.path_ref, a.isPart_name, Outputs.exec_read ⟨ha.path_ref, hfits, hfile⟩,
    fun b name hother => ?_⟩
  rw [Outputs.exec_read_eq, Outputs.exec_read_eq]
  exact Artifact.fetched_other hshelved hadds hother name

section
attribute [local instance] Host.bare

/-- The second of two organizations whose first jobs have ids with the same number. -/
theorem outputs_contained_second_organization :
    let b : Artifact := ⟨"org_b", by decide +kernel, 1, by decide, "table.csv", ",", [98]⟩
    let a : Artifact := ⟨"org_a", by decide +kernel, 1, by decide, "../table.csv", "\t", [97]⟩
    let w : World := { clock := 0, settings := {} }
    a.ref = "org_a/job_00000000000000000000000000000001/table_transformed.tsv" ∧
      ∃ files, exec a.save (w.saving [b]) = ({ w.saving [b] with files }, .ok a.ref) ∧
        (exec (Outputs.read a.ref) { w.saving [b] with files }).2 = .ok [97] ∧
        (exec (Outputs.read b.ref) { w.saving [b] with files }).2 = .ok [98] := by
  intro b a w
  have ha : a.Fits := ⟨by decide +kernel, by decide +kernel, by decide +kernel⟩
  obtain ⟨files, hsave, -, -, hread, hothers⟩ := (outputs_contained a.ref (w := w) rfl [b] ha).2
  have hother := hothers b b.name (by decide +kernel)
  refine ⟨by decide +kernel, files, hsave, by rw [hread], ?_⟩
  show (exec (Outputs.read (Outputs.refOf b.organization b.job b.name)) _).2 = _
  rw [hother]
  decide +kernel

/-- A character that a path cannot have is neither refused as a reference should be nor led anywhere. -/
theorem Outputs.path_nul_not_refused :
    let ref := "a\x00b"
    (¬ ∃ e, Outputs.path ref = .error (.storage e)) ∧ ¬ ∃ p, Outputs.path ref = .ok p := by
  intro ref
  have hpath : Outputs.path ref = .error .invalidPath := by decide +kernel
  rw [hpath]
  exact ⟨nofun, nofun⟩

end

end Sheetflow
