import Sheetflow.Proofs.Configuration.Export
import Sheetflow.Proofs.Run.Limits
import Sheetflow.Service.Error

/-!
# How transformations end

A transformation gives a result, or an error that is reported to the caller because the file cannot be
read, or it meets a limit (`Configuration.transform_ends`): a field of a delimited file is too long,
which takes a text longer than the limit of a field, or a rule exceeds one of the limits on texts of
rules.  Such an error has no kind under which it would be reported.  `transform_fails_on_repetition`
is a document that is accepted and whose transformation ends so.

Patterns are read without a bound on how deep their groups nest, which a stack would set.  So what is
said is said of shallow patterns.
-/

namespace Sheetflow

/-! ### Reading files -/

namespace Csv.Reader
variable {r r' : Reader}

/-- A step takes at most one character into the field, and fails only if the field is full. -/
def Grows (r : Reader) : Except FieldTooLong Reader → Prop
  | .ok r' => r'.size ≤ r.size + 1
  | .error _ => fieldLimit ≤ r.size

theorem grows_endRecord (mode : Mode) : r.Grows (.ok (r.endField.endRecord mode)) := Nat.zero_le _

theorem grows_endField : r.Grows (.ok r.endField) := Nat.zero_le _

theorem grows_addChar (mode : Mode) (c : Char) : r.Grows (r.addChar mode c) := by
  unfold addChar
  split
  · assumption
  · exact Nat.le_refl _

theorem grows_atFieldStart (c : Char) : r.Grows (r.atFieldStart c) := by
  unfold atFieldStart
  split
  · exact grows_endRecord _
  · split
    · exact Nat.le_succ _
    · split
      · exact grows_endField
      · exact grows_addChar _ c

theorem grows_atRecordStart (c : Char) : r.Grows (r.atRecordStart c) := by
  unfold atRecordStart
  split
  · exact Nat.le_succ _
  · exact grows_atFieldStart c

/-- Behind the first character of a field: the line ends, the field ends or it grows. -/
theorem grows_inField (c : Char) : r.Grows (match lineEnd? c with
    | some mode => .ok (r.endField.endRecord mode)
    | none => if c = ',' then .ok r.endField else r.addChar .plain c) := by
  split
  · exact grows_endRecord _
  · split
    · exact grows_endField
    · exact grows_addChar _ c

theorem grows_step (r : Reader) (c : Char) : r.Grows (r.step c) := by
  unfold step
  split
  · exact grows_atRecordStart c
  · split
    · exact Nat.le_succ _
    · exact grows_atRecordStart c
  · exact grows_atFieldStart c
  · exact grows_inField c
  · split
    · exact Nat.le_succ _
    · exact grows_addChar _ c
  · split
    · exact grows_addChar _ c
    · exact grows_inField c

/-- A text is refused only if it is longer than a field may be. -/
theorem lt_length_of_feed {cs : List Char} {e : FieldTooLong} (h : r.feed cs = .error e) :
    fieldLimit < r.size + cs.length := by
  induction cs generalizing r with
  | nil => cases h
  | cons c cs ih =>
    have hgrows := r.grows_step c
    rw [feed] at h
    rw [List.length_cons]
    cases hs : r.step c with
    | error e' =>
      rw [hs] at hgrows
      have hfull : fieldLimit ≤ r.size := hgrows
      omega
    | ok r' =>
      rw [hs] at h hgrows
      have hsize : r'.size ≤ r.size + 1 := hgrows
      have hrest := ih h
      omega

end Csv.Reader

theorem Csv.lt_length_of_read {text : List Char} {e : FieldTooLong} (h : read text = .error e) :
    fieldLimit < text.length := by
  unfold read records at h
  cases hf : Reader.fresh.feed text with
  | ok r => rw [hf] at h; cases h
  | error e' =>
    have hlength := Reader.lt_length_of_feed hf
    rwa [show Reader.fresh.size = 0 from rfl, Nat.zero_add] at hlength

namespace File
variable [Host]
variable {file : File} {name : String} {values : Bool}

/-- A workbook that is read has a worksheet. -/
theorem ne_nil_of_readWorkbook {wb : Workbook} (h : file.readWorkbook name values = .ok wb) :
    wb ≠ [] := by
  unfold readWorkbook at h
  split at h
  · cases h
  · unfold readDelimited at h
    cases hc : Csv.read (textOf file.contents) with
    | error e => simp only [hc] at h; cases h
    | ok m =>
      simp only [hc] at h
      cases h
      exact List.cons_ne_nil _ _
  · split at h
    · cases h
    · cases h
    · rename_i hne _
      cases h
      exact hne

/-- A file that cannot be read is reported, unless its text is too long for a field. -/
theorem readWorkbook_error {e : ReadError} (h : file.readWorkbook name values = .error e) :
    (ServiceError.transform (.read e)).kind? = some .unreadable ∨
      e = .field {} ∧ FileName.kind? name = some .delimited ∧
        Csv.fieldLimit < (textOf file.contents).length := by
  unfold readWorkbook at h
  split at h
  · cases h
    exact .inl rfl
  · rename_i hkind
    unfold readDelimited at h
    cases hc : Csv.read (textOf file.contents) with
    | ok m => simp only [hc] at h; cases h
    | error e' =>
      simp only [hc] at h
      cases h
      exact .inr ⟨rfl, hkind, Csv.lt_length_of_read hc⟩
  · split at h
    · rename_i e' hs
      cases h
      unfold readSpreadsheet at hs
      split at hs
      · cases hs
      · cases hs
        exact .inl rfl
    · cases h
      exact .inl rfl
    · cases h

end File

/-! ### Transformations -/

section
variable [Host]
variable {c : Configuration} {file : File} {name : String}

theorem Configuration.transform_of_read_error {e : ReadError}
    (h : file.readWorkbook name (formulasRequested c.rules) = .error e) :
    c.transform file name = .error (.read e) := by
  unfold transform
  rw [h]

theorem Configuration.transform_of_read {wb : Workbook}
    (h : file.readWorkbook name (formulasRequested c.rules) = .ok wb) :
    c.transform file name = (run wb c.rules).mapError .run := by
  unfold transform
  rw [h]

end

/-- **How every transformation ends** whose patterns are shallow: with a result, with an error of a kind
that is reported, or at one of the limits. -/
theorem Configuration.transform_ends [Host] (c : Configuration) (file : File) (name : String)
    (_shallow : ∀ rule ∈ c.rules, rule.action.IsShallow) :
    (∃ r, c.transform file name = .ok r) ∨
      (∃ e, c.transform file name = .error e ∧
        (ServiceError.transform e).kind? = some .unreadable) ∨
      (c.transform file name = .error (.read (.field {})) ∧
        FileName.kind? name = some .delimited ∧
        Csv.fieldLimit < (File.textOf file.contents).length) ∨
      ∃ rule ∈ c.rules, ∃ e, c.transform file name = .error (.run e) ∧ rule.action.Exceeds e := by
  cases hw : file.readWorkbook name (formulasRequested c.rules) with
  | error e =>
    have hread := transform_of_read_error hw
    rcases File.readWorkbook_error hw with hkind | ⟨rfl, hlong⟩
    · exact .inr (.inl ⟨.read e, hread, hkind⟩)
    · exact .inr (.inr (.inl ⟨hread, hlong⟩))
  | ok wb =>
    have hrun := transform_of_read hw
    cases hr : run wb c.rules with
    | ok r =>
      rw [hr] at hrun
      exact .inl ⟨r, hrun⟩
    | error e =>
      rw [hr] at hrun
      obtain ⟨rule, hrule, he⟩ := exceeds_of_run (File.ne_nil_of_readWorkbook hw) hr
      exact .inr (.inr (.inr ⟨rule, hrule, e, hrun, he⟩))

section
attribute [local instance] Host.bare

/-- A configuration that looks for a group in rows, and a table to which it is applied. -/
theorem Configuration.transform_ends_with_group :
    let c : Configuration := ⟨"cfg_1", "o", "n", none,
      [⟨"d", .deleteRows (.byCondition ⟨.pattern "(a)", none⟩ none)⟩], {}, 1, true, none, none⟩
    let file : File := ⟨Text.Utf8.encode "h\na\n".toList⟩
    (∀ rule ∈ c.rules, rule.action.IsShallow) ∧
      ((∃ r, c.transform file "data.csv" = .ok r) ∨
        (∃ e, c.transform file "data.csv" = .error e ∧
          (ServiceError.transform e).kind? = some .unreadable) ∨
        (c.transform file "data.csv" = .error (.read (.field {})) ∧
          FileName.kind? "data.csv" = some .delimited ∧
          Csv.fieldLimit < (File.textOf file.contents).length) ∨
        ∃ rule ∈ c.rules, ∃ e, c.transform file "data.csv" = .error (.run e) ∧
          rule.action.Exceeds e) := by
  intro c file
  have hshallow : ∀ rule ∈ c.rules, rule.action.IsShallow := by
    intro rule hrule source hsource
    obtain rfl := List.mem_singleton.mp hrule
    obtain rfl := Option.some.inj hsource
    decide
  exact ⟨hshallow, Configuration.transform_ends c file "data.csv" hshallow⟩

/-- A document that is accepted, although its only rule looks for more repetitions than patterns
count: the transformation of a file ends with an error that is not reported. -/
theorem Configuration.transform_fails_on_repetition :
    let condition : Value := .record [("type", .str "pattern"), ("value", .str "a\x7b4294967296\x7d")]
    let rule : Value := .record [("id", .str "d"), ("type", .str "DELETE_ROWS"),
      ("params", .record [("condition", condition)])]
    let doc : Value := .record [("name", .str "n"), ("rules", .list [rule]),
      ("outputFormat", .record [("type", .str "CSV")])]
    let c : Configuration := ⟨"cfg_1", "o", "n", none,
      [⟨"d", .deleteRows (.byCondition ⟨.pattern "a\x7b4294967296\x7d", none⟩ none)⟩], {}, 1, true,
      none, none⟩
    let e : TransformError := .run .repetitionTooLarge
    Document.parse ⟨"o", "cfg_1", 1⟩ doc = .ok c ∧
      c.transform ⟨Text.Utf8.encode "h\naaa\n".toList⟩ "data.csv" = .error e ∧
      (ServiceError.transform e).kind? = none := by
  intro condition rule doc c e
  refine ⟨?_, ?_, ?_⟩
  · decide +kernel
  · decide +kernel
  · rfl

end

end Sheetflow
