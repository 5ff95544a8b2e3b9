import Sheetflow.Configuration.Read
import Sheetflow.Proofs.Field.Restores

/-!
# Reasons for a refusal

A value that a reader does not accept is refused with a list of problems.  `GivesReasons` says that
this list is never empty.  The lemmas follow the ways readers are put together, so those on the parts
of a configuration only name the readers they are made of.
-/

namespace Sheetflow

namespace Checked
variable {α β : Type}

/-- What is refused is refused for a reason. -/
def GivesReasons (c : Checked α) : Prop := c ≠ .invalid []

@[simp] theorem givesReasons_valid (a : α) : (valid a).GivesReasons := nofun

@[simp] theorem givesReasons_fail (kind : ProblemKind) : (fail kind : Checked α).GivesReasons := by
  rintro ⟨⟩

theorem GivesReasons.map {c : Checked α} (hc : c.GivesReasons) (f : α → β) :
    (c.map f).GivesReasons := by
  cases c with
  | valid a => exact givesReasons_valid (f a)
  | invalid ps =>
    intro h
    cases h
    exact hc rfl

theorem GivesReasons.apply {f : Checked (α → β)} {a : Checked α} (hf : f.GivesReasons)
    (ha : a.GivesReasons) : (f.apply a).GivesReasons := by
  cases f with
  | valid f =>
    cases a with
    | valid a => exact givesReasons_valid (f a)
    | invalid qs => exact fun h => ha (congrArg invalid (invalid.inj h))
  | invalid ps =>
    have hps : ps ≠ [] := fun h => hf (congrArg invalid h)
    cases a with
    | valid a => exact fun h => hps (invalid.inj h)
    | invalid qs => exact fun h => hps (List.append_eq_nil_iff.mp (invalid.inj h)).1

theorem GivesReasons.andThen {c : Checked α} {f : α → Checked β} (hc : c.GivesReasons)
    (hf : ∀ a, (f a).GivesReasons) : (c.andThen f).GivesReasons := by
  cases c with
  | valid a => exact hf a
  | invalid ps =>
    intro h
    cases h
    exact hc rfl

theorem GivesReasons.under {c : Checked α} (hc : c.GivesReasons) (step : Step) :
    (c.under step).GivesReasons := by
  cases c with
  | valid a => exact givesReasons_valid a
  | invalid ps =>
    intro h
    exact hc (congrArg invalid (List.map_eq_nil_iff.mp (invalid.inj h)))

theorem GivesReasons.all {f : α → Checked β} (hf : ∀ a, (f a).GivesReasons) (as : List α) :
    (all f as).GivesReasons := by
  suffices h : ∀ i, (allFrom f i as).GivesReasons from h 0
  induction as with
  | nil => exact fun _ => givesReasons_valid []
  | cons a as ih => exact fun i => (((hf a).under (.index i)).map _).apply (ih (i + 1))

end Checked

open Checked

namespace Field
variable {α : Type}

/-! ### Scalars -/

theorem ofBytes_givesReasons {read : String → Checked α} (hread : ∀ s, (read s).GivesReasons)
    (e : ProblemKind) (bs : Bytes) : (ofBytes read e bs).GivesReasons := by
  unfold ofBytes
  split
  · exact hread _
  · exact givesReasons_fail _

theorem text_givesReasons (v : Value) : (text v).GivesReasons := by
  unfold text
  split
  · exact givesReasons_valid _
  · exact ofBytes_givesReasons givesReasons_valid _ _
  · exact givesReasons_fail _

theorem textOfLength_givesReasons (least : Nat) (v : Value) :
    (textOfLength least v).GivesReasons := by
  refine (text_givesReasons v).andThen fun s => ?_
  split
  · exact givesReasons_fail _
  · exact givesReasons_valid s

theorem integerOfText_givesReasons (s : String) : (integerOfText s).GivesReasons := by
  unfold integerOfText
  simp only
  split
  · exact givesReasons_fail _
  · split
    · exact givesReasons_fail _
    · exact givesReasons_valid _

theorem integerOfFloat_givesReasons (x : Double) : (integerOfFloat x).GivesReasons := by
  unfold integerOfFloat
  split
  · exact givesReasons_fail _
  · split
    · exact givesReasons_fail _
    · split
      · exact givesReasons_valid _
      · exact givesReasons_fail _

theorem integer_givesReasons (v : Value) : (integer v).GivesReasons := by
  unfold integer
  split
  · exact givesReasons_valid _
  · exact givesReasons_valid _
  · exact integerOfFloat_givesReasons _
  · exact integerOfText_givesReasons _
  · exact ofBytes_givesReasons integerOfText_givesReasons _ _
  · exact givesReasons_fail _

theorem natural_givesReasons (least : Nat) (v : Value) : (natural least v).GivesReasons := by
  refine (integer_givesReasons v).andThen fun i => ?_
  split
  · exact givesReasons_fail _
  · exact givesReasons_valid _

theorem booleanOfText_givesReasons (s : String) : (booleanOfText s).GivesReasons := by
  unfold booleanOfText
  split
  · exact givesReasons_valid _
  · split
    · exact givesReasons_valid _
    · exact givesReasons_fail _

theorem boolean_givesReasons (v : Value) : (boolean v).GivesReasons := by
  unfold boolean
  split
  · exact givesReasons_valid _
  · split
    · exact givesReasons_valid _
    · split
      · exact givesReasons_valid _
      · exact givesReasons_fail _
  · split
    · exact givesReasons_valid _
    · exact givesReasons_valid _
    · exact givesReasons_fail _
  · exact booleanOfText_givesReasons _
  · exact ofBytes_givesReasons booleanOfText_givesReasons _ _
  · exact givesReasons_fail _

theorem word_givesReasons (vocabulary : List α) (spelling : α → String) (v : Value) :
    (word vocabulary spelling v).GivesReasons := by
  unfold word
  simp only
  split
  · exact givesReasons_valid _
  · exact givesReasons_fail _

/-! ### Lists and maps -/

section
variable {read : FieldReader α}

theorem optional_givesReasons (h : ∀ v, (read v).GivesReasons) (v : Value) :
    (Field.optional read v).GivesReasons := by
  unfold Field.optional
  split
  · exact givesReasons_valid none
  · exact (h v).map some

theorem list_givesReasons (h : ∀ v, (read v).GivesReasons) (v : Value) :
    (list read v).GivesReasons := by
  unfold list
  split
  · exact GivesReasons.all h _
  · exact givesReasons_fail _

theorem required_givesReasons (h : ∀ v, (read v).GivesReasons) (es : List (Value × Value))
    (names : List String) : (required es names read).GivesReasons := by
  unfold required
  split
  · exact (h _).under _
  · exact (givesReasons_fail .missing).under _

theorem withDefault_givesReasons (h : ∀ v, (read v).GivesReasons) (es : List (Value × Value))
    (names : List String) (default : α) : (withDefault es names default read).GivesReasons := by
  unfold withDefault
  split
  · exact (h _).under _
  · exact givesReasons_valid default

end

theorem model_givesReasons {read : List (Value × Value) → Checked α}
    (h : ∀ es, (read es).GivesReasons) (name : String) (v : Value) :
    (model name read v).GivesReasons := by
  unfold model
  split
  · exact h _
  · exact givesReasons_fail _

end Field

open Sheetflow.Field

/-! ### Parts of configurations -/

theorem RowTest.make_givesReasons (kind : RowTestKind) (value : Option String) :
    (make kind value).GivesReasons := by
  unfold make
  split
  · exact givesReasons_valid _
  · exact givesReasons_valid _
  · exact givesReasons_valid _
  · exact givesReasons_fail _

theorem RowCondition.read_givesReasons (v : Value) : (read v).GivesReasons := by
  refine model_givesReasons (fun es => ?_) _ v
  have hkind := required_givesReasons (word_givesReasons RowTestKind.all RowTestKind.word) es ["type"]
  have hcolumn := withDefault_givesReasons (optional_givesReasons text_givesReasons) es ["column"] none
  have hvalue := withDefault_givesReasons (optional_givesReasons text_givesReasons) es ["value"] none
  refine (((hkind.map _).apply hcolumn).apply hvalue).andThen ?_
  rintro ⟨kind, column, value⟩
  exact (RowTest.make_givesReasons kind value).map _

theorem RowSelection.make_givesReasons (kind : SelectionKind) (rows : Option (List Nat))
    (condition : Option RowCondition) : (make kind rows condition).GivesReasons := by
  unfold make
  split
  · exact givesReasons_valid _
  · exact givesReasons_fail _
  · exact givesReasons_valid _
  · exact givesReasons_fail _

/-- Lists of row numbers, as rules hold them. -/
theorem rows_givesReasons (es : List (Value × Value)) :
    (withDefault es ["rows"] none (Field.optional (list (natural 1)))).GivesReasons :=
  withDefault_givesReasons (optional_givesReasons (list_givesReasons (natural_givesReasons 1))) es _ _

theorem texts_givesReasons (v : Value) : (list text v).GivesReasons :=
  list_givesReasons text_givesReasons v

theorem RowSelection.read_givesReasons (v : Value) : (read v).GivesReasons := by
  refine model_givesReasons (fun es => ?_) _ v
  have hkind := withDefault_givesReasons (word_givesReasons SelectionKind.all SelectionKind.word) es
    ["method"] .condition
  have hcondition := withDefault_givesReasons
    (optional_givesReasons RowCondition.read_givesReasons) es ["condition"] none
  refine (((hkind.map _).apply (rows_givesReasons es)).apply hcondition).andThen ?_
  rintro ⟨kind, rows, condition⟩
  exact make_givesReasons kind rows condition

theorem Replacement.check_givesReasons (r : Replacement) : r.check.GivesReasons := by
  unfold check
  split
  · split
    · exact givesReasons_fail _
    · exact givesReasons_valid _
  · split
    · exact givesReasons_fail _
    · exact givesReasons_valid _
  · exact givesReasons_valid _

theorem Replacement.read_givesReasons (v : Value) : (read v).GivesReasons := by
  refine model_givesReasons (fun es => ?_) _ v
  have hfind := required_givesReasons (textOfLength_givesReasons 1) es ["find"]
  have hreplace := withDefault_givesReasons text_givesReasons es ["replace"] ""
  have hscope := withDefault_givesReasons (word_givesReasons Scope.all Scope.word) es ["scope"]
    .everywhere
  have hcolumns := withDefault_givesReasons (optional_givesReasons texts_givesReasons) es ["columns"]
    none
  exact (((((hfind.map _).apply hreplace).apply hscope).apply hcolumns).apply
    (rows_givesReasons es)).andThen check_givesReasons

namespace Action

/-- The reader for every tag gives its reasons. -/
theorem reader?_givesReasons {tag : String} {read : FieldReader Action}
    (hr : reader? tag = some read) (v : Value) : (read v).GivesReasons := by
  unfold reader? at hr
  split at hr
  case h_9 => cases hr
  case h_4 =>
    obtain rfl := Option.some.inj hr
    exact (RowSelection.read_givesReasons v).map _
  all_goals
    obtain rfl := Option.some.inj hr
    refine model_givesReasons (fun es => ?_) _ v
  · exact ((required_givesReasons (word_givesReasons _ _) es _).map _).apply
      (required_givesReasons text_givesReasons es _)
  · exact ((required_givesReasons (natural_givesReasons 0) es _).map _).apply
      (required_givesReasons (word_givesReasons _ _) es _)
  · exact ((required_givesReasons texts_givesReasons es _).map _).apply
      (withDefault_givesReasons (word_givesReasons _ _) es _ _)
  · exact (required_givesReasons texts_givesReasons es _).map _
  · exact ((withDefault_givesReasons texts_givesReasons es _ _).map _).apply
      (required_givesReasons (word_givesReasons _ _) es _)
  · exact (required_givesReasons boolean_givesReasons es _).map _
  · exact (required_givesReasons (list_givesReasons Replacement.read_givesReasons) es _).map _

end Action

theorem Rule.read_givesReasons (v : Value) : (read v).GivesReasons := by
  unfold read
  split
  · split
    · exact givesReasons_fail _
    · split
      · exact givesReasons_fail _
      · rename_i reader hreader
        split at hreader
        · have haction := required_givesReasons (Action.reader?_givesReasons hreader)
          exact (((required_givesReasons (textOfLength_givesReasons 1) _ _).map _).apply
            (haction _ _)).under _
        · cases hreader
  · exact givesReasons_fail _

theorem Rule.readAll_givesReasons (v : Value) : (readAll v).GivesReasons :=
  list_givesReasons read_givesReasons v

theorem OutputFormat.read_givesReasons (v : Value) : (read v).GivesReasons := by
  refine model_givesReasons (fun es => ?_) _ v
  have hkind := withDefault_givesReasons (word_givesReasons [()] fun _ => "CSV") es ["type"] ()
  have hdelimiter := withDefault_givesReasons (textOfLength_givesReasons 1) es ["delimiter"] ","
  have hencoding := withDefault_givesReasons
    (word_givesReasons Csv.Encoding.all Csv.Encoding.name) es ["encoding"] .utf8
  have hheaders := withDefault_givesReasons boolean_givesReasons es
    ["includeHeaders", "include_headers"] true
  exact (((hkind.map _).apply hdelimiter).apply hencoding).apply hheaders

end Sheetflow
