import Sheetflow.Proofs.Field.Restores
import Sheetflow.Rule.Read

/-!
# Written rules

A rule is written with the current names of its parameters and without what was not given.  Every
reader of a part of a rule restores what it has read from the written form, under whatever names and
in whatever spelling it was read first.  For a part that is checked as a whole, the check
passes again because it depends on nothing but the part itself.

`Action.restores_reader?` puts the eight kinds of actions together, and `Rule.restores_read` adds the
id and the tag.  What was not given is left out, or written as null.
-/

namespace Sheetflow

open Sheetflow.Field Checked

variable (nulls : Bool)

@[simp] theorem get?_whenGiven {α : Type} (name key : String) (write : α → Value) (o : Option α) :
    Table.get? (whenGiven nulls key write o) name =
      if key = name then written nulls write o else none := by
  cases o with
  | none => cases nulls <;> simp [whenGiven, written, Table.get?_cons]
  | some a => simp [whenGiven, written, Table.get?_cons]

theorem restores_texts : Restores (list text) Value.texts := restores_list restores_text

theorem restores_naturals (least : Nat) : Restores (list (natural least)) Value.naturals :=
  restores_list (restores_natural least)

/-! ### Selecting rows -/

namespace RowTest

theorem word_of_make {kind : RowTestKind} {value : Option String} {test : RowTest}
    (h : make kind value = .valid test) : test.word = kind.word ∧ test.value? = value := by
  unfold make at h
  split at h
  case h_1 =>
    cases h
    exact ⟨rfl, rfl⟩
  case h_4 => cases h
  all_goals
    rename_i s hs
    cases h
    obtain ⟨hvalue, -⟩ := Option.filter_eq_some_iff.mp hs
    exact ⟨rfl, hvalue.symm⟩

end RowTest

theorem RowCondition.restores_read : Restores RowCondition.read (RowCondition.dump nulls) := by
  intro v c h
  obtain ⟨es, rfl, hes⟩ := exists_of_model h
  obtain ⟨⟨kind, column, value⟩, hfields, hmake⟩ := andThen_valid_iff.mp hes
  obtain ⟨test, htest, rfl⟩ := map_valid_iff.mp hmake
  simp only [apply_valid_iff, map_valid_iff] at hfields
  obtain ⟨_, _, ⟨_, _, ⟨_, hkind, rfl⟩, hcolumn, rfl⟩, hvalue, he⟩ := hfields
  cases he
  obtain ⟨_, hkind⟩ := exists_of_required hkind
  obtain ⟨hword, htext⟩ := RowTest.word_of_make htest
  rw [dump, hword, htext, Value.record, read, model,
    required_record (by simp [Table.get?_cons]) (restores_word _ _ hkind),
    optional_record nulls restores_text (fun _ => Value.noConfusion) hcolumn (by simp [Table.get?_cons]),
    optional_record nulls restores_text (fun _ => Value.noConfusion) hvalue (by simp [Table.get?_cons])]
  simp only [map_valid, apply_valid, andThen_valid, htest]

theorem SelectionKind.read_word (k : SelectionKind) :
    Field.word all word (.str k.word) = .valid k := by
  cases k <;> rfl

theorem RowSelection.restores_read : Restores RowSelection.read (RowSelection.dump nulls) := by
  intro v s h
  obtain ⟨es, rfl, hes⟩ := exists_of_model h
  obtain ⟨⟨kind, rows, condition⟩, hfields, hmake⟩ := andThen_valid_iff.mp hes
  simp only [apply_valid_iff, map_valid_iff] at hfields
  obtain ⟨_, _, ⟨_, _, ⟨_, -, rfl⟩, hrows, rfl⟩, hcondition, he⟩ := hfields
  cases he
  cases kind with
  | rows =>
    cases rows with
    | none => cases hmake
    | some ns =>
      cases hmake
      rw [dump, Value.record, read, model,
        withDefault_record (by simp [Table.get?_cons, SelectionKind.word])
          (SelectionKind.read_word .rows),
        optional_record nulls (restores_naturals 1) (fun _ => Value.noConfusion) hrows
          (by simp [Table.get?_cons]),
        optional_record nulls (RowCondition.restores_read nulls) (fun _ => Value.noConfusion) hcondition
          (by simp [Table.get?_cons])]
      rfl
  | condition =>
    cases condition with
    | none => cases rows <;> cases hmake
    | some c =>
      cases hmake
      rw [dump, Value.record, read, model,
        withDefault_record (by simp [Table.get?_cons, SelectionKind.word])
          (SelectionKind.read_word .condition),
        optional_record nulls (restores_naturals 1) (fun _ => Value.noConfusion) hrows
          (by simp [Table.get?_cons]),
        optional_record nulls (RowCondition.restores_read nulls) (fun _ => Value.noConfusion) hcondition
          (by simp [Table.get?_cons])]
      rfl

/-! ### Replacements -/

theorem Replacement.eq_of_check {r s : Replacement} (h : r.check = .valid s) : s = r := by
  unfold check at h
  split at h
  · split at h
    · cases h
    · exact (Checked.valid.inj h).symm
  · split at h
    · cases h
    · exact (Checked.valid.inj h).symm
  · exact (Checked.valid.inj h).symm

theorem Scope.read_word (s : Scope) : Field.word all word (.str s.word) = .valid s := by
  cases s <;> rfl

theorem Replacement.restores_read : Restores Replacement.read (Replacement.dump nulls) := by
  intro v r h
  obtain ⟨es, rfl, hes⟩ := exists_of_model h
  obtain ⟨t, hfields, hcheck⟩ := andThen_valid_iff.mp hes
  obtain rfl := eq_of_check hcheck
  simp only [apply_valid_iff, map_valid_iff] at hfields
  obtain ⟨_, rows, ⟨_, columns, ⟨_, scope, ⟨_, replace, ⟨find, hfind, rfl⟩, -, rfl⟩, -, rfl⟩,
    hcolumns, rfl⟩, hrows, rfl⟩ := hfields
  obtain ⟨_, hfind⟩ := exists_of_required hfind
  rw [dump, Value.record, read, model,
    required_record (by simp [Table.get?_cons]) (restores_textOfLength 1 hfind),
    withDefault_record (by simp [Table.get?_cons]) (show text (.str replace) = _ from rfl),
    withDefault_record (by simp [Table.get?_cons]) scope.read_word,
    optional_record nulls restores_texts (fun _ => Value.noConfusion) hcolumns
      (by simp [Table.get?_cons]),
    optional_record nulls (restores_naturals 1) (fun _ => Value.noConfusion) hrows
      (by simp [Table.get?_cons])]
  exact hcheck

/-! ### Actions -/

theorem Direction.read_word (d : Direction) : Field.word all word (.str d.word) = .valid d := by
  cases d <;> rfl

namespace Action
variable {v : Value} {a : Action}

theorem restores_readSelect (h : readSelect v = .valid a) :
    a.tag = "SELECT_WORKSHEET" ∧ readSelect (a.dump nulls) = .valid a := by
  obtain ⟨es, rfl, hfields⟩ := exists_of_model h
  simp only [apply_valid_iff, map_valid_iff] at hfields
  obtain ⟨_, value, ⟨choice, hchoice, rfl⟩, -, rfl⟩ := hfields
  obtain ⟨_, hchoice⟩ := exists_of_required hchoice
  refine ⟨rfl, ?_⟩
  rw [dump, Value.record, readSelect, model,
    required_record (by simp [Table.get?_cons]) (restores_word _ _ hchoice),
    required_record (by simp [Table.get?_cons]) (show text (.str value) = _ from rfl)]
  rfl

theorem restores_readValidate (h : readValidate v = .valid a) :
    a.tag = "VALIDATE_COLUMNS" ∧ readValidate (a.dump nulls) = .valid a := by
  obtain ⟨es, rfl, hfields⟩ := exists_of_model h
  simp only [apply_valid_iff, map_valid_iff] at hfields
  obtain ⟨_, onMismatch, ⟨expected, hexpected, rfl⟩, hmismatch, rfl⟩ := hfields
  obtain ⟨_, hexpected⟩ := exists_of_required hexpected
  obtain ⟨_, hmismatch⟩ := exists_of_required hmismatch
  refine ⟨rfl, ?_⟩
  rw [dump, Value.record, readValidate, model,
    required_record (by simp [Table.get?_cons]) (restores_natural 0 hexpected),
    required_record (by simp [Table.get?_cons]) (restores_word _ _ hmismatch)]
  rfl

theorem restores_readFill (h : readFill v = .valid a) :
    a.tag = "UNMERGE_AND_FILL" ∧ readFill (a.dump nulls) = .valid a := by
  obtain ⟨es, rfl, hfields⟩ := exists_of_model h
  simp only [apply_valid_iff, map_valid_iff] at hfields
  obtain ⟨_, direction, ⟨columns, hcolumns, rfl⟩, -, rfl⟩ := hfields
  obtain ⟨_, hcolumns⟩ := exists_of_required hcolumns
  refine ⟨rfl, ?_⟩
  rw [dump, Value.record, readFill, model,
    required_record (by simp [Table.get?_cons]) (restores_texts hcolumns),
    withDefault_record (by simp [Table.get?_cons]) direction.read_word]
  rfl

theorem restores_readDeleteColumns (h : readDeleteColumns v = .valid a) :
    a.tag = "DELETE_COLUMNS" ∧ readDeleteColumns (a.dump nulls) = .valid a := by
  obtain ⟨es, rfl, hes⟩ := exists_of_model h
  obtain ⟨columns, hcolumns, rfl⟩ := map_valid_iff.mp hes
  obtain ⟨_, hcolumns⟩ := exists_of_required hcolumns
  refine ⟨rfl, ?_⟩
  rw [dump, Value.record, readDeleteColumns, model,
    required_record (by simp [Table.get?_cons]) (restores_texts hcolumns)]
  rfl

theorem restores_readCombine (h : readCombine v = .valid a) :
    a.tag = "COMBINE_WORKSHEETS" ∧ readCombine (a.dump nulls) = .valid a := by
  obtain ⟨es, rfl, hfields⟩ := exists_of_model h
  simp only [apply_valid_iff, map_valid_iff] at hfields
  obtain ⟨_, how, ⟨sources, hsources, rfl⟩, hhow, rfl⟩ := hfields
  obtain ⟨_, hhow⟩ := exists_of_required hhow
  have hread : list text (Value.texts sources) = .valid sources := by
    rcases exists_of_withDefault hsources with rfl | ⟨_, hv⟩
    · rfl
    · exact restores_texts hv
  refine ⟨rfl, ?_⟩
  rw [dump, Value.record, readCombine, model,
    withDefault_record (by simp [Table.get?_cons]) hread,
    required_record (by simp [Table.get?_cons]) (restores_word _ _ hhow)]
  rfl

theorem restores_readFormulas (h : readFormulas v = .valid a) :
    a.tag = "EVALUATE_FORMULAS" ∧ readFormulas (a.dump nulls) = .valid a := by
  obtain ⟨es, rfl, hes⟩ := exists_of_model h
  obtain ⟨enabled, -, rfl⟩ := map_valid_iff.mp hes
  refine ⟨rfl, ?_⟩
  rw [dump, Value.record, readFormulas, model,
    required_record (by simp [Table.get?_cons]) (show boolean (.bool enabled) = _ from rfl)]
  rfl

theorem restores_readReplace (h : readReplace v = .valid a) :
    a.tag = "REPLACE_CHARACTERS" ∧ readReplace (a.dump nulls) = .valid a := by
  obtain ⟨es, rfl, hes⟩ := exists_of_model h
  obtain ⟨replacements, hreplacements, rfl⟩ := map_valid_iff.mp hes
  obtain ⟨_, hreplacements⟩ := exists_of_required hreplacements
  refine ⟨rfl, ?_⟩
  rw [dump, Value.record, readReplace, model,
    required_record (by simp [Table.get?_cons])
      (restores_list (Replacement.restores_read nulls) hreplacements)]
  rfl

theorem restores_deleteRows (h : (RowSelection.read v).map deleteRows = .valid a) :
    a.tag = "DELETE_ROWS" ∧ (RowSelection.read (a.dump nulls)).map deleteRows = .valid a := by
  obtain ⟨rows, hrows, rfl⟩ := map_valid_iff.mp h
  refine ⟨rfl, ?_⟩
  rw [dump, RowSelection.restores_read nulls hrows]
  rfl

/-- **The reader for a tag** reads actions of that tag, and restores them. -/
theorem restores_reader? {tag : String} {read : FieldReader Action} (hr : reader? tag = some read)
    (h : read v = .valid a) : a.tag = tag ∧ read (a.dump nulls) = .valid a := by
  unfold reader? at hr
  split at hr
  case h_9 => cases hr
  all_goals obtain rfl := Option.some.inj hr
  · exact restores_readSelect nulls h
  · exact restores_readValidate nulls h
  · exact restores_readFill nulls h
  · exact restores_deleteRows nulls h
  · exact restores_readDeleteColumns nulls h
  · exact restores_readCombine nulls h
  · exact restores_readFormulas nulls h
  · exact restores_readReplace nulls h

end Action

/-! ### Rules -/

namespace Rule

/-- What a rule was read from: a map with its id, the tag of its action and parameters. -/
theorem fields_of_read {v : Value} {r : Rule} (h : read v = .valid r) :
    ∃ es tag reader, v = .map es ∧ Value.entry? "type" es = some (.str tag) ∧
      Action.reader? tag = some reader ∧ required es ["params"] reader = .valid r.action ∧
      required es ["id"] (textOfLength 1) = .valid r.id := by
  unfold read at h
  split at h
  case h_2 => cases h
  case h_1 es =>
    split at h
    · cases h
    · rename_i tag htag
      split at h
      · cases h
      · rename_i reader hreader
        split at hreader
        · rename_i s
          have h := under_valid_iff.mp h
          simp only [apply_valid_iff, map_valid_iff] at h
          obtain ⟨_, action, ⟨id, hid, rfl⟩, haction, rfl⟩ := h
          exact ⟨es, s, reader, rfl, htag, hreader, haction, hid⟩
        · cases hreader

theorem exists_of_read {v : Value} {r : Rule} (h : read v = .valid r) :
    ∃ es tag reader params, v = .map es ∧ Value.entry? "type" es = some (.str tag) ∧
      Action.reader? tag = some reader ∧ reader params = .valid r.action ∧
      required es ["id"] (textOfLength 1) = .valid r.id := by
  obtain ⟨es, tag, reader, hv, htag, hreader, haction, hid⟩ := fields_of_read h
  obtain ⟨params, hparams⟩ := exists_of_required haction
  exact ⟨es, tag, reader, params, hv, htag, hreader, hparams, hid⟩

theorem restores_read : Restores read (dump nulls) := by
  intro v r h
  obtain ⟨es, tag, reader, params, -, -, hreader, hparams, hid⟩ := exists_of_read h
  obtain ⟨_, hid⟩ := exists_of_required hid
  obtain ⟨htag, haction⟩ := Action.restores_reader? nulls hreader hparams
  have htype : Value.entry? "type" ([("id", .str r.id), ("type", .str r.action.tag),
      ("params", r.action.dump nulls)].map fun e => (Value.str e.1, e.2)) = some (.str tag) := by
    rw [Value.entry?_record, htag]
    simp [Table.get?_cons]
  unfold read dump Value.record
  simp only [htype, hreader]
  rw [required_record (by simp [Table.get?_cons]) (restores_textOfLength 1 hid),
    required_record (by simp [Table.get?_cons]) haction]
  rfl

end Rule

end Sheetflow
