import Sheetflow.Field.Read
import Sheetflow.Rule.Basic

/-!
# Rules in documents

A rule is written as a map with its id, the tag of its action and a map of parameters. Some parameters
have older names, which are still read; `dump` writes the current ones, and leaves out what was not
given.
-/

namespace Sheetflow

open Sheetflow.Field

def SheetChoice.all : List SheetChoice := [.name, .pattern, .index]

def OnMismatch.all : List OnMismatch := [.stop, .notify, .continue_]

def Direction.all : List Direction := [.up, .down]

def Combination.all : List Combination := [.append, .merge]

def Scope.all : List Scope := [.everywhere, .columns, .rows]

/-- Kinds of row tests as they are written. -/
inductive RowTestKind where
  | blank
  | contains
  | pattern
deriving DecidableEq

def RowTestKind.all : List RowTestKind := [.blank, .contains, .pattern]

def RowTestKind.word : RowTestKind → String
  | .blank => "empty"
  | .contains => "contains"
  | .pattern => "pattern"

/-- Ways to select rows as they are written. -/
inductive SelectionKind where
  | rows
  | condition
deriving DecidableEq

def SelectionKind.all : List SelectionKind := [.rows, .condition]

def SelectionKind.word : SelectionKind → String
  | .rows => "rows"
  | .condition => "condition"

/-- A kind of test with the text it looks for. -/
def RowTest.make (kind : RowTestKind) (value : Option String) : Checked RowTest :=
  match kind, value.filter (· ≠ "") with
  | .blank, _ => .valid (.blank value)
  | .contains, some s => .valid (.contains s)
  | .pattern, some s => .valid (.pattern s)
  | kind, none =>
    .fail (.custom ("condition type '" ++ kind.word ++ "' requires a non-empty value"))

def RowCondition.read : FieldReader RowCondition :=
  model "RowCondition" fun es =>
    (((required es ["type"] (word RowTestKind.all RowTestKind.word)).map fun kind column value =>
      (kind, column, value)).apply (withDefault es ["column"] none (optional text))
      |>.apply (withDefault es ["value"] none (optional text))).andThen fun (kind, column, value) =>
        (RowTest.make kind value).map fun test => ⟨test, column⟩

def RowSelection.make (kind : SelectionKind) (rows : Option (List Nat))
    (condition : Option RowCondition) : Checked RowSelection :=
  match kind, rows, condition with
  | .rows, some rows, condition => .valid (.byNumber rows condition)
  | .rows, none, _ => .fail (.custom "method 'rows' requires a 'rows' list")
  | .condition, rows, some condition => .valid (.byCondition condition rows)
  | .condition, _, none => .fail (.custom "method 'condition' requires a 'condition'")

def RowSelection.read : FieldReader RowSelection :=
  model "DeleteRowsParams" fun es =>
    (((withDefault es ["method"] .condition (word SelectionKind.all SelectionKind.word)).map
      fun kind rows condition => (kind, rows, condition)).apply
        (withDefault es ["rows"] none (optional (list (natural 1))))
      |>.apply (withDefault es ["condition"] none (optional RowCondition.read))).andThen
        fun (kind, rows, condition) => RowSelection.make kind rows condition

/-- The scope of a replacement comes with what it is limited to. -/
def Replacement.check (r : Replacement) : Checked Replacement :=
  match r.scope with
  | .columns =>
    if (r.columns.getD []).isEmpty then
      .fail (.custom "scope 'specific_columns' requires a 'columns' list")
    else .valid r
  | .rows =>
    if (r.rows.getD []).isEmpty then .fail (.custom "scope 'specific_rows' requires a 'rows' list")
    else .valid r
  | .everywhere => .valid r

def Replacement.read : FieldReader Replacement :=
  model "Replacement" fun es =>
    (((required es ["find"] (textOfLength 1)).map Replacement.mk).apply
      (withDefault es ["replace"] "" text)
      |>.apply (withDefault es ["scope"] .everywhere (word Scope.all Scope.word))
      |>.apply (withDefault es ["columns"] none (optional (list text)))
      |>.apply (withDefault es ["rows"] none (optional (list (natural 1))))).andThen Replacement.check

/-- The tags of all actions. -/
def Action.tags : List String :=
  ["SELECT_WORKSHEET", "VALIDATE_COLUMNS", "UNMERGE_AND_FILL", "DELETE_ROWS", "DELETE_COLUMNS",
    "COMBINE_WORKSHEETS", "EVALUATE_FORMULAS", "REPLACE_CHARACTERS"]

def Action.readSelect : FieldReader Action :=
  model "SelectWorksheetParams" fun es =>
    ((required es ["identifierType", "type", "identifier_type"]
      (word SheetChoice.all SheetChoice.word)).map Action.selectWorksheet).apply
      (required es ["value"] text)

def Action.readValidate : FieldReader Action :=
  model "ValidateColumnsParams" fun es =>
    ((required es ["expectedCount", "numOfColumns", "expected_count"] (natural 0)).map
      Action.validateColumns).apply
      (required es ["onFailure", "on_failure"] (word OnMismatch.all OnMismatch.word))

def Action.readFill : FieldReader Action :=
  model "UnmergeAndFillParams" fun es =>
    ((required es ["columns"] (list text)).map Action.unmergeAndFill).apply
      (withDefault es ["direction", "fillDirection"] .down (word Direction.all Direction.word))

def Action.readDeleteColumns : FieldReader Action :=
  model "DeleteColumnsParams" fun es =>
    (required es ["columns"] (list text)).map Action.deleteColumns

def Action.readCombine : FieldReader Action :=
  model "CombineWorksheetsParams" fun es =>
    ((withDefault es ["sourceSheets", "source_sheets"] [] (list text)).map
      Action.combineWorksheets).apply
      (required es ["operation"] (word Combination.all Combination.word))

def Action.readFormulas : FieldReader Action :=
  model "EvaluateFormulasParams" fun es =>
    (required es ["enabled"] boolean).map Action.evaluateFormulas

def Action.readReplace : FieldReader Action :=
  model "ReplaceCharactersParams" fun es =>
    (required es ["replacements"] (list Replacement.read)).map Action.replaceCharacters

/-- How the parameters of the action with a tag are read. -/
def Action.reader? : String → Option (FieldReader Action)
  | "SELECT_WORKSHEET" => some readSelect
  | "VALIDATE_COLUMNS" => some readValidate
  | "UNMERGE_AND_FILL" => some readFill
  | "DELETE_ROWS" => some fun v => (RowSelection.read v).map Action.deleteRows
  | "DELETE_COLUMNS" => some readDeleteColumns
  | "COMBINE_WORKSHEETS" => some readCombine
  | "EVALUATE_FORMULAS" => some readFormulas
  | "REPLACE_CHARACTERS" => some readReplace
  | _ => none

/-- Read a rule by the tag of its action. -/
def Rule.read : FieldReader Rule
  | .map es =>
    match Value.entry? "type" es with
    | none => .fail .noTag
    | some tag =>
      let name := tag.plainText
      match (match tag with
        | .str s => Action.reader? s
        | _ => none) with
      | none => .fail (.unknownTag name Action.tags)
      | some reader =>
        (((required es ["id"] (textOfLength 1)).map Rule.mk).apply
          (required es ["params"] reader)).under (.key name)
  | _ => .fail .noAttributes

/-- Read a list of rules. -/
def Rule.readAll : FieldReader (List Rule) := list Rule.read

namespace Value

def texts (xs : List String) : Value := .list (xs.map .str)

def naturals (ns : List Nat) : Value := .list (ns.map fun n : Nat => .int n)

end Value

open Value

def RowTest.value? : RowTest → Option String
  | .blank unused => unused
  | .contains s => some s
  | .pattern s => some s

/-- Leave out what was not given, or write it as null. -/
def whenGiven {α : Type} (nulls : Bool) (name : String) (write : α → Value) (a : Option α) :
    List (String × Value) :=
  match a with
  | some a => [(name, write a)]
  | none => if nulls then [(name, .null)] else []

def RowCondition.dump (nulls : Bool) (c : RowCondition) : Value :=
  .record ([("type", .str c.test.word)] ++ whenGiven nulls "column" .str c.column ++
    whenGiven nulls "value" .str c.test.value?)

def RowSelection.dump (nulls : Bool) : RowSelection → Value
  | .byNumber rows condition =>
    .record ([("method", .str "rows"), ("rows", naturals rows)] ++
      whenGiven nulls "condition" (RowCondition.dump nulls) condition)
  | .byCondition condition rows =>
    .record ([("method", .str "condition")] ++ whenGiven nulls "rows" naturals rows ++
      [("condition", condition.dump nulls)])

def Replacement.dump (nulls : Bool) (r : Replacement) : Value :=
  .record ([("find", .str r.find), ("replace", .str r.replace), ("scope", .str r.scope.word)] ++
    whenGiven nulls "columns" texts r.columns ++ whenGiven nulls "rows" naturals r.rows)

/-- The parameters of an action under their current names. -/
def Action.dump (nulls : Bool) : Action → Value
  | .selectWorksheet choice value =>
    .record [("identifierType", .str choice.word), ("value", .str value)]
  | .validateColumns expected onMismatch =>
    .record [("expectedCount", .int expected), ("onFailure", .str onMismatch.word)]
  | .unmergeAndFill columns direction =>
    .record [("columns", texts columns), ("direction", .str direction.word)]
  | .deleteRows rows => rows.dump nulls
  | .deleteColumns columns => .record [("columns", texts columns)]
  | .combineWorksheets sources how =>
    .record [("sourceSheets", texts sources), ("operation", .str how.word)]
  | .evaluateFormulas enabled => .record [("enabled", .bool enabled)]
  | .replaceCharacters replacements =>
    .record [("replacements", .list (replacements.map (Replacement.dump nulls)))]

/-- The written form of a rule; what was not given is left out, or null if `nulls` holds. -/
def Rule.dump (nulls : Bool) (r : Rule) : Value :=
  .record [("id", .str r.id), ("type", .str r.action.tag), ("params", r.action.dump nulls)]

end Sheetflow
