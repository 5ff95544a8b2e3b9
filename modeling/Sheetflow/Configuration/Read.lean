import Sheetflow.Configuration.Basic
import Sheetflow.Time.Read

/-!
# Reading configurations

The stored form of a configuration is read field by field. Fields may have their older names.
-/

namespace Sheetflow

open Sheetflow.Field

namespace Field

/-- A date and time. -/
def dateTime : FieldReader DateTime
  | .str s =>
    match DateTime.read s with
    | .ok t => .valid t
    | .error e => .fail (.dateTimeOrDateSyntax e.message)
  | .int i =>
    match DateTime.ofNumber i with
    | .ok t => .valid t
    | .error e => .fail (.dateTimeSyntax e.message)
  | .float x =>
    match DateTime.ofDouble x with
    | .ok t => .valid t
    | .error e => .fail (.dateTimeSyntax e.message)
  | .dateTime t => .valid t
  | .date d => .valid ⟨d, 0, 0, 0, 0, none⟩
  | _ => .fail .dateTimeType

end Field

def OutputFormat.read : FieldReader OutputFormat :=
  model "OutputFormat" fun es =>
    (((withDefault es ["type"] () (word [()] fun _ => "CSV")).map fun _ => OutputFormat.mk).apply
      (withDefault es ["delimiter"] "," (textOfLength 1))
      |>.apply (withDefault es ["encoding"] .utf8 (word Csv.Encoding.all Csv.Encoding.name))
      |>.apply (withDefault es ["includeHeaders", "include_headers"] true boolean))

def Configuration.read : FieldReader Configuration :=
  model "Configuration" fun es =>
    (((required es ["id"] text).map Configuration.mk).apply
      (required es ["organizationId", "organization_id"] text)
      |>.apply (required es ["name"] (textOfLength 1))
      |>.apply (withDefault es ["description"] none (optional text))
      |>.apply (required es ["rules"] Rule.readAll)
      |>.apply (withDefault es ["outputFormat", "output_format"] {} OutputFormat.read)
      |>.apply (withDefault es ["version"] 1 integer)
      |>.apply (withDefault es ["isActive", "is_active"] true boolean)
      |>.apply (withDefault es ["createdAt", "created_at"] none (optional dateTime))
      |>.apply (withDefault es ["updatedAt", "updated_at"] none (optional dateTime)))

end Sheetflow
