/-!
# Checking several things at once

The outcome of a check is a value or all the problems found. Checks of independent parts are combined
so that the problems of each are kept, in order; a check that builds on an earlier one is only made
when that one succeeded.
-/

namespace Sheetflow

/-- A step on the way to a part of a value. -/
inductive Step where
  | key (name : String)
  | index (i : Nat)
deriving DecidableEq, Repr

def Step.text : Step → String
  | .key name => name
  | .index i => toString i

/-- What can be wrong with a value. -/
inductive ProblemKind where
  | missing
  | notAString
  | notUnicode
  | notAnInteger
  | notABoolean
  | notAList
  | notADictionary
  | integerSyntax
  | integerSize
  | integerFraction
  | notFinite
  | booleanSyntax
  | below (least : Int)
  | above (most : Int)
  | tooShort (least : Nat)
  | tooLong (most : Nat)
  | notAWord (words : List String)
  | notAStatus (words : List String)
  | notAModel (name : String)
  | noAttributes
  | noTag
  | unknownTag (tag : String) (tags : List String)
  | dateTimeType
  | dateTimeSyntax (reason : String)
  | dateTimeOrDateSyntax (reason : String)
  | custom (message : String)
deriving DecidableEq, Repr

namespace ProblemKind

/-- The code of a kind of problem. -/
def code : ProblemKind → String
  | .missing => "missing"
  | .notAString => "string_type"
  | .notUnicode => "string_unicode"
  | .notAnInteger => "int_type"
  | .notABoolean => "bool_type"
  | .notAList => "list_type"
  | .notADictionary => "dict_type"
  | .integerSyntax => "int_parsing"
  | .integerSize => "int_parsing_size"
  | .integerFraction => "int_from_float"
  | .notFinite => "finite_number"
  | .booleanSyntax => "bool_parsing"
  | .below _ => "greater_than_equal"
  | .above _ => "less_than_equal"
  | .tooShort _ => "string_too_short"
  | .tooLong _ => "string_too_long"
  | .notAWord _ => "literal_error"
  | .notAStatus _ => "enum"
  | .notAModel _ => "model_type"
  | .noAttributes => "model_attributes_type"
  | .noTag => "union_tag_not_found"
  | .unknownTag _ _ => "union_tag_invalid"
  | .dateTimeType => "datetime_type"
  | .dateTimeSyntax _ => "datetime_parsing"
  | .dateTimeOrDateSyntax _ => "datetime_from_date_parsing"
  | .custom _ => "value_error"

def inQuotes (s : String) : String := "'" ++ s ++ "'"

/-- Words in quotes with commas between them and `or` before the last. -/
def alternatives : List String → String
  | [] => ""
  | [w] => inQuotes w
  | [v, w] => inQuotes v ++ " or " ++ inQuotes w
  | w :: ws => inQuotes w ++ ", " ++ alternatives ws

def characters (n : Nat) : String := toString n ++ (if n = 1 then " character" else " characters")

def message : ProblemKind → String
  | .missing => "Field required"
  | .notAString => "Input should be a valid string"
  | .notUnicode => "Input should be a valid string, unable to parse raw data as a unicode string"
  | .notAnInteger => "Input should be a valid integer"
  | .notABoolean => "Input should be a valid boolean"
  | .notAList => "Input should be a valid list"
  | .notADictionary => "Input should be a valid dictionary"
  | .integerSyntax => "Input should be a valid integer, unable to parse string as an integer"
  | .integerSize => "Unable to parse input string as an integer, exceeded maximum size"
  | .integerFraction => "Input should be a valid integer, got a number with a fractional part"
  | .notFinite => "Input should be a finite number"
  | .booleanSyntax => "Input should be a valid boolean, unable to interpret input"
  | .below n => "Input should be greater than or equal to " ++ toString n
  | .above n => "Input should be less than or equal to " ++ toString n
  | .tooShort n => "String should have at least " ++ characters n
  | .tooLong n => "String should have at most " ++ characters n
  | .notAWord ws => "Input should be " ++ alternatives ws
  | .notAStatus ws => "Input should be " ++ alternatives ws
  | .notAModel name => "Input should be a valid dictionary or instance of " ++ name
  | .noAttributes => "Input should be a valid dictionary or object to extract fields from"
  | .noTag => "Unable to extract tag using discriminator 'type'"
  | .unknownTag tag tags =>
    "Input tag '" ++ tag ++ "' found using 'type' does not match any of the expected tags: " ++
      String.intercalate ", " (tags.map inQuotes)
  | .dateTimeType => "Input should be a valid datetime"
  | .dateTimeSyntax reason => "Input should be a valid datetime, " ++ reason
  | .dateTimeOrDateSyntax reason => "Input should be a valid datetime or date, " ++ reason
  | .custom message => "Value error, " ++ message

end ProblemKind

/-- A problem with the part of a value that a path leads to. -/
structure Problem where
  path : List Step
  kind : ProblemKind
deriving DecidableEq, Repr

/-- A value, or everything that is wrong. -/
inductive Checked (α : Type) where
  | valid (a : α)
  | invalid (problems : List Problem)
deriving Repr

namespace Checked

variable {α β : Type}

def fail (kind : ProblemKind) : Checked α := .invalid [⟨[], kind⟩]

def map (c : Checked α) (f : α → β) : Checked β :=
  match c with
  | .valid a => .valid (f a)
  | .invalid ps => .invalid ps

/-- Both checks are made, and the problems of both are kept. -/
def apply : Checked (α → β) → Checked α → Checked β
  | .valid f, .valid a => .valid (f a)
  | .valid _, .invalid ps => .invalid ps
  | .invalid ps, .valid _ => .invalid ps
  | .invalid ps, .invalid qs => .invalid (ps ++ qs)

/-- The second check is made on the result of the first. -/
def andThen (c : Checked α) (f : α → Checked β) : Checked β :=
  match c with
  | .valid a => f a
  | .invalid ps => .invalid ps

/-- The problems as those of a part of something larger. -/
def under (c : Checked α) (step : Step) : Checked α :=
  match c with
  | .valid a => .valid a
  | .invalid ps => .invalid (ps.map fun p => { p with path := step :: p.path })

/-- All elements, of which the first has index `i`. -/
def allFrom (f : α → Checked β) (i : Nat) : List α → Checked (List β)
  | [] => .valid []
  | a :: as => (((f a).under (.index i)).map fun b bs => b :: bs).apply (allFrom f (i + 1) as)

def all (f : α → Checked β) (as : List α) : Checked (List β) := allFrom f 0 as

def toExcept : Checked α → Except (List Problem) α
  | .valid a => .ok a
  | .invalid ps => .error ps

theorem apply_valid_iff {f : Checked (α → β)} {a : Checked α} {b : β} :
    f.apply a = .valid b ↔ ∃ g x, f = .valid g ∧ a = .valid x ∧ g x = b := by
  cases f <;> cases a <;> simp [apply]

theorem map_valid_iff {f : α → β} {a : Checked α} {b : β} :
    a.map f = .valid b ↔ ∃ x, a = .valid x ∧ f x = b := by
  cases a <;> simp [map]

end Checked

end Sheetflow
