import Sheetflow.Configuration.Read

/-!
# Portable documents

A configuration travels as a document with a name, perhaps a description, rules and an output format.
`problems` checks the shape of a document and lists everything that is wrong with it; `parse` then
reads rules and format and makes a configuration, or says why not. What `Configuration.exported`
writes is such a document.
-/

namespace Sheetflow.Document

/-- Is the entry a text that is not blank? -/
def isFilledText : Option Value → Bool
  | some (.str s) => !Text.isBlankText s
  | _ => false

def isMapEntry : Option Value → Bool
  | some v => v.isMap
  | none => false

/-- What is wrong with the type of rule `place`. -/
def tagProblems (place : String) : Option Value → List String
  | some (.str s) =>
    if Text.isBlankText s then [place ++ ".type must be a non-empty string"]
    else if Action.tags.contains s then []
    else [place ++ ".type '" ++ s ++ "' is not a known rule type"]
  | _ => [place ++ ".type must be a non-empty string"]

/-- What is wrong with the rule at index `i`. -/
def ruleProblems (i : Nat) (rule : Value) : List String :=
  let place := "rules[" ++ toString i ++ "]"
  match rule with
  | .map es =>
    (if isFilledText (Value.entry? "id" es) then []
      else [place ++ ".id must be a non-empty string"]) ++
    tagProblems place (Value.entry? "type" es) ++
    (if isMapEntry (Value.entry? "params" es) then [] else [place ++ ".params must be an object"])
  | _ => [place ++ " must be an object"]

def ruleListProblems : Option Value → List String
  | some (.list rules) => rules.zipIdx.flatMap fun (rule, i) => ruleProblems i rule
  | _ => ["'rules' must be an array"]

def descriptionProblems : Option Value → List String
  | none => []
  | some .null => []
  | some (.str _) => []
  | some _ => ["'description' must be a string"]

/-- Does the entry ask for the one kind of output there is? -/
def isDelimitedFormat (format : Option Value) : Bool :=
  match format.bind (·.get? "type") with
  | some (.str s) => s == "CSV"
  | _ => false

/-- Everything that is wrong with the shape of a document. -/
def problems : Value → List String
  | .map es =>
    (if isFilledText (Value.entry? "name" es) then [] else ["'name' must be a non-empty string"]) ++
    descriptionProblems (Value.entry? "description" es) ++
    ruleListProblems (Value.entry? "rules" es) ++
    (if isDelimitedFormat (Value.entry? "outputFormat" es) then []
      else ["'outputFormat.type' must be \"CSV\""])
  | _ => ["Configuration document must be an object"]

/-- A problem with a part of a document, as one line. -/
def problemLine (part : String) (p : Problem) : String :=
  let place := String.intercalate "." (p.path.map Step.text)
  part ++ (if place = "" then "" else "." ++ place) ++ ": " ++ p.kind.message

/-- The texts that occur more than once, in ascending order. -/
def repeated (ids : List String) : List String :=
  ((ids.filter fun i => 1 < ids.count i).eraseDups).mergeSort (· ≤ ·)

/-- What a configuration is made for. -/
structure Target where
  organization : String
  id : String
  version : Int

/-- The configuration for a document with these rules and this format. -/
def build (target : Target) (doc : Value) (rules : List Rule) (output : OutputFormat) : Configuration :=
  let textOf (name : String) : Option String := match doc.get? name with
    | some (.str s) => some s
    | _ => none
  { id := target.id, organization := target.organization, name := Text.trim ((textOf "name").getD "")
    description := textOf "description", rules, output, version := target.version, active := true
    createdAt := none, updatedAt := none }

/-- Read a document, or list what is wrong with it. -/
def parse (target : Target) (doc : Value) : Except (List String) Configuration :=
  match problems doc with
  | p :: ps => .error (p :: ps)
  | [] =>
    match Rule.readAll ((doc.get? "rules").getD .null) with
    | .invalid ps => .error (ps.map (problemLine "rules"))
    | .valid rules =>
      match OutputFormat.read ((doc.get? "outputFormat").getD .null) with
      | .invalid ps => .error (ps.map (problemLine "outputFormat"))
      | .valid output =>
        match repeated (rules.map Rule.id) with
        | [] => .ok (build target doc rules output)
        | ids => .error ["Duplicate rule id(s): " ++ String.intercalate ", " ids]

end Sheetflow.Document
