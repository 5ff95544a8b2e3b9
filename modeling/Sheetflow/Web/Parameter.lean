import Sheetflow.Field.Read
import Sheetflow.Service.Organization
import Sheetflow.Web.Request
import Sheetflow.Web.Response

/-!
# Parameters of requests

Parameters are looked up in headers, query and form, and read from texts. All that is wrong with them
is reported together.
-/

namespace Sheetflow.Web

/-- Where a parameter is looked up. -/
inductive Place where
  | header
  | query
  | body
deriving DecidableEq, Repr

def Place.word : Place → String
  | .header => "header"
  | .query => "query"
  | .body => "body"

structure InvalidParameter where
  place : Place
  name : String
  kind : ProblemKind
  /-- What was found; nothing is null. -/
  input : Value

namespace InvalidParameter

/-- The limit that a value is beyond. -/
def limits : ProblemKind → List (String × Value)
  | .below n => [("ge", .int n)]
  | .above n => [("le", .int n)]
  | .tooShort n => [("min_length", .int n)]
  | .tooLong n => [("max_length", .int n)]
  | .custom _ => [("error", .record [])]
  | _ => []

def toValue (p : InvalidParameter) : Value :=
  .record
    ([("type", .str p.kind.code), ("loc", Value.texts [p.place.word, p.name]),
      ("msg", .str p.kind.message), ("input", p.input)] ++
    (match limits p.kind with
      | [] => []
      | ls => [("ctx", .record ls)]))

end InvalidParameter

/-- A parameter, or what is wrong with it. -/
abbrev Parameter (α : Type) := Except (List InvalidParameter) α

namespace Parameter

variable {α β : Type}

/-- Both parameters, or what is wrong with either. -/
def both (a : Parameter α) (b : Parameter β) : Parameter (α × β) :=
  match a, b with
  | .ok x, .ok y => .ok (x, y)
  | .error ps, .ok _ => .error ps
  | .ok _, .error qs => .error qs
  | .error ps, .error qs => .error (ps ++ qs)

def missing (place : Place) (name : String) : Parameter α := .error [⟨place, name, .missing, .null⟩]

/-- Read what was found. -/
def read (place : Place) (name : String) (reader : FieldReader α) (s : String) : Parameter α :=
  match reader (.str s) with
  | .valid a => .ok a
  | .invalid ps => .error (ps.map fun p => ⟨place, name, p.kind, .str s⟩)

/-- A text whose length is between two numbers. -/
def textBetween (least most : Nat) : FieldReader String := fun v =>
  match Field.text v with
  | .valid s =>
    if s.length < least then .fail (.tooShort least)
    else if most < s.length then .fail (.tooLong most)
    else .valid s
  | .invalid ps => .invalid ps

/-- A whole number between two others. -/
def integerBetween (least most : Int) : FieldReader Int := fun v =>
  match Field.integer v with
  | .valid n =>
    if n < least then .fail (.below least)
    else if most < n then .fail (.above most)
    else .valid n
  | .invalid ps => .invalid ps

/-- A parameter in the query, or what it is otherwise. -/
def ofQuery (r : Request) (name : String) (reader : FieldReader α) (default : α) : Parameter α :=
  match r.parameter? name with
  | some s => read .query name reader s
  | none => .ok default

/-- A field of a form, where an empty one is as good as none. -/
def field? (r : Request) (name : String) : Option FormValue :=
  match r.body.formValue? name with
  | some (.text "") => none
  | found => found

/-- A text in a form. -/
def ofForm (r : Request) (name : String) (reader : FieldReader α) : Parameter (Option α) :=
  match field? r name with
  | some (.text s) => (read .body name reader s).map some
  | some (.upload _) => .error [⟨.body, name, .notAString, .null⟩]
  | none => .ok none

def required (name : String) (p : Parameter (Option α)) : Parameter α :=
  match p with
  | .ok (some a) => .ok a
  | .ok none => missing .body name
  | .error ps => .error ps

/-- A file in a form. -/
def upload (r : Request) (name : String) : Parameter Upload :=
  match field? r name with
  | some (.upload u) => .ok u
  | some (.text s) =>
    .error [⟨.body, name, .custom "Expected UploadFile, received: <class 'str'>", .str s⟩]
  | none => missing .body name

def organizationHeader : String := "x-organization-id"

/-- The organization that a request is made for. -/
def organization (r : Request) : Parameter String :=
  match r.header? organizationHeader with
  | some s => read .header organizationHeader (textBetween 1 64) s
  | none => missing .header organizationHeader

def refusal (ps : List InvalidParameter) : Response :=
  .refusal 422 (.list (ps.map InvalidParameter.toValue))

end Parameter

/-- The organization of a request and its other parameters, or the response that refuses it. An
organization whose id is not valid is refused before anything else is looked at. -/
def accept {α : Type} (r : Request) (others : Parameter α) : Except Response (String × α) :=
  match Parameter.organization r with
  | .ok org =>
    if Organization.isValid org then (others.map fun a => (org, a)).mapError Parameter.refusal
    else .error (.refusal 400 (.str (Organization.refusal org)))
  | .error ps => ((Parameter.both (.error ps) others).mapError Parameter.refusal)

end Sheetflow.Web
