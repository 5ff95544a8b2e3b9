import Sheetflow.Service.Health
import Sheetflow.Web.Transforms

/-!
# Endpoints

Which endpoint a request is for depends on its path and its method. What an endpoint does not report to
the caller is answered with an internal error.
-/

namespace Sheetflow.Web

inductive Endpoint where
  | health
  | importConfiguration
  | listConfigurations
  | getConfiguration (id : String)
  | exportConfiguration (id : String)
  | deactivateConfiguration (id : String)
  | previewConfiguration (id : String)
  | transform
  | listJobs
  | getJob (id : String)
  | download (token : String)
deriving DecidableEq, Repr

namespace Endpoint

/-- The endpoints of a path below the root, with their methods. -/
def below : List String → List (String × Endpoint)
  | ["health"] => [("GET", .health)]
  | ["configurations"] => [("GET", .listConfigurations)]
  | ["configurations", id] =>
    (if id = "import" then [("POST", .importConfiguration)] else []) ++
      (if id = "" then [] else [("GET", .getConfiguration id), ("DELETE", .deactivateConfiguration id)])
  | ["configurations", id, "export"] => if id = "" then [] else [("GET", .exportConfiguration id)]
  | ["configurations", id, "preview"] => if id = "" then [] else [("POST", .previewConfiguration id)]
  | ["transform"] => [("POST", .transform)]
  | ["jobs"] => [("GET", .listJobs)]
  | ["jobs", id] => if id = "" then [] else [("GET", .getJob id)]
  | ["downloads", token] => if token = "" then [] else [("GET", .download token)]
  | _ => []

/-- The segments of a path. -/
def segments (path : String) : List String := (FileName.split path.toList).map String.ofList

/-- The endpoints of a path. -/
def ofPath (path : String) : List (String × Endpoint) :=
  match segments path with
  | "" :: "api" :: rest => below rest
  | _ => []

def dropSlashes (path : String) : String := Outputs.dropSlashes path

/-- The endpoints of a path; slashes at its end do not count. -/
def all (path : String) : List (String × Endpoint) :=
  match ofPath path with
  | [] => ofPath (dropSlashes path)
  | found => found

def healthValue (h : Health.Report) : Value :=
  let there := h.queue.isSome
  .record
    [("status", .str (if there then "ok" else "degraded")),
      ("services", .record [("redis", .str (if there then "ok" else "error"))]),
      ("queue", (h.queue.map Health.QueueState.toValue).getD .null)]

/-- What an endpoint does with a request. -/
def handle [Host] (s : Settings) (r : Request) : Endpoint → Service Response
  | .health => do return .json 200 (healthValue (← Health.check s))
  | .importConfiguration => Configurations.importDocument r
  | .listConfigurations => Configurations.list r
  | .getConfiguration id => Configurations.view r id Configuration.dump
  | .exportConfiguration id => Configurations.view r id Configuration.exported
  | .deactivateConfiguration id => Configurations.deactivate r id
  | .previewConfiguration id => Configurations.tryOut r id
  | .transform => Transforms.submit s r
  | .listJobs => Transforms.listJobs s r
  | .getJob id => Transforms.getJob s r id
  | .download token => Transforms.download s token

end Endpoint

/-- The response to a request. -/
def respond [Host] (s : Settings) (r : Request) : Program Response :=
  match Endpoint.all r.path with
  | [] => .done .notFound
  | found =>
    match found.lookup r.method with
    | none => .done .methodNotAllowed
    | some endpoint =>
      (endpoint.handle s r).run.bind fun outcome =>
        match outcome with
        | .ok response => .done response
        | .error _ => .done .internalError

end Sheetflow.Web
