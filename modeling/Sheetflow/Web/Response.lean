import Sheetflow.Service.Error

/-!
# Responses

A response has a status and content, which is a value or bytes of some type. A file to be downloaded
has a name.
-/

namespace Sheetflow.Web

inductive Content where
  | json (v : Value)
  | data (mediaType : String) (bs : Bytes)

structure Response where
  status : Nat
  content : Content
  /-- What is to be done with the content. -/
  disposition : Option String := none

namespace Content

def mediaType : Content → String
  | .json _ => "application/json"
  | .data t _ => t ++ "; charset=utf-8"

end Content

namespace Response

def json (status : Nat) (v : Value) : Response := ⟨status, .json v, none⟩

/-- A response that says what is wrong. -/
def refusal (status : Nat) (detail : Value) : Response := json status (.record [("detail", detail)])

def notFound : Response := refusal 404 (.str "Not Found")

def methodNotAllowed : Response := refusal 405 (.str "Method Not Allowed")

/-- The response when something went wrong that is not the caller's business. -/
def internalError : Response :=
  ⟨500, .data "text/plain" (Text.Utf8.encode "Internal Server Error".toList), none⟩

/-- The response that reports an error of some kind. -/
def ofError (kind : ErrorKind) (e : ServiceError) : Response :=
  refusal kind.httpStatus (e.detail kind)

end Response

end Sheetflow.Web
