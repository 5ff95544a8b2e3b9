import Sheetflow.Service.Program
import Sheetflow.Service.Settings

/-!
# Outputs and their addresses

Outputs are files, known by a reference made of organization, job and name. An address for downloading
one carries the reference and a time of expiry in a signed token.
-/

namespace Sheetflow.Outputs

open Service

variable [Host]

/-- The path below the root that a reference stands for. -/
def path (ref : String) : Except ServiceError Path :=
  match Location.ofRef Host.root ref with
  | .below p => .ok p
  | .outside => .error (.storage (.invalidReference ref))
  | .invalid => .error .invalidPath

/-- Save an output; the reference to it. -/
def save (org job name : String) (bs : Bytes) : Service String := do
  let ref := org ++ "/" ++ job ++ "/" ++ FileName.base name
  let p ← result (path ref)
  let written : Except FileFault Unit ← command (.writeFile p bs)
  match written with
  | .ok () => return ref
  | .error e => throw (.storage (.notWritten job e))

def read (ref : String) : Service Bytes := do
  let p ← result (path ref)
  let found : Except FileFault (Option Bytes) ← command (.readFile p)
  match found with
  | .ok (some bs) => return bs
  | .ok none => throw (.storage (.notFound ref))
  | .error e => throw (.file e)

/-- Where an output can be downloaded and until when. -/
structure Link where
  address : String
  expires : DateTime

/-- Without slashes at the end. -/
def dropSlashes (s : String) : String := String.ofList (dropTail (· == '/') s.toList)

/-- The moment `seconds` after another. -/
def later (t : DateTime) (seconds : Int) : DateTime :=
  .ofInstant (t.toInstant + seconds * microsPerSecond)

/-- The claims of a download token. -/
def claims (ref : String) (expires : DateTime) : Value :=
  .record [("ref", .str ref), ("exp", .int (Int.tdiv expires.toInstant microsPerSecond))]

/-- An address that is valid for a number of seconds. -/
def link (s : Settings) (ref : String) (lifetime : Int) : Service Link := do
  let expires := later (← now) lifetime
  let token := Token.sign s.algorithm s.secret (claims ref expires)
  return ⟨dropSlashes s.downloadBase ++ "/" ++ token, expires⟩

/-- The reference in a token that is valid at a time. -/
def refOfToken (s : Settings) (token : String) (now : DateTime) : Except ServiceError String :=
  match Token.verify s.algorithm s.secret ["exp", "ref"] token.toList now.toInstant with
  | .ok claims => .ok ((claims.get? "ref").getD .null).plainText
  | .error .expired => .error (.storage .linkExpired)
  | .error (.tooDeep collection) => .error (.tooDeep (Json.depthMessage collection))
  | .error e => .error (.storage (.badToken e))

def verify (s : Settings) (token : String) : Service String := do
  result (refOfToken s token (← now))

end Sheetflow.Outputs
