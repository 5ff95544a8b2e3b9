import Sheetflow.Document.Json.Read
import Sheetflow.Document.Yaml.Read
import Sheetflow.Host

/-!
# Decoding documents

A document is JSON, unless its file name says that it is YAML. Bytes are UTF-8, where a mark at the
start does not count. Lists and maps lie in each other as deep as the host has room for.
-/

namespace Sheetflow.Document

inductive Source where
  | text (s : String)
  | bytes (bs : Bytes)

/-- A scalar that is well written but has no value. -/
inductive ScalarFault where
  | numeral (e : NumeralTooLong)
  | tagged (e : Yaml.ScalarError)
deriving DecidableEq

def ScalarFault.message : ScalarFault → String
  | .numeral e => e.message
  | .tagged e => e.message

/-- Why there is no value. -/
inductive DecodeError where
  /-- The problem to be reported. -/
  | unreadable (problem : String)
  | scalar (e : ScalarFault)
  /-- There is no room for all that lies in each other. -/
  | tooDeep (message : String)
deriving DecidableEq

/-- Does the file name say that the document is YAML? -/
def isYamlName (name : String) : Bool :=
  let s := Text.lower name
  s.endsWith ".yaml" || s.endsWith ".yml"

/-- The text of a source. -/
def Source.decoded : Source → Except DecodeError (List Char)
  | .text s => .ok s.toList
  | .bytes bs =>
    match Text.Utf8.decodeMarked bs with
    | .ok cs => .ok cs
    | .error e => .error (.unreadable ("Document is not valid UTF-8: " ++ e.message))

variable [Host]

def readJson (cs : List Char) : Except DecodeError Value :=
  match Json.read Host.jsonRoom cs with
  | .ok v => .ok v
  | .error (.fault cause offset) =>
    .error (.unreadable ("Document is not valid JSON: " ++ Json.faultMessage cs cause offset))
  | .error (.numeral e) => .error (.scalar (.numeral e))
  | .error (.tooDeep collection) => .error (.tooDeep (Json.depthMessage collection))

def readYaml (cs : List Char) : Except DecodeError Value :=
  match Yaml.read (Host.yamlRoom cs) cs with
  | .ok v => .ok v
  | .error (.scalar e) => .error (.scalar (.tagged e))
  | .error .tooDeep => .error (.tooDeep Yaml.depthMessage)
  | .error e => .error (.unreadable ("Document is not valid YAML: " ++ e.message cs))

/-- The value of a document from a file of that name, if it has one. -/
def decode (source : Source) (name : Option String) : Except DecodeError Value := do
  let cs ← source.decoded
  if name.any isYamlName then readYaml cs else readJson cs

end Sheetflow.Document
