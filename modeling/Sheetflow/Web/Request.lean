import Sheetflow.File.Read
import Sheetflow.Text.Letter
import Sheetflow.Text.Quoted

/-!
# Requests

A request has a method, a path, a query, headers and a body. A body may be a form; among the parts of a
form are files with a name of their own.
-/

namespace Sheetflow.Web

/-- A file that was handed in. -/
structure Upload where
  name : String
  file : File

inductive Body where
  | bytes (bs : Bytes)
  /-- Fields that are written one after the other, as in an address. -/
  | fields (fs : List (String × String))
  /-- Fields, and after them files, each under the name of a field. -/
  | parts (fs : List (String × String)) (uploads : List (String × Upload))

structure Request where
  method : String
  /-- The path without what was encoded for travelling. -/
  path : String
  query : List (String × String)
  headers : List (String × String)
  body : Body

namespace Upload

/-- The characters of a name that cannot stand between quotes. -/
def isEscaped (c : Char) : Bool := c == '"' || (c.toNat < 32 && c.toNat ≠ 27)

/-- A name as it is sent: what cannot stand between quotes is written by its number. -/
def sentName (name : List Char) : List Char :=
  name.flatMap fun c => if isEscaped c then '%' :: (Text.hex 2 c.toNat).map Char.toUpper else [c]

/-- Does a path start with a drive or a share? -/
def isLocalPath : List Char → Bool
  | '\\' :: '\\' :: _ => true
  | c :: ':' :: '\\' :: _ => c.toNat < 128
  | _ => false

/-- A name as it is received: of a path on the sender's machine the last part. -/
def receivedName (name : List Char) : List Char :=
  if isLocalPath name then (name.reverse.takeWhile (· ≠ '\\')).reverse else name

/-- The file as it arrives. -/
def received (u : Upload) : Upload :=
  { u with name := String.ofList (receivedName (sentName u.name.toList)) }

end Upload

/-- What is found under the name of a field. -/
inductive FormValue where
  | text (s : String)
  | upload (u : Upload)

/-! ### Percent signs -/

namespace Percent

def isPlain (b : UInt8) : Bool :=
  let c := Char.ofNat b.toNat
  Text.isAsciiLetter c || Text.isAsciiDigit c || c == '_' || c == '.' || c == '-' || c == '~'

def encodeByte (b : UInt8) : List Char :=
  if isPlain b then [Char.ofNat b.toNat]
  else if b = 32 then ['+']
  else '%' :: (Text.hex 2 b.toNat).map Char.toUpper

def encode (s : String) : List Char := (Text.Utf8.encode s.toList).flatMap encodeByte

def hexValue? (c : Char) : Option Nat :=
  if '0' ≤ c && c ≤ '9' then some (c.toNat - 48)
  else if 'a' ≤ c && c ≤ 'f' then some (c.toNat - 87)
  else if 'A' ≤ c && c ≤ 'F' then some (c.toNat - 55)
  else none

/-- The bytes of a path; a percent sign that is not followed by two digits stands for itself. -/
def decodedBytes : List Char → Bytes
  | '%' :: a :: b :: rest =>
    match hexValue? a, hexValue? b with
    | some x, some y => UInt8.ofNat (16 * x + y) :: decodedBytes rest
    | _, _ => 37 :: decodedBytes (a :: b :: rest)
  | c :: rest => Text.Utf8.encodeChar c ++ decodedBytes rest
  | [] => []

/-- A path as it was meant. -/
def decode (s : String) : String :=
  match Text.Utf8.decode (decodedBytes s.toList) with
  | .ok cs => String.ofList cs
  | .error _ => s

end Percent

namespace Body

/-- The fields of a form as bytes. -/
def encodeFields (fs : List (String × String)) : Bytes :=
  Text.Utf8.encode (List.intercalate ['&'] (fs.map fun (k, v) => Percent.encode k ++ '=' :: Percent.encode v))

/-- The last entry of a list under a name. -/
def lastNamed? {α : Type} (name : String) (entries : List (String × α)) : Option α :=
  (entries.filter (·.1 == name)).getLast?.map (·.2)

/-- What a form has under a name, files before fields. A file without a name is a field. -/
def formValue? (b : Body) (name : String) : Option FormValue :=
  match b with
  | .bytes _ => none
  | .fields fs => (lastNamed? name fs).map .text
  | .parts fs uploads =>
    match lastNamed? name uploads with
    | some u =>
      if u.name = "" then some (.text (String.ofList (File.textOf u.file.contents)))
      else some (.upload u.received)
    | none => (lastNamed? name fs).map .text

end Body

/-- What a request is for: a path and a query. -/
structure Target where
  path : String
  query : List (String × String)

namespace Target

/-- Without the segments that stand for the same place or for the place above. -/
def resolveDots (segments : List String) : List String :=
  (segments.foldl (fun done s =>
    if s = "." then done
    else if s = ".." then (if done.isEmpty || done == [""] then done else done.drop 1)
    else s :: done) []).reverse

/-- A part of a query, where plus signs stand for blanks. -/
def decodePart (s : String) : String :=
  Percent.decode (String.ofList (s.toList.map fun c => if c = '+' then ' ' else c))

/-- The parameters of a query. -/
def decodeQuery (s : String) : List (String × String) :=
  (s.splitOn "&").filterMap fun part =>
    match part.splitOn "=" with
    | [""] => none
    | name :: value => some (decodePart name, decodePart (String.intercalate "=" value))
    | [] => none

/-- A path, and a query behind a question mark. -/
def ofText (s : String) : Target :=
  let s := (s.splitOn "#").headD ""
  match s.splitOn "?" with
  | path :: query =>
    let path := String.intercalate "/" (resolveDots (path.splitOn "/"))
    ⟨Percent.decode path, decodeQuery (String.intercalate "?" query)⟩
  | [] => ⟨"", []⟩

end Target

namespace Request

/-- The header of a name, in any case of letters. -/
def header? (r : Request) (name : String) : Option String :=
  (r.headers.find? fun h => String.ofList (h.1.toList.map Char.toLower) == name).map (·.2)

/-- The last value of a name in the query. -/
def parameter? (r : Request) (name : String) : Option String := Body.lastNamed? name r.query

end Request

end Sheetflow.Web
