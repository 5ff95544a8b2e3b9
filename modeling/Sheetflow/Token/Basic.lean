import Sheetflow.Crypto.Sha2
import Sheetflow.Document.Json.Read
import Sheetflow.Document.Json.Write
import Sheetflow.Host
import Sheetflow.Number.Numeral
import Sheetflow.Text.Base64

/-!
# Signed tokens

A token is a header, a payload and a signature, each in base 64 and with points between them. Header and
payload are JSON; the header names the algorithm of the signature. Verification looks at the three
parts, then at the algorithm, then at the signature, and only then at what the payload claims.
-/

namespace Sheetflow.Token

open Sheetflow

/-- How tokens are signed. -/
inductive Algorithm where
  | hs256
  | hs384
  | hs512
deriving DecidableEq, Repr

namespace Algorithm

def name : Algorithm → String
  | .hs256 => "HS256"
  | .hs384 => "HS384"
  | .hs512 => "HS512"

def all : List Algorithm := [.hs256, .hs384, .hs512]

def ofName? (s : String) : Option Algorithm := all.find? (·.name == s)

def hash : Algorithm → Crypto.Sha2
  | .hs256 => .sha256
  | .hs384 => .sha384
  | .hs512 => .sha512

/-- The signature of a text. -/
def signature (a : Algorithm) (secret : String) (text : List Char) : Bytes :=
  a.hash.hmac (Text.Utf8.encode secret.toList) (Text.Utf8.encode text)

end Algorithm

def textBytes (s : String) : Bytes := Text.Utf8.encode s.toList

/-- The first two parts of a token. -/
def signedPart (algorithmName : String) (payload : Value) : String :=
  let header := Value.record [("alg", .str algorithmName), ("typ", .str "JWT")]
  Text.Base64.encodeForUrl (textBytes (Json.write header)) ++ "." ++
    Text.Base64.encodeForUrl (textBytes (Json.write payload))

/-- A signed token. -/
def sign (a : Algorithm) (secret : String) (payload : Value) : String :=
  let body := signedPart a.name payload
  body ++ "." ++ Text.Base64.encodeForUrl (a.signature secret body.toList)

/-- A token that says it has no signature. -/
def unsigned (payload : Value) : String := signedPart "none" payload ++ "."

/-- Why a token is refused. -/
inductive Error where
  | segments
  | headerPadding
  | headerText (reason : String)
  | payloadPadding
  | signaturePadding
  | detachedPayload
  | noAlgorithm
  | foreignAlgorithm
  | signature
  | payloadText (reason : String)
  | missingClaim (name : String)
  | notAnInteger (claim : String)
  | notYetIssued
  | notYetValid
  | expired
  | audience
  | subject
  | tokenId
  /-- There is no room for one more of these. -/
  | tooDeep (collection : String)
deriving DecidableEq, Repr

def Error.message : Error → String
  | .segments => "Not enough segments"
  | .headerPadding => "Invalid header padding"
  | .headerText reason => "Invalid header string: " ++ reason
  | .payloadPadding => "Invalid payload padding"
  | .signaturePadding => "Invalid crypto padding"
  | .detachedPayload =>
    "It is required that you pass in a value for the \"detached_payload\" argument to decode a message having the b64 header set to false."
  | .noAlgorithm => "Algorithm not specified"
  | .foreignAlgorithm => "The specified alg value is not allowed"
  | .signature => "Signature verification failed"
  | .payloadText reason => "Invalid payload string: " ++ reason
  | .missingClaim name => "Token is missing the \"" ++ name ++ "\" claim"
  | .notAnInteger claim => claim ++ " must be an integer."
  | .notYetIssued => "The token is not yet valid (iat)"
  | .notYetValid => "The token is not yet valid (nbf)"
  | .expired => "Signature has expired"
  | .audience => "Invalid audience"
  | .subject => "Subject must be a string"
  | .tokenId => "JWT ID must be a string"
  | .tooDeep collection => Json.depthMessage collection

/-- The three parts of a token: what stands before the first point, behind the last one and between
them. -/
structure Parts where
  header : List Char
  payload : List Char
  signature : List Char

def split? (token : List Char) : Option Parts :=
  let signature := (token.reverse.takeWhile (· ≠ '.')).reverse
  let body := token.take (token.length - signature.length - 1)
  let header := body.takeWhile (· ≠ '.')
  if signature.length < token.length && header.length < body.length then
    some ⟨header, body.drop (header.length + 1), signature⟩
  else none

/-- The map that bytes hold as JSON. If they hold none, `refusal` of the reason is the error. -/
def readMap [Host] (refusal : String → Error) (bs : Bytes) : Except Error Value :=
  match Text.Utf8.decodeMarked bs with
  | .error e => .error (refusal e.message)
  | .ok cs =>
    match Json.read Host.jsonRoom cs with
    | .error (.fault cause offset) => .error (refusal (Json.faultMessage cs cause offset))
    | .error (.numeral e) => .error (refusal e.message)
    | .error (.tooDeep collection) => .error (.tooDeep collection)
    | .ok v => if v.isMap then .ok v else .error (refusal "must be a json object")

/-- Does the header name this algorithm? -/
def checkAlgorithm (a : Algorithm) (header : Value) : Except Error Unit :=
  match header.get? "b64" with
  | some (.bool false) => .error .detachedPayload
  | _ =>
    match header.get? "alg" with
    | none => .error .noAlgorithm
    | some (.str s) => if s = a.name then .ok () else .error .foreignAlgorithm
    | some _ => .error .foreignAlgorithm

/-- The payload of a token with a valid signature. -/
def payload [Host] (a : Algorithm) (secret : String) (token : List Char) : Except Error Value :=
  match split? token with
  | none => .error .segments
  | some parts =>
    match Text.Base64.decodeUrl? parts.header with
    | none => .error .headerPadding
    | some headerBytes =>
      match readMap .headerText headerBytes with
      | .error e => .error e
      | .ok header =>
        match Text.Base64.decodeUrl? parts.payload, Text.Base64.decodeUrl? parts.signature with
        | none, _ => .error .payloadPadding
        | some _, none => .error .signaturePadding
        | some payloadBytes, some signature =>
          match checkAlgorithm a header with
          | .error e => .error e
          | .ok () =>
            if a.signature secret (parts.header ++ '.' :: parts.payload) = signature then
              readMap .payloadText payloadBytes
            else .error .signature

/-- A claim as a whole number; what has a fraction loses it. -/
def wholeNumber? : Value → Option Int
  | .int i => some i
  | .bool b => some (if b then 1 else 0)
  | .float (.finite s m e) =>
    let (n, d) := Double.ratio m e
    some (if s then -((n / d : Nat) : Int) else ((n / d : Nat) : Int))
  | .str s =>
    match Numeral.readInt (Text.trim s).toList with
    | .value i => some i
    | _ => none
  | _ => none

/-- A claim that is there and not null. -/
def claim? (payload : Value) (name : String) : Option Value :=
  match payload.get? name with
  | some .null => none
  | v => v

/-- Check a claim that is a time, if there is one; `isRefused` says which times are refused. -/
def checkTime (payload : Value) (name title : String) (refusal : Error) (isRefused : Int → Bool) :
    Except Error Unit :=
  match payload.get? name with
  | none => .ok ()
  | some v =>
    match wholeNumber? v with
    | none => .error (.notAnInteger title)
    | some t => if isRefused t then .error refusal else .ok ()

/-- Is there anything in the value? -/
def isFilled : Value → Bool
  | .null => false
  | .bool b => b
  | .int i => i != 0
  | .float x => !x.isZero
  | .str s => s != ""
  | .list xs => !xs.isEmpty
  | .map es => !es.isEmpty
  | _ => true

def isTextOrMissing : Option Value → Bool
  | none => true
  | some (.str _) => true
  | some _ => false

def require (ok : Bool) (e : Error) : Except Error Unit := if ok then .ok () else .error e

/-- Check what a payload claims, at the moment `now` in microseconds. -/
def checkClaims (required : List String) (payload : Value) (now : Int) : Except Error Unit := do
  match required.find? fun name => (claim? payload name).isNone with
  | some name => throw (.missingClaim name)
  | none => pure ()
  checkTime payload "iat" "Issued At claim (iat)" .notYetIssued fun t => now < t * 1000000
  checkTime payload "nbf" "Not Before claim (nbf)" .notYetValid fun t => now < t * 1000000
  checkTime payload "exp" "Expiration Time claim (exp)" .expired fun t => t * 1000000 ≤ now
  require (!(payload.get? "aud").any isFilled) .audience
  require (isTextOrMissing (payload.get? "sub")) .subject
  require (isTextOrMissing (payload.get? "jti")) .tokenId

/-- The payload of a token that is valid at the moment `now`. -/
def verify [Host] (a : Algorithm) (secret : String) (required : List String) (token : List Char)
    (now : Int) : Except Error Value := do
  let p ← payload a secret token
  checkClaims required p now
  return p

end Sheetflow.Token
