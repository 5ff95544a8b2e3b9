import Sheetflow.Document.Yaml.Scalar
import Sheetflow.Text.Utf8

/-!
# YAML tokens

What a text is a sequence of, and how names, tags and directives are written.
-/

namespace Sheetflow.Yaml

inductive Directive where
  | version (major minor : Nat)
  | tag (handle start : String)
  | other
deriving DecidableEq

inductive Token where
  | directive (d : Directive)
  | documentStart
  | documentEnd
  | blockSequenceStart
  | blockMappingStart
  | blockEnd
  | flowSequenceStart
  | flowSequenceEnd
  | flowMappingStart
  | flowMappingEnd
  | blockEntry
  | flowEntry
  | key
  | value
  | reference (anchor : String)
  | anchor (name : String)
  | tag (handle : Option String) (suffix : String)
  | scalar (text : String) (plain : Bool)
deriving DecidableEq

/-- What a token is called. -/
def Token.name : Token → String
  | .directive _ => "<directive>"
  | .documentStart => "<document start>"
  | .documentEnd => "<document end>"
  | .blockSequenceStart => "<block sequence start>"
  | .blockMappingStart => "<block mapping start>"
  | .blockEnd => "<block end>"
  | .flowSequenceStart => "["
  | .flowSequenceEnd => "]"
  | .flowMappingStart => "\x7b"
  | .flowMappingEnd => "\x7d"
  | .blockEntry => "-"
  | .flowEntry => ","
  | .key => "?"
  | .value => ":"
  | .reference _ => "<alias>"
  | .anchor _ => "<anchor>"
  | .tag _ _ => "<tag>"
  | .scalar _ _ => "<scalar>"

/-- A token and where it starts and stops. -/
structure PlacedToken where
  token : Token
  start : Mark
  stop : Mark

namespace Scan

def isNameChar (c : Char) : Bool :=
  ('0' ≤ c && c ≤ '9') || ('A' ≤ c && c ≤ 'Z') || ('a' ≤ c && c ≤ 'z') || c == '-' || c == '_'

/-- Characters that names are made of, as messages call them. -/
def nameKind : String := "alphabetic or numeric character"

/-- A name of at least one character. -/
def name (context : String) (start : Mark) : Scan String := do
  let cs ← takeWhile isNameChar
  if cs.isEmpty then expected context start nameKind else return String.ofList cs

/-- The name of an anchor, behind its mark. -/
def anchorName (context : String) : Scan String := do
  let start ← mark
  forward 1
  let s ← name context start
  let next ← peek
  if endsWord next || next.any fun c => "?:,]\x7d%@\x60".toList.contains c then return s
  else expected context start nameKind

/-- A handle: an exclamation mark, or a name between two of them. -/
def tagHandle (context : String) (start : Mark) : Scan String := do
  match (← get).rest with
  | '!' :: rest =>
    if rest.head? == some ' ' then
      forward 1
      return "!"
    else
      let cs := rest.takeWhile isNameChar
      forward (cs.length + 1)
      if (← peek) = some '!' then
        forward 1
        return "!" ++ String.ofList cs ++ "!"
      else expected context start "'!'"
  | _ => expected context start "'!'"

def isUriChar (c : Char) : Bool :=
  isNameChar c || ";/?:@&=+$,.!~*'()[]".toList.contains c

/-- Bytes written as percent signs with two digits each. -/
def percentBytes (context : String) (start : Mark) : Nat → Scan Bytes
  | 0 => return []
  | fuel + 1 => do
    if (← peek) = some '%' then
      forward 1
      let n ← hexNumber context start "URI escape sequence" 2
      return UInt8.ofNat n :: (← percentBytes context start fuel)
    else return []

/-- A run of percent signs, which must make up whole characters. -/
def percentText (context : String) (start : Mark) : Scan (List Char) := do
  let here ← mark
  match Text.Utf8.decode (← percentBytes context start ((← get).rest.length + 1)) with
  | .ok cs => return cs
  | .error e => throw (.malformed ⟨some context, some start, e.message, here⟩)

def uriRest (context : String) (start : Mark) : Nat → Scan (List Char)
  | 0 => return []
  | fuel + 1 => do
    match ← peek with
    | some '%' =>
      let cs ← percentText context start
      return cs ++ (← uriRest context start fuel)
    | some c =>
      if isUriChar c then
        forward 1
        return c :: (← uriRest context start fuel)
      else return []
    | none => return []

/-- The part of a tag that says which it is; `what` is what it belongs to. -/
def uri (what : String) (start : Mark) : Scan String := do
  let p ← get
  let cs ← uriRest ("while scanning a " ++ what) start (p.rest.length + 1)
  if (← mark).offset = p.mark.offset then expected ("while parsing a " ++ what) start "URI"
  else return String.ofList cs

/-- Does the line or the word end here? -/
def endsPart (c : Option Char) : Bool := endsLine c || c == some ' '

def tag : Scan Token := do
  let start ← mark
  let rest := (← get).rest.drop 1
  let t : Token ←
    match rest.head? with
    | some '<' =>
      forward 2
      let s ← uri "tag" start
      if (← peek) = some '>' then
        forward 1
        pure (Token.tag none s)
      else expected "while parsing a tag" start "'>'"
    | c =>
      if endsWord c then
        forward 1
        pure (Token.tag none "!")
      else if (rest.takeWhile fun c => !endsPart (some c)).contains '!' then
        let handle ← tagHandle "while scanning a tag" start
        pure (Token.tag (some handle) (← uri "tag" start))
      else
        forward 1
        pure (Token.tag (some "!") (← uri "tag" start))
  if endsPart (← peek) then return t else expected "while scanning a tag" start "' '"

def directiveContext : String := "while scanning a directive"

def number (start : Mark) : Scan Nat := do
  let ds ← takeWhile Text.isAsciiDigit
  if ds.isEmpty then expected directiveContext start "a digit"
  else if digitLimit < ds.length then throw (.scalar (.tooLong ⟨ds.length⟩))
  else return Text.numeralValue ds

/-- Fail unless a part of a directive ends here. -/
def endPart (start : Mark) (what : String) : Scan Unit := do
  if !endsPart (← peek) then expected directiveContext start what

/-- A directive, with the rest of its line. -/
def directive : Scan Directive := do
  let start ← mark
  forward 1
  let s ← name directiveContext start
  endPart start nameKind
  let d : Directive ←
    if s = "YAML" then
      skipSpaces
      let major ← number start
      if (← peek) ≠ some '.' then expected directiveContext start "a digit or '.'"
      forward 1
      let minor ← number start
      endPart start "a digit or ' '"
      pure (Directive.version major minor)
    else if s = "TAG" then
      skipSpaces
      let handle ← tagHandle directiveContext start
      if (← peek) ≠ some ' ' then expected directiveContext start "' '"
      skipSpaces
      let uri ← uri "directive" start
      endPart start "' '"
      pure (Directive.tag handle uri)
    else
      let _ ← takeWhile (!isBreak ·)
      pure Directive.other
  restOfLine directiveContext start
  return d

end Scan

end Sheetflow.Yaml
