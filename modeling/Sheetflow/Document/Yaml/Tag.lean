import Sheetflow.Document.Yaml.Scalar

/-!
# Tags

The tag of a node says what it is. It is written down, or is that of its form; plain scalars have the
tag of what they look like.
-/

namespace Sheetflow.Yaml

inductive Tag where
  | null
  | bool
  | int
  | float
  | binary
  | timestamp
  | str
  | seq
  | map
  | set
  | omap
  | pairs
  /-- The key whose values are merged into a map. -/
  | merge
  /-- The key whose value stands for the whole map where a scalar is wanted. -/
  | value
  | unknown (uri : String)
deriving DecidableEq, Repr

namespace Tag

def names : List (String × Tag) :=
  [("null", .null), ("bool", .bool), ("int", .int), ("float", .float), ("binary", .binary),
    ("timestamp", .timestamp), ("str", .str), ("seq", .seq), ("map", .map), ("set", .set),
    ("omap", .omap), ("pairs", .pairs), ("merge", .merge), ("value", .value)]

def start : String := "tag:yaml.org,2002:"

def ofUri (s : String) : Tag :=
  match names.find? fun (name, _) => start ++ name == s with
  | some (_, t) => t
  | none => .unknown s

def uri : Tag → String
  | .unknown s => s
  | t =>
    match names.find? fun (_, u) => u = t with
    | some (name, _) => start ++ name
    | none => start

end Tag

/-! ### What plain scalars look like -/

namespace Tag

def isDigit (c : Char) : Bool := '0' ≤ c && c ≤ '9'

def isDigitOrGap (c : Char) : Bool := isDigit c || c == '_'

def dropSign : List Char → List Char
  | '+' :: cs => cs
  | '-' :: cs => cs
  | cs => cs

/-- Do these follow: a colon and a number below sixty, at least once? `atEnd` is asked about the
rest. -/
def sixtieths (atEnd : List Char → Bool) : List Char → Bool
  | ':' :: a :: b :: rest =>
    (isDigit a && (atEnd (b :: rest) || sixtieths atEnd (b :: rest))) ||
      ('0' ≤ a && a ≤ '5' && isDigit b && (atEnd rest || sixtieths atEnd rest))
  | [':', a] => isDigit a && atEnd []
  | _ => false

def looksBool (s : String) : Bool :=
  ["yes", "Yes", "YES", "no", "No", "NO", "true", "True", "TRUE", "false", "False", "FALSE", "on", "On",
    "ON", "off", "Off", "OFF"].contains s

/-- An exponent, which has a sign, or nothing. -/
def isExponent : List Char → Bool
  | [] => true
  | e :: sign :: ds => (e == 'e' || e == 'E') && (sign == '+' || sign == '-') && !ds.isEmpty && ds.all isDigit
  | _ => false

def looksFloat (cs : List Char) : Bool :=
  let body := dropSign cs
  let word := String.ofList body
  match body with
  | '.' :: c :: rest =>
    [".inf", ".Inf", ".INF"].contains word ||
      (body.length = cs.length &&
        ([".nan", ".NaN", ".NAN"].contains word ||
          (isDigit c && isExponent (rest.dropWhile isDigitOrGap))))
  | c :: rest =>
    isDigit c &&
      (match rest.dropWhile isDigitOrGap with
        | '.' :: frac => isExponent (frac.dropWhile isDigitOrGap)
        | more => sixtieths (fun
          | '.' :: frac => frac.all isDigitOrGap
          | _ => false) more)
  | [] => false

def looksInt (cs : List Char) : Bool :=
  match dropSign cs with
  | ['0'] => true
  | '0' :: 'b' :: ds => !ds.isEmpty && ds.all fun c => c == '0' || c == '1' || c == '_'
  | '0' :: 'x' :: ds => !ds.isEmpty && ds.all fun c => (hexValue? c).isSome || c == '_'
  | '0' :: ds => ds.all fun c => ('0' ≤ c && c ≤ '7') || c == '_'
  | c :: rest =>
    isDigit c &&
      (match rest.dropWhile isDigitOrGap with
        | [] => true
        | more => sixtieths List.isEmpty more)
  | [] => false

def looksNull (s : String) : Bool := ["~", "null", "Null", "NULL", ""].contains s

end Tag

/-- The parts of a date and a time of day as they are written. -/
structure TimestampParts where
  year : List Char
  month : List Char
  day : List Char
  /-- Hour, minute, second and the fraction behind it. -/
  clock : Option (List Char × List Char × List Char × List Char)
  /-- The sign of the offset from UTC, its hours and its minutes; UTC itself has none of them. -/
  offset : Option (Option (Char × List Char × List Char))

namespace TimestampParts

/-- Between `least` and `most` digits, as many as there are, and what follows. -/
def digits? (least most : Nat) (cs : List Char) : Option (List Char × List Char) :=
  let ds := (cs.take most).takeWhile Tag.isDigit
  if ds.length < least then none else some (ds, cs.drop ds.length)

/-- Pass one character. -/
def pass? (c : Char) : List Char → Option (List Char)
  | d :: rest => if d = c then some rest else none
  | [] => none

def isPad (c : Char) : Bool := c == ' ' || c == '\t'

/-- What may follow a time of day: blanks and an offset from UTC. -/
def offset? (cs : List Char) : Option (Option (Option (Char × List Char × List Char))) :=
  match cs with
  | [] => some none
  | _ =>
    match cs.dropWhile isPad with
    | ['Z'] => some (some none)
    | sign :: rest =>
      if sign == '+' || sign == '-' then do
        let (hours, rest) ← digits? 1 2 rest
        match rest with
        | [] => some (some (some (sign, hours, [])))
        | _ =>
          let (minutes, rest) ← digits? 2 2 (← pass? ':' rest)
          if rest.isEmpty then some (some (some (sign, hours, minutes))) else none
      else none
    | [] => none

/-- Read a date, alone or with a time of day. -/
def ofText? (cs : List Char) : Option TimestampParts := do
  let (year, rest) ← digits? 4 4 cs
  let (month, rest) ← digits? 1 2 (← pass? '-' rest)
  let (day, rest) ← digits? 1 2 (← pass? '-' rest)
  match rest with
  | [] => return ⟨year, month, day, none, none⟩
  | c :: after =>
    let rest ← if c == 'T' || c == 't' then some after
      else if isPad c then some (after.dropWhile isPad)
      else none
    let (hour, rest) ← digits? 1 2 rest
    let (minute, rest) ← digits? 2 2 (← pass? ':' rest)
    let (second, rest) ← digits? 2 2 (← pass? ':' rest)
    let (fraction, rest) := match rest with
      | '.' :: more => (more.takeWhile Tag.isDigit, more.dropWhile Tag.isDigit)
      | _ => ([], rest)
    return ⟨year, month, day, some (hour, minute, second, fraction), ← offset? rest⟩

end TimestampParts

namespace Tag

/-- A date alone has two digits for month and day. -/
def looksTimestamp (cs : List Char) : Bool :=
  match TimestampParts.ofText? cs with
  | some p => p.clock.isSome || (p.month.length = 2 && p.day.length = 2)
  | none => false

/-- The tag of a plain scalar. -/
def ofPlain (s : String) : Tag :=
  let cs := s.toList
  if looksBool s then .bool
  else if looksFloat cs then .float
  else if looksInt cs then .int
  else if s = "<<" then .merge
  else if looksNull s then .null
  else if looksTimestamp cs then .timestamp
  else if s = "=" then .value
  else .str

end Tag

end Sheetflow.Yaml
