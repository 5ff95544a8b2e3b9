import Sheetflow.Document.Yaml.Cursor

/-!
# The text of scalars

Scalars are written plain, in single or double quotes, or as blocks of lines. In all forms but the
literal block a single line break counts as a blank, and of several the first is dropped.
-/

namespace Sheetflow.Yaml

namespace Scan

/-- A line break and further ones, joined: what they count as. -/
def joined (first : Char) (more : List Char) : List Char :=
  if first ≠ '\n' then first :: more
  else if more.isEmpty then [' ']
  else more

end Scan

open Scan

/-! ### Plain scalars -/

def isFlowMark (c : Char) : Bool := c == ',' || c == '[' || c == ']' || c == '\x7b' || c == '\x7d'

/-- The head of a text up to where a plain scalar pauses: at a blank, at a colon that ends a key, and
inside brackets at every mark. -/
def plainChunk (inFlow : Bool) : List Char → List Char
  | [] => []
  | c :: rest =>
    if endsWord (some c) ||
        (c == ':' && (endsWord rest.head? || (inFlow && rest.head?.any isFlowMark))) ||
        (inFlow && (isFlowMark c || c == '?')) then []
    else c :: plainChunk inFlow rest

/-- The breaks inside a plain scalar; nothing if a separator of documents comes up. -/
def plainBreaks : Nat → Scan (Option (List Char))
  | 0 => return none
  | fuel + 1 => do
    if (← get).atSeparator then return none
    else
      skipSpaces
      match ← lineBreak with
      | none => return some []
      | some c => return (← plainBreaks fuel).map (c :: ·)

/-- What separates two chunks of a plain scalar, and whether a line ended there. -/
structure Gap where
  text : List Char
  crossed : Bool

/-- Pass what separates chunks; an empty text ends the scalar. -/
def plainGap : Scan Gap := do
  let blanks ← Scan.takeWhile (· == ' ')
  match ← lineBreak with
  | none => return ⟨blanks, false⟩
  | some first =>
    match ← plainBreaks ((← get).rest.length + 1) with
    | none => return ⟨[], true⟩
    | some more => return ⟨joined first more, true⟩

/-- A plain scalar, and whether a line ended behind its last chunk. In blocks its lines have at least
the given indentation. -/
def plainRest (inFlow : Bool) (indent : Int) (before : List Char) : Nat → Scan (List Char × Bool)
  | 0 => return ([], false)
  | fuel + 1 => do
    let chunk := plainChunk inFlow (← get).rest
    if chunk.isEmpty then return ([], false)
    else
      forward chunk.length
      let gap ← plainGap
      let p ← get
      if gap.text.isEmpty || p.rest.head? == some '#' ||
          (!inFlow && (p.mark.column : Int) < indent) then
        return (before ++ chunk, gap.crossed)
      else
        let (more, crossed) ← plainRest inFlow indent gap.text fuel
        return (before ++ chunk ++ more, if more.isEmpty then gap.crossed else crossed)

def plainScalar (inFlow : Bool) (indent : Int) : Scan (List Char × Bool) := do
  plainRest inFlow indent [] ((← get).rest.length + 1)

/-! ### Quoted scalars -/

/-- What a backslash and this character stand for. -/
def escapeOf? : Char → Option Char
  | '0' => some '\x00'
  | 'a' => some '\x07'
  | 'b' => some '\x08'
  | 't' => some '\t'
  | '\t' => some '\t'
  | 'n' => some '\n'
  | 'v' => some '\x0b'
  | 'f' => some '\x0c'
  | 'r' => some '\r'
  | 'e' => some '\x1b'
  | ' ' => some ' '
  | '"' => some '"'
  | '\\' => some '\\'
  | '/' => some '/'
  | 'N' => some '\u0085'
  | '_' => some '\u00A0'
  | 'L' => some '\u2028'
  | 'P' => some '\u2029'
  | _ => none

/-- How many digits follow the letter of an escape. -/
def codeLength? : Char → Option Nat
  | 'x' => some 2
  | 'u' => some 4
  | 'U' => some 8
  | _ => none

def hexValue? (c : Char) : Option Nat :=
  if '0' ≤ c && c ≤ '9' then some (c.toNat - 48)
  else if 'a' ≤ c && c ≤ 'f' then some (c.toNat - 87)
  else if 'A' ≤ c && c ≤ 'F' then some (c.toNat - 55)
  else none

/-- A number of exactly `n` hexadecimal digits; `what` is what they are called. -/
def hexNumber (context : String) (start : Mark) (what : String) (n : Nat) : Scan Nat := do
  let ds := (← get).rest.take n
  let good := ds.takeWhile fun c => (hexValue? c).isSome
  if good.length = n then
    forward n
    return good.foldl (fun a c => 16 * a + (hexValue? c).getD 0) 0
  else
    fail context start ("expected " ++ what ++ " of " ++ toString n ++
      " hexadecimal numbers, but found " ++ shown (ds.drop good.length).head?)

/-- The character of a number. Halves of pairs are no characters of their own. -/
def charOfCode (code : Nat) : Scan Char :=
  if 0x110000 ≤ code then throw (.scalar (.noSuchCharacter code))
  else return if 0xD800 ≤ code && code < 0xE000 then '\uFFFD' else Char.ofNat code

/-- The line breaks inside a quoted scalar, which no separator of documents may interrupt. -/
def quotedBreaks (start : Mark) : Nat → Scan (List Char)
  | 0 => return []
  | fuel + 1 => do
    if (← get).atSeparator then
      fail "while scanning a quoted scalar" start "found unexpected document separator"
    else
      let _ ← Scan.takeWhile fun c => c == ' ' || c == '\t'
      match ← lineBreak with
      | none => return []
      | some c => return c :: (← quotedBreaks start fuel)

/-- What blanks and line breaks inside a quoted scalar count as. -/
def quotedGap (start : Mark) : Scan (List Char) := do
  let blanks ← Scan.takeWhile fun c => c == ' ' || c == '\t'
  if (← peek).isNone then
    fail "while scanning a quoted scalar" start "found unexpected end of stream"
  match ← lineBreak with
  | none => return blanks
  | some first => return joined first (← quotedBreaks start ((← get).rest.length + 1))

/-- What a backslash starts, behind it. -/
def quotedEscape (start : Mark) : Scan (List Char) := do
  let context := "while scanning a double-quoted scalar"
  let next ← peek
  let c := next.getD '\x00'
  if next.isNone then fail context start ("found unknown escape character " ++ shown next)
  match escapeOf? c, codeLength? c with
  | some d, _ => forward 1; return [d]
  | none, some n =>
    forward 1
    return [← charOfCode (← hexNumber context start "escape sequence" n)]
  | none, none =>
    if isBreak c then
      let _ ← lineBreak
      quotedBreaks start ((← get).rest.length + 1)
    else fail context start ("found unknown escape character " ++ shown next)

/-- The characters up to the closing quote, the latest first in `done`. -/
def quotedRest (start : Mark) (double : Bool) (done : List Char) : Nat → Scan (List Char)
  | 0 => return done.reverse
  | fuel + 1 => do
    let quote := if double then '"' else '\''
    match (← get).rest with
    | [] => quotedGap start
    | c :: more =>
      if c = quote then
        if !double && more.head? == some '\'' then
          forward 2
          quotedRest start double ('\'' :: done) fuel
        else
          forward 1
          return done.reverse
      else if endsWord (some c) then
        let gap ← quotedGap start
        quotedRest start double (gap.reverse ++ done) fuel
      else if double && c == '\\' then
        forward 1
        let cs ← quotedEscape start
        quotedRest start double (cs.reverse ++ done) fuel
      else
        forward 1
        quotedRest start double (c :: done) fuel

/-- A scalar in quotes. -/
def quotedScalar : Scan (List Char) := do
  let p ← get
  forward 1
  quotedRest p.mark (p.rest.head? == some '"') [] (p.rest.length + 1)

/-! ### Blocks of lines -/

/-- What becomes of the line breaks at the end of a block. -/
inductive Chomping where
  | strip
  | clip
  | keep
deriving DecidableEq, Repr

def Chomping.ofChar? : Option Char → Option Chomping
  | some '+' => some .keep
  | some '-' => some .strip
  | _ => none

def blockContext : String := "while scanning a block scalar"

/-- Pass the sign for chomping, if it comes next. -/
def chompingSign? : Scan (Option Chomping) := do
  match Chomping.ofChar? (← peek) with
  | some chomping => forward 1; return some chomping
  | none => return none

/-- Pass a digit for the indentation, if it comes next. -/
def indentDigit? (start : Mark) : Scan (Option Nat) := do
  match ← peek with
  | some '0' =>
    fail blockContext start "expected indentation indicator in the range 1-9, but found 0"
  | some c =>
    if '1' ≤ c && c ≤ '9' then
      forward 1
      return some (c.toNat - 48)
    else return none
  | none => return none

/-- The head of a block: chomping and indentation in either order. -/
def blockHead (start : Mark) : Scan (Chomping × Option Nat) := do
  let head : Chomping × Option Nat ←
    match ← chompingSign? with
    | some chomping => pure (chomping, ← indentDigit? start)
    | none =>
      match ← indentDigit? start with
      | some n => pure ((← chompingSign?).getD .clip, some n)
      | none => pure (Chomping.clip, none)
  let next ← peek
  if endsLine next || next == some ' ' then return head
  else expected blockContext start "chomping or indentation indicators"

/-- Pass up to `indent` blanks. -/
def passIndent (indent : Nat) : Scan Unit := do
  let p ← get
  forward (min (indent - p.mark.column) (p.rest.takeWhile (· == ' ')).length)

/-- The empty lines that come next, and the indentation of the following line. -/
def blockBreaks (indent : Nat) : Nat → Scan (List Char)
  | 0 => return []
  | fuel + 1 => do
    passIndent indent
    match ← lineBreak with
    | none => return []
    | some c => return c :: (← blockBreaks indent fuel)

/-- The empty lines at the start of a block whose indentation is not given, and the largest column
reached among them and before the first text. -/
def leadingBreaks (widest : Nat) : Nat → Scan (List Char × Nat)
  | 0 => return ([], widest)
  | fuel + 1 => do
    skipSpaces
    let widest := max widest (← get).mark.column
    match ← lineBreak with
    | none => return ([], widest)
    | some c =>
      let (more, w) ← leadingBreaks widest fuel
      return (c :: more, w)

def isPad : Option Char → Bool
  | some c => c == ' ' || c == '\t'
  | none => false

/-- The lines of a block from the first on, behind the given breaks; then the last line break and the
empty lines after it. -/
def blockLines (folded : Bool) (indent : Nat) (before : List Char) :
    Nat → Scan (List Char × Option Char × List Char)
  | 0 => return ([], none, before)
  | fuel + 1 => do
    let p ← get
    if p.mark.column = indent ∧ ¬ p.rest.isEmpty then
      let padded := isPad p.rest.head?
      let line ← Scan.takeWhile (!isBreak ·)
      let ending ← lineBreak
      let more ← blockBreaks indent ((← get).rest.length + 1)
      let q ← get
      if q.mark.column = indent ∧ ¬ q.rest.isEmpty then
        let (glue, more) :=
          if folded && ending == some '\n' && !padded && !isPad q.rest.head? then
            (if more.isEmpty then [' '] else [], more)
          else (ending.toList, more)
        let (text, rest) ← blockLines folded indent more fuel
        return (before ++ line ++ glue ++ text, rest)
      else return (before ++ line, ending, more)
    else return ([], none, before)

/-- A block of lines inside a node of the given indentation. -/
def blockScalar (folded : Bool) (indent : Int) : Scan (List Char) := do
  let start ← mark
  forward 1
  let (chomping, increment) ← blockHead start
  restOfLine blockContext start
  let least := (max (indent + 1) 1).toNat
  let fuel := (← get).rest.length + 1
  let (width, breaks) ←
    match increment with
    | some n =>
      let width := least + n - 1
      pure (width, ← blockBreaks width fuel)
    | none =>
      let (breaks, widest) ← leadingBreaks 0 fuel
      pure (max least widest, breaks)
  let (text, ending, more) ← blockLines folded width breaks fuel
  return match chomping with
    | .strip => text
    | .clip => text ++ ending.toList
    | .keep => text ++ ending.toList ++ more

end Sheetflow.Yaml
