import Sheetflow.Number.Numeral
import Sheetflow.Text.Quoted

/-!
# Places in YAML texts

YAML is read from left to right by a cursor that knows its line and its column, because columns are
what blocks are made of. This module also says which characters a text may hold, where words and lines
end, and how a fault is reported: with the lines on which it was found.
-/

namespace Sheetflow.Yaml

/-! ### Characters -/

/-- May a text hold the character? -/
def isAllowed (c : Char) : Bool :=
  c == '\t' || c == '\n' || c == '\r' || (' ' ≤ c && c ≤ '~') || c == '\u0085' ||
    ('\u00A0' ≤ c && c != '\uFFFE' && c != '\uFFFF')

def isBreak (c : Char) : Bool :=
  c == '\r' || c == '\n' || c == '\u0085' || c == '\u2028' || c == '\u2029'

/-- Does a line end where this character, if any, comes next? -/
def endsLine : Option Char → Bool
  | none => true
  | some c => isBreak c

/-- Does a word end there? -/
def endsWord : Option Char → Bool
  | none => true
  | some c => c == ' ' || c == '\t' || isBreak c

/-! ### Faults -/

/-- A place in a text. -/
structure Mark where
  offset : Nat
  line : Nat
  column : Nat
deriving DecidableEq, Repr

namespace Mark

/-- The most characters of a line that are shown on one side of a place. -/
def reach : Nat := 36

/-- How many of `n` characters are shown, and whether there are more. -/
def shownLength (n : Nat) : Nat × Bool := if reach < n then (reach - 4, true) else (n, false)

/-- The line of a place with a sign below it. -/
def snippet (text : List Char) (m : Mark) : String :=
  let before := ((text.take m.offset).reverse.takeWhile (!isBreak ·)).reverse
  let after := (text.drop m.offset).takeWhile (!isBreak ·)
  let (left, cutLeft) := shownLength before.length
  let (right, cutRight) := shownLength after.length
  let head := if cutLeft then " ... ".toList else []
  let tail := if cutRight then " ... ".toList else []
  let indent := List.replicate 4 ' '
  String.ofList (indent ++ head ++ before.drop (before.length - left) ++ after.take right ++ tail ++
    '\n' :: (List.replicate (4 + left + head.length) ' ' ++ ['^']))

def text (source : List Char) (m : Mark) : String :=
  "  in \"<unicode string>\", line " ++ toString (m.line + 1) ++ ", column " ++ toString (m.column + 1) ++
    ":\n" ++ snippet source m

end Mark

/-- What is wrong with the form of a text: the problem, where it was found, and what was being read
there since when. -/
structure Fault where
  context : Option String
  start : Option Mark
  problem : String
  mark : Mark
deriving DecidableEq

/-- The message for a fault in a text. A place is not shown twice. -/
def Fault.message (source : List Char) (f : Fault) : String :=
  let started := match f.start with
    | some m => if m.line = f.mark.line ∧ m.column = f.mark.column then [] else [m.text source]
    | none => []
  String.intercalate "\n" (f.context.toList ++ started ++ [f.problem, f.mark.text source])

/-- Why a scalar has no value of the type it is marked with. -/
inductive ScalarError where
  /-- A character number in an escape is beyond the last character. -/
  | noSuchCharacter (code : Nat)
  | notWhole (base : Nat) (text : String)
  | tooLong (e : NumeralTooLong)
  | notAFloat (text : String)
  | emptyNumber
  | notATruthValue (text : String)
  | notATimestamp
  | yearRange (year : Nat)
  | monthRange
  | dayRange
  | hourRange
  | minuteRange
  | secondRange
  /-- An offset from UTC of a day or more, in seconds. -/
  | offsetRange (seconds : Int)
deriving DecidableEq

namespace ScalarError

/-- A span of time as days and seconds. -/
def spanText (seconds : Int) : String :=
  let days := Int.fdiv seconds 86400
  let rest := seconds - days * 86400
  "datetime.timedelta(days=" ++ toString days ++
    (if rest = 0 then "" else ", seconds=" ++ toString rest) ++ ")"

def message : ScalarError → String
  | .noSuchCharacter code =>
    if code < 0x80000000 then "chr() arg not in range(0x110000)"
    else "Python int too large to convert to C int"
  | .notWhole base text =>
    "invalid literal for int() with base " ++ toString base ++ ": " ++ Text.quoted text
  | .tooLong e => e.message
  | .notAFloat text => "could not convert string to float: " ++ Text.quoted text
  | .emptyNumber => "string index out of range"
  | .notATruthValue text => Text.quoted text
  | .notATimestamp => "'NoneType' object has no attribute 'groupdict'"
  | .yearRange year => "year " ++ toString year ++ " is out of range"
  | .monthRange => "month must be in 1..12"
  | .dayRange => "day is out of range for month"
  | .hourRange => "hour must be in 0..23"
  | .minuteRange => "minute must be in 0..59"
  | .secondRange => "second must be in 0..59"
  | .offsetRange seconds =>
    "offset must be a timedelta strictly between -timedelta(hours=24) and timedelta(hours=24), not " ++
      spanText seconds ++ "."

end ScalarError

/-- Why a text is no document. -/
inductive Error where
  | character (c : Char) (offset : Nat)
  | malformed (f : Fault)
  | scalar (e : ScalarError)
  /-- There is no room for one more collection. -/
  | tooDeep
deriving DecidableEq

def depthMessage : String := "maximum recursion depth exceeded"

def Error.message (source : List Char) : Error → String
  | .character c offset =>
    "unacceptable character #x" ++ String.ofList (Text.hex 4 c.toNat) ++
      ": special characters are not allowed\n  in \"<unicode string>\", position " ++ toString offset
  | .malformed f => f.message source
  | .scalar e => e.message
  | .tooDeep => depthMessage

/-! ### The cursor -/

structure Cursor where
  rest : List Char
  mark : Mark

namespace Cursor

def ofText (cs : List Char) : Cursor := ⟨cs, ⟨0, 0, 0⟩⟩

/-- Pass one character. -/
def step (p : Cursor) : Cursor :=
  let m := p.mark
  match p.rest with
  | [] => p
  | c :: rest =>
    if isBreak c && !(c == '\r' && rest.head? == some '\n') then ⟨rest, m.offset + 1, m.line + 1, 0⟩
    else ⟨rest, m.offset + 1, m.line, if c = '\uFEFF' then m.column else m.column + 1⟩

def forward (p : Cursor) : Nat → Cursor
  | 0 => p
  | n + 1 => p.step.forward n

/-- Do these three characters stand here as a word? -/
def atMarker (p : Cursor) (c : Char) : Bool :=
  p.rest.take 3 == [c, c, c] && endsWord (p.rest.drop 3).head?

/-- Does a document begin or end here? -/
def atSeparator (p : Cursor) : Bool := p.atMarker '-' || p.atMarker '.'

/-- Pass a line break, if there is one: what it counts as. The separators of lines and of paragraphs
stay what they are. -/
def lineBreak (p : Cursor) : Option Char × Cursor :=
  match p.rest with
  | '\r' :: '\n' :: _ => (some '\n', p.forward 2)
  | c :: _ =>
    if c == '\u2028' || c == '\u2029' then (some c, p.step)
    else if isBreak c then (some '\n', p.step)
    else (none, p)
  | [] => (none, p)

end Cursor

/-- Reading at a cursor. -/
abbrev Scan := StateT Cursor (Except Error)

namespace Scan

def mark : Scan Mark := return (← get).mark

/-- Fail here, in what was started at a place. -/
def fail {α : Type} (context : String) (start : Mark) (problem : String) : Scan α := do
  throw (.malformed ⟨some context, some start, problem, ← mark⟩)

def peek : Scan (Option Char) := return (← get).rest.head?

/-- The next character in quotes; the end of a text counts as the character zero. -/
def shown (c : Option Char) : String := Text.quoted (String.singleton (c.getD '\x00'))

/-- Fail because something else was expected than the next character. -/
def expected {α : Type} (context : String) (start : Mark) (what : String) : Scan α := do
  fail context start ("expected " ++ what ++ ", but found " ++ shown (← peek))

def forward (n : Nat) : Scan Unit := modify (·.forward n)

/-- Pass the characters for which `p` holds. -/
def takeWhile (p : Char → Bool) : Scan (List Char) := do
  let cs := (← get).rest.takeWhile p
  forward cs.length
  return cs

def skipSpaces : Scan Unit := do
  let _ ← takeWhile (· == ' ')

/-- Pass a comment, up to the end of the line. -/
def skipComment : Scan Unit := do
  if (← peek) = some '#' then
    let _ ← takeWhile (!isBreak ·)

def lineBreak : Scan (Option Char) := do
  let (c, p) := (← get).lineBreak
  set p
  return c

/-- Pass what may follow at the end of a line: blanks and a comment. -/
def restOfLine (context : String) (start : Mark) : Scan Unit := do
  skipSpaces
  skipComment
  if endsLine (← peek) then
    let _ ← lineBreak
  else expected context start "a comment or a line break"

end Scan

end Sheetflow.Yaml
