import Sheetflow.Pattern.Flag
import Sheetflow.Text.Identifier

/-!
# Reading patterns

The reader keeps one frame for every parenthesis that is open: the alternatives finished in it and
the items of the alternative in progress. Each step reads one item, one quantifier or one
parenthesis; a closing parenthesis turns its frame into an item of the frame around it. What can only
be judged once everything is read (references to groups that never came, looks behind of no fixed
width) is checked at the end.
-/

namespace Sheetflow.Pattern

/-- What a quantifier behind an item would do. -/
inductive ItemKind where
  | anchor
  | repetition
  | other
deriving DecidableEq

structure Item where
  node : Node
  kind : ItemKind

inductive Opening where
  | whole
  | capture (index : Nat)
  | plain
  | atomic
  | look (behind negated outermost : Bool)
  | conditional (group : Nat)

/-- An open parenthesis; lists have the latest first. -/
structure Frame where
  opening : Opening
  start : Nat
  flags : Flags
  done : List Node
  items : List Item

structure Reader where
  frame : Frame
  outer : List Frame
  /-- The number of groups opened, the whole match included. -/
  groups : Nat
  names : List (String × Nat)
  /-- Widths of the groups that are closed. -/
  widths : List (Nat × Width)
  /-- Inside a look behind: the number of groups opened before it. -/
  lookBehind : Option Nat
  /-- Groups that conditions refer to by number, with the position of the reference. -/
  conditions : List (Nat × Nat)
  unicode : Bool

/-- Quantifiers count below this number. -/
def repetitionLimit : Nat := 4294967295

def groupLimit : Nat := 2147483647

namespace Frame

def alternative (f : Frame) : Node := Node.ofList (f.items.reverse.map (·.node))

def node (f : Frame) : Node := Node.ofAlternatives (f.alternative :: f.done).reverse

/-- The two branches of a condition. -/
def branches (f : Frame) : Node × Node :=
  match (f.alternative :: f.done).reverse with
  | [yes, no] => (yes, no)
  | [yes] => (yes, .empty)
  | _ => (.empty, .empty)

end Frame

namespace Reader

def initial : Reader :=
  { frame := ⟨.whole, 0, .initial, [], []⟩, outer := [], groups := 1, names := [], widths := [],
    lookBehind := none, conditions := [], unicode := false }

def flags (r : Reader) : Flags := r.frame.flags

def push (r : Reader) (node : Node) (kind : ItemKind) : Reader :=
  { r with frame := { r.frame with items := ⟨node, kind⟩ :: r.frame.items } }

def openFrame (r : Reader) (opening : Opening) (start : Nat) (flags : Flags) : Reader :=
  { r with frame := ⟨opening, start, flags, [], []⟩, outer := r.frame :: r.outer }

def widthOf? (r : Reader) (group : Nat) : Option Width := r.widths.lookup group

/-- References inside a look behind may only go to groups closed before it. -/
def checkLookBehind (r : Reader) (group : Nat) : Reading Unit := do
  match r.lookBehind with
  | none => return
  | some before =>
    if (r.widthOf? group).isNone then Reading.fail .openGroup 0
    else if before ≤ group then Reading.fail .groupInsideLookBehind 0

/-- A reference to a group, whose text ends `back` characters ahead. -/
def reference (r : Reader) (group back : Nat) : Reading Reader := do
  match r.widthOf? group with
  | none => Reading.fail .openGroup back
  | some w =>
    r.checkLookBehind group
    return r.push (.backreference group w r.flags.casing) .other

/-- A backslash and a digit: an octal code or a reference to a group. -/
def digitEscape (r : Reader) (c : Char) : Reading Reader := do
  if c = '0' then
    let ds ← Reading.takeWhile isOctal 2
    return r.push (literal r.flags (valueIn 8 ds)) .other
  else
    let second ← Reading.takeWhile Text.isAsciiDigit 1
    let third ← if isOctal c && second.any isOctal then Reading.takeWhile isOctal 1 else pure []
    let ds := c :: second ++ third
    if !third.isEmpty then
      if 0o377 < valueIn 8 ds then failEscape .octalTooLarge c (second ++ third)
      else return r.push (literal r.flags (valueIn 8 ds)) .other
    else
      let group := valueIn 10 ds
      if group < r.groups then r.reference group (ds.length + 1)
      else Reading.fail (.invalidGroup group) ds.length

def escape (r : Reader) (c : Char) : Reading Reader := do
  let f := r.flags
  match anchorOf? f.ascii c, categoryOf? f.ascii c, controlOf? c, codeEscape? c with
  | some a, _, _, _ => return r.push (.anchor a) .anchor
  | _, some item, _, _ => return r.push (.char ⟨false, [item], f.casing⟩) .other
  | _, _, some n, _ => return r.push (literal f n) .other
  | _, _, _, some code => return r.push (literal f (← code)) .other
  | none, none, none, none =>
    if Text.isAsciiDigit c then r.digitEscape c
    else if Text.isAsciiLetter c then failEscape .badEscape c []
    else return r.push (literal f c.toNat) .other

/-- What may stand behind a quantifier: how much it takes of what it could. -/
def greed : Reading Greed := do
  if ← Reading.accept '?' then return .lazy
  else if ← Reading.accept '+' then return .possessive
  else return .greedy

/-- Make the latest item a repetition; the quantifier stands at `position`. -/
def quantify (r : Reader) (position least : Nat) (most : Option Nat) : Reading Reader := do
  let failHere {α : Type} (cause : Cause) : Reading α := do
    Reading.fail cause ((← Reading.tell) - position)
  match r.frame.items with
  | [] => failHere .nothingToRepeat
  | item :: items =>
    match item.kind with
    | .anchor => failHere .nothingToRepeat
    | .repetition => failHere .multipleRepeat
    | .other =>
      return { r with frame := { r.frame with
        items := ⟨.repetition least most (← greed) item.node, .repetition⟩ :: items } }

/-- The number of a repetition; without digits it is zero. -/
def repetitionCount (ds : List Char) : Reading Nat :=
  if digitLimit < ds.length then throw (.numeral ⟨ds.length⟩)
  else if repetitionLimit ≤ valueIn 10 ds then throw .repetitionTooLarge
  else return valueIn 10 ds

/-- A brace, which has been passed: a quantifier if it has the form of one, else itself. -/
def brace (r : Reader) : Reading Reader := do
  let saved ← get
  let here ← Reading.tell
  let itself : Reading Reader := do
    set saved
    return r.push (literal r.flags '{'.toNat) .other
  if (← Reading.peek) = some (.char '}') then itself
  else
    let many := saved.symbols.length
    let lo ← Reading.takeWhile Text.isAsciiDigit many
    let comma ← Reading.accept ','
    let hi ← if comma then Reading.takeWhile Text.isAsciiDigit many else pure lo
    if !(← Reading.accept '}') then itself
    else
      let least ← repetitionCount lo
      let most ← repetitionCount hi
      if hi.isEmpty then r.quantify (here - 1) least none
      else if most < least then Reading.fail .leastAboveMost ((← Reading.tell) - here)
      else r.quantify (here - 1) least (some most)

/-- Open a capturing group, named or not. -/
def capture (r : Reader) (start : Nat) (name : Option String) : Reading Reader := do
  let index := r.groups
  let r := { r with groups := index + 1 }
  match name with
  | none => return r.openFrame (.capture index) start r.flags
  | some name =>
    match r.names.lookup name with
    | some earlier => Reading.fail (.groupRedefined name index earlier) (name.length + 1)
    | none =>
      return { r with names := (name, index) :: r.names }.openFrame (.capture index) start r.flags

def checkedName (terminator : Char) : Reading String := do
  let name ← Reading.name terminator "group name"
  if Text.isName name.toList then return name
  else Reading.fail (.badGroupName name) (name.length + 1)

/-- `(?P` has been passed. -/
def named (r : Reader) (start : Nat) : Reading Reader := do
  if ← Reading.accept '<' then
    r.capture start (some (← checkedName '>'))
  else if ← Reading.accept '=' then
    let name ← checkedName ')'
    match r.names.lookup name with
    | none => Reading.fail (.unknownGroupName name) (name.length + 1)
    | some group => r.reference group (name.length + 1)
  else match ← Reading.take with
    | none => Reading.fail .unexpectedEnd 0
    | some sym => Reading.fail (.unknownExtension ("?P" ++ String.ofList sym.text)) (sym.length + 2)

def lookAround (r : Reader) (start : Nat) (behind negated : Bool) : Reader :=
  let outermost := behind && r.lookBehind.isNone
  let r := if outermost then { r with lookBehind := some r.groups } else r
  r.openFrame (.look behind negated outermost) start r.flags

/-- `(?(` has been passed. -/
def condition (r : Reader) (start : Nat) : Reading Reader := do
  let name ← Reading.name ')' "group name"
  let back := name.length + 1
  if Text.isName name.toList then
    match r.names.lookup name with
    | none => Reading.fail (.unknownGroupName name) back
    | some group =>
      r.checkLookBehind group
      return r.openFrame (.conditional group) start r.flags
  else match Numeral.readInt (Text.trim name).toList with
    | .value (.ofNat 0) => Reading.fail .badGroupNumber back
    | .value (.ofNat group) =>
      if groupLimit ≤ group then Reading.fail (.invalidGroup group) back
      else
        let position := (← Reading.tell) - back
        let r := if (r.conditions.lookup group).isSome then r
          else { r with conditions := r.conditions ++ [(group, position)] }
        r.checkLookBehind group
        return r.openFrame (.conditional group) start r.flags
    | _ => Reading.fail (.badGroupName name) back

def skipComment (start : Nat) : Nat → Reading Unit
  | 0 => return
  | fuel + 1 => do
    match ← Reading.take with
    | none => Reading.fail .unterminatedComment ((← Reading.tell) - start)
    | some sym => if sym = .char ')' then return else skipComment start fuel

/-- Flags for the whole pattern. -/
def setFlags (r : Reader) (start : Nat) (on : List Char) : Reading Reader := do
  if r.outer.isEmpty && r.frame.done.isEmpty && r.frame.items.isEmpty then
    return { r with
      frame := { r.frame with flags := r.flags.turnOn (on.filter (· != 'u')) }
      unicode := r.unicode || on.contains 'u' }
  else Reading.fail .flagsNotAtStart ((← Reading.tell) - start)

/-- `(?` has been passed. -/
def extension (r : Reader) (start : Nat) : Reading Reader := do
  match ← Reading.take with
  | none => Reading.fail .unexpectedEnd 0
  | some (.char 'P') => r.named start
  | some (.char ':') => return r.openFrame .plain start r.flags
  | some (.char '#') =>
    skipComment start ((← get).symbols.length + 1)
    return r
  | some (.char '=') => return r.lookAround start false false
  | some (.char '!') => return r.lookAround start false true
  | some (.char '<') =>
    match ← Reading.take with
    | none => Reading.fail .unexpectedEnd 0
    | some (.char '=') => return r.lookAround start true false
    | some (.char '!') => return r.lookAround start true true
    | some sym => Reading.fail (.unknownExtension ("?<" ++ String.ofList sym.text)) (sym.length + 2)
  | some (.char '(') => r.condition start
  | some (.char '>') => return r.openFrame .atomic start r.flags
  | some sym =>
    let flag := match sym with
      | .char '-' => some '-'
      | _ => flagOf? sym
    match flag with
    | none => Reading.fail (.unknownExtension ("?" ++ String.ofList sym.text)) (sym.length + 1)
    | some c =>
      match ← flagEffect c with
      | .whole on => r.setFlags start on
      | .group change => return r.openFrame .plain start (r.flags.change change)

/-- A closing parenthesis, which has been passed. -/
def close (r : Reader) : Reader :=
  match r.outer with
  | [] => r
  | frame :: outer =>
    let f := r.frame
    let r := { r with frame, outer }
    match f.opening with
    | .whole => r
    | .capture i =>
      { r with widths := (i, f.node.width) :: r.widths }.push (.group i f.node) .other
    | .plain => r.push f.node .other
    | .atomic => r.push (.atomic f.node) .other
    | .look behind negated outermost =>
      { r with lookBehind := if outermost then none else r.lookBehind }.push
        (.look behind negated f.node) .other
    | .conditional g => r.push (.conditional g f.branches.1 f.branches.2) .other

/-- A bar, which comes next. -/
def bar (r : Reader) : Reading Reader := do
  match r.frame.opening, r.frame.done with
  | .conditional _, _ :: _ => Reading.fail .tooManyBranches 0
  | _, _ =>
    let _ ← Reading.take
    return { r with frame := { r.frame with done := r.frame.alternative :: r.frame.done, items := [] } }

def skipLine : Nat → Reading Unit
  | 0 => return
  | fuel + 1 => do
    match ← Reading.take with
    | none => return
    | some sym => if sym = .char '\n' then return else skipLine fuel

/-- A character that has been passed and is neither bar nor closing parenthesis. -/
def character (r : Reader) (c : Char) : Reading Reader := do
  let f := r.flags
  let position := (← Reading.tell) - 1
  if f.verbose && (c == ' ' || (9 ≤ c.toNat && c.toNat ≤ 13)) then return r
  else if f.verbose && c == '#' then
    skipLine ((← get).symbols.length + 1)
    return r
  else match c with
    | '[' => return r.push (.char (← charClass f)) .other
    | '?' => r.quantify position 0 (some 1)
    | '*' => r.quantify position 0 none
    | '+' => r.quantify position 1 none
    | '{' => r.brace
    | '.' => return r.push (.any f.dotAll) .other
    | '(' => if ← Reading.accept '?' then r.extension position else r.capture position none
    | '^' => return r.push (.anchor (if f.multiline then .lineStart else .textStart)) .anchor
    | '$' => return r.push (.anchor (if f.multiline then .lineEnd else .lastLineEnd)) .anchor
    | _ => return r.push (literal f c.toNat) .other

/-- Read to the end, or to a closing parenthesis that closes nothing. -/
def read (r : Reader) : Nat → Reading Reader
  | 0 => return r
  | fuel + 1 => do
    match ← Reading.peek with
    | none => return r
    | some (.char ')') =>
      if r.outer.isEmpty then return r
      else
        let _ ← Reading.take
        r.close.read fuel
    | some (.char '|') => (← r.bar).read fuel
    | some (.char c) =>
      let _ ← Reading.take
      (← r.character c).read fuel
    | some (.escape c) =>
      let _ ← Reading.take
      (← r.escape c).read fuel
    | some .dangling => return r

/-- The pattern, if everything is closed and every condition refers to a group. -/
def finish (r : Reader) : Reading Node := do
  let position ← Reading.tell
  if !r.outer.isEmpty then Reading.fail .unterminatedGroup (position - r.frame.start)
  else if r.unicode && r.flags.ascii then throw .asciiAndUnicode
  else if (← Reading.peek).isSome then Reading.fail .unbalanced 0
  else match r.conditions.find? (fun c => r.groups ≤ c.1) with
    | some (group, place) => throw (.fault ⟨.invalidGroup group, some place⟩)
    | none => return r.frame.node

end Reader

def Greed.operator : Greed → String
  | .greedy => "MAX_REPEAT"
  | .lazy => "MIN_REPEAT"
  | .possessive => "POSSESSIVE_REPEAT"

/-- The first piece that cannot be matched: a look behind without a fixed width, or, if the pattern is
a template, a repetition. -/
def Node.unsupported? (template : Bool) : Node → Option Cause
  | .empty | .char _ | .any _ | .anchor _ | .backreference _ _ _ => none
  | .seq a b | .alt a b | .conditional _ a b => (a.unsupported? template).or (b.unsupported? template)
  | .group _ body | .atomic body => body.unsupported? template
  | .repetition _ _ greed body =>
    if template then some (.templateRepeat greed.operator) else body.unsupported? template
  | .look behind _ body =>
    if behind && 4294967295 < body.width.least then some .farLookBehind
    else if behind && body.width.least != body.width.most then some .variableLookBehind
    else body.unsupported? template

/-- Read a pattern in which case does not matter unless it says so. -/
def read (text : String) : Except Error Node := do
  let cs := text.toList
  let source ← Source.ofText cs
  let reading : Reading (Reader × Node) := do
    let r ← Reader.initial.read (cs.length + 1)
    return (r, ← r.finish)
  let ((r, node), _) ← reading.run source
  match node.unsupported? r.flags.template with
  | some cause => throw (.fault ⟨cause, none⟩)
  | none => return node

end Sheetflow.Pattern
