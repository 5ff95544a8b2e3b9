import Sheetflow.Document.Yaml.Token

/-!
# From texts to tokens

Where a block begins or ends there is no character for it, only a change of indentation; and that
something was a key is only known when the colon behind it is found. So a token that may turn out to
start a key is remembered, and the tokens for keys are put in at the end. Until it is known whether a
token starts a key, it and the tokens behind it cannot be had: a fault that comes before that hides
them.
-/

namespace Sheetflow.Yaml

/-- A token that may turn out to start a key. -/
structure PendingKey where
  /-- How many tokens come before it. -/
  index : Nat
  /-- Must it start a key, because nothing else can stand in its place? -/
  required : Bool
  mark : Mark

/-- The distance up to which a key may reach. -/
def keyReach : Nat := 1024

/-- Is the key no longer possible, because its line has ended or it has become too long? -/
def PendingKey.isStale (k : PendingKey) (m : Mark) : Bool :=
  k.mark.line != m.line || k.mark.offset + keyReach < m.offset

/-- A place in front of a token where a key starts, and perhaps a block mapping with it. -/
structure KeyMark where
  index : Nat
  startsMapping : Bool
  mark : Mark

structure Lexer where
  cursor : Cursor
  /-- How many brackets are open. -/
  depth : Nat := 0
  /-- The column of the innermost block. -/
  indent : Int := -1
  /-- The columns of the blocks around it, the innermost first. -/
  outer : List Int := []
  /-- May a key start here? -/
  keyAllowed : Bool := true
  /-- By the number of open brackets. -/
  pending : List (Nat × PendingKey) := []
  tokens : Array PlacedToken := #[]
  marks : List KeyMark := []

/-- A step of the lexer. -/
abbrev Lexing := StateT Lexer (Except Error)

namespace Lexer

def mark : Lexing Mark := return (← get).cursor.mark

/-- Fail here. -/
def fail {α : Type} (context : Option String) (start : Option Mark) (problem : String) : Lexing α := do
  throw (.malformed ⟨context, start, problem, ← mark⟩)

/-- A token from a place up to here. -/
def emitFrom (start : Mark) (t : Token) : Lexing Unit :=
  modify fun l => { l with tokens := l.tokens.push ⟨t, start, l.cursor.mark⟩ }

/-- A token that takes no space. -/
def emit (t : Token) : Lexing Unit := do emitFrom (← mark) t

/-- Read something at the cursor. -/
def scan {α : Type} (s : Scan α) : Lexing α := do
  let l ← get
  match s.run l.cursor with
  | .ok (a, p) => set { l with cursor := p }; return a
  | .error e => throw e

/-- A token of so many characters. -/
def pass (n : Nat) (t : Token) : Lexing Unit := do
  let start ← mark
  scan (Scan.forward n)
  emitFrom start t

def inFlow (l : Lexer) : Bool := 0 < l.depth

/-- Fail if the pending keys that are given up must be keys. -/
def giveUp (isGivenUp : Nat × PendingKey → Bool) : Lexing Unit := do
  let l ← get
  match l.pending.reverse.find? fun e => isGivenUp e && e.2.required with
  | some (_, k) => fail (some "while scanning a simple key") (some k.mark) "could not find expected ':'"
  | none => set { l with pending := l.pending.filter fun e => !isGivenUp e }

/-- Forget what can no longer be a key. -/
def dropStale : Lexing Unit := do
  let m ← mark
  giveUp fun e => e.2.isStale m

/-- What may be a key at this depth is none. -/
def dropPending : Lexing Unit := do
  let l ← get
  giveUp fun e => e.1 == l.depth

/-- Remember that the next token may start a key. -/
def rememberKey : Lexing Unit := do
  let l ← get
  if l.keyAllowed then
    dropPending
    let l ← get
    let m := l.cursor.mark
    let required := !l.inFlow && l.indent == (m.column : Int)
    set { l with pending := (l.depth, ⟨l.tokens.size, required, m⟩) :: l.pending }

def allowKey (b : Bool) : Lexing Unit := modify fun l => { l with keyAllowed := b }

/-- Close the blocks that lie deeper than a column. -/
def unwind (column : Int) : Lexing Unit := do
  let l ← get
  if l.inFlow then return
  let around := l.indent :: l.outer
  let closed := around.takeWhile (column < ·)
  match around.drop closed.length with
  | [] => return
  | indent :: outer =>
    let m := l.cursor.mark
    set { l with indent, outer
                 tokens := l.tokens ++ Array.replicate closed.length (⟨.blockEnd, m, m⟩ : PlacedToken) }

/-- Open a block at a column unless there is one already; was it opened? -/
def openBlock (column : Nat) : Lexing Bool := do
  let l ← get
  if l.indent < column then
    set { l with indent := column, outer := l.indent :: l.outer }
    return true
  else return false

/-- Pass blanks, comments and line breaks. -/
def skipToToken : Nat → Lexing Unit
  | 0 => return
  | fuel + 1 => do
    scan Scan.skipSpaces
    scan Scan.skipComment
    match ← scan Scan.lineBreak with
    | none => return
    | some _ =>
      if !(← get).inFlow then allowKey true
      skipToToken fuel

/-! ### Tokens by their first character -/

/-- A mark between documents, before which every block and key ends. -/
def separator (t : Token) : Lexing Unit := do
  unwind (-1)
  dropPending
  allowKey false
  pass 3 t

def directive : Lexing Unit := do
  unwind (-1)
  dropPending
  allowKey false
  let start ← mark
  emitFrom start (.directive (← scan Scan.directive))

def flowStart (t : Token) : Lexing Unit := do
  rememberKey
  modify fun l => { l with depth := l.depth + 1 }
  allowKey true
  pass 1 t

def flowEnd (t : Token) : Lexing Unit := do
  dropPending
  modify fun l => { l with depth := l.depth - 1 }
  allowKey false
  pass 1 t

def flowEntry : Lexing Unit := do
  allowKey true
  dropPending
  pass 1 .flowEntry

/-- Open a block here for an entry that may only stand where a key may. -/
def enterBlock (start : Token) (entries : String) : Lexing Unit := do
  let l ← get
  if !l.inFlow then
    if !l.keyAllowed then fail none none (entries ++ " are not allowed here")
    if ← openBlock l.cursor.mark.column then emit start

def blockEntry : Lexing Unit := do
  enterBlock .blockSequenceStart "sequence entries"
  allowKey true
  dropPending
  pass 1 .blockEntry

def key : Lexing Unit := do
  enterBlock .blockMappingStart "mapping keys"
  allowKey (!(← get).inFlow)
  dropPending
  pass 1 .key

/-- A colon: what was pending at this depth was a key. -/
def value : Lexing Unit := do
  let l ← get
  match l.pending.find? (·.1 == l.depth) with
  | some (_, k) =>
    set { l with pending := l.pending.filter fun e => e.1 != l.depth }
    let opened ← if l.inFlow then pure false else openBlock k.mark.column
    modify fun l => { l with marks := ⟨k.index, opened, k.mark⟩ :: l.marks }
    allowKey false
  | none =>
    enterBlock .blockMappingStart "mapping values"
    allowKey (!l.inFlow)
    dropPending
  pass 1 .value

/-- A token that may be a key, read by `s`. -/
def keyable (s : Scan Token) : Lexing Unit := do
  rememberKey
  allowKey false
  let start ← mark
  emitFrom start (← scan s)

def block (folded : Bool) : Lexing Unit := do
  allowKey true
  dropPending
  let start ← mark
  let cs ← scan (blockScalar folded (← get).indent)
  emitFrom start (.scalar (String.ofList cs) false)

def plain : Lexing Unit := do
  rememberKey
  let l ← get
  let (cs, crossed) ← scan (plainScalar l.inFlow (l.indent + 1))
  allowKey crossed
  emitFrom l.cursor.mark (.scalar (String.ofList cs) true)

/-- May a plain scalar start with these characters? -/
def startsPlain (inFlow : Bool) (c : Char) (next : Option Char) : Bool :=
  !(endsWord (some c) || "-?:,[]\x7b\x7d#&*!|>'\"%@\x60".toList.contains c) ||
    (!endsWord next && (c == '-' || (!inFlow && (c == '?' || c == ':'))))

/-- Read the token that starts with `c`. -/
def token (c : Char) (next : Option Char) : Lexing Unit := do
  let l ← get
  let p := l.cursor
  let atLineStart := p.mark.column = 0
  let atWordEnd := l.inFlow || endsWord next
  if c = '%' ∧ atLineStart then directive
  else if atLineStart ∧ p.atMarker '-' then separator .documentStart
  else if atLineStart ∧ p.atMarker '.' then separator .documentEnd
  else if c = '[' then flowStart .flowSequenceStart
  else if c = '\x7b' then flowStart .flowMappingStart
  else if c = ']' then flowEnd .flowSequenceEnd
  else if c = '\x7d' then flowEnd .flowMappingEnd
  else if c = ',' then flowEntry
  else if c = '-' ∧ endsWord next then blockEntry
  else if c = '?' ∧ atWordEnd then key
  else if c = ':' ∧ atWordEnd then value
  else if c = '*' then keyable (do return .reference (← Scan.anchorName "while scanning an alias"))
  else if c = '&' then keyable (do return .anchor (← Scan.anchorName "while scanning an anchor"))
  else if c = '!' then keyable Scan.tag
  else if c = '|' ∧ !l.inFlow then block false
  else if c = '>' ∧ !l.inFlow then block true
  else if c = '\'' ∨ c = '"' then
    keyable (do return .scalar (String.ofList (← quotedScalar)) false)
  else if startsPlain l.inFlow c next then plain
  else
    fail (some "while scanning for the next token") none
      ("found character " ++ Scan.shown (some c) ++ " that cannot start any token")

/-- Read up to the end of the next token; is the text at its end? -/
def next : Lexing Bool := do
  skipToToken ((← get).cursor.rest.length + 1)
  dropStale
  unwind (← mark).column
  match (← get).cursor.rest with
  | [] =>
    unwind (-1)
    dropPending
    return true
  | c :: rest =>
    token c rest.head?
    dropStale
    return false

/-- The tokens that can be had although those behind them are not known yet. -/
def settled (l : Lexer) : Nat :=
  (l.pending.map fun e => e.2.index).foldl min l.tokens.size

/-- Read all tokens: the lexer at the end of the text, or with what can be had before a fault. -/
def run : Nat → Lexer → Lexer × Option Error
  | 0, l => (l, none)
  | fuel + 1, l =>
    match next.run l with
    | .ok (true, l) => (l, none)
    | .ok (false, l) => run fuel l
    | .error e => ({ l with tokens := l.tokens.take l.settled }, some e)

/-- The tokens with those for keys put in front of the tokens that start them; the marks come in the
order of their places. -/
def withKeys (index : Nat) : List KeyMark → List PlacedToken → List PlacedToken
  | _, [] => []
  | [], ts => ts
  | m :: marks, t :: ts =>
    if m.index = index then
      let started := if m.startsMapping then [Token.blockMappingStart, Token.key] else [Token.key]
      started.map (fun s => ⟨s, m.mark, m.mark⟩) ++ t :: withKeys (index + 1) marks ts
    else t :: withKeys (index + 1) (m :: marks) ts

end Lexer

/-- The tokens of a text, and where it ends or what is wrong behind them. -/
structure Tokens where
  tokens : List PlacedToken
  ending : Except Error Mark

def Tokens.ofText (cs : List Char) : Tokens :=
  match cs.findIdx? (!isAllowed ·) with
  | some i => ⟨[], .error (.character (cs.getD i ' ') i)⟩
  | none =>
    let p := Cursor.ofText cs
    let p := if cs.head? = some '\uFEFF' then p.step else p
    let (l, fault) := Lexer.run (cs.length + 1) { cursor := p }
    ⟨Lexer.withKeys 0 (l.marks.mergeSort fun a b => a.index ≤ b.index) l.tokens.toList,
      match fault with
      | some e => .error e
      | none => .ok l.cursor.mark⟩

end Sheetflow.Yaml
