import Sheetflow.Document.Yaml.Tag
import Sheetflow.Document.Yaml.Token.Lexer

/-!
# YAML nodes

A document is a tree of tagged nodes, each of which knows where it starts. A node that was given a name
stands wherever it is referred to; a name can only be referred to behind the place where it was given.

A node that refers to itself is a tree without an end. Of this tree as much is composed as is ever
looked at: names stand for what they stood for when the document was composed the time before.
-/

namespace Sheetflow.Yaml

inductive Node where
  | scalar (mark : Mark) (tag : Tag) (text : String)
  | sequence (mark : Mark) (tag : Tag) (items : List Node)
  | mapping (mark : Mark) (tag : Tag) (entries : List (Node × Node))

namespace Node

def mark : Node → Mark
  | .scalar m _ _ => m
  | .sequence m _ _ => m
  | .mapping m _ _ => m

def tag : Node → Tag
  | .scalar _ t _ => t
  | .sequence _ t _ => t
  | .mapping _ t _ => t

/-- What a node is called. -/
def form : Node → String
  | .scalar _ _ _ => "scalar"
  | .sequence _ _ _ => "sequence"
  | .mapping _ _ _ => "mapping"

/-- The node for what was left out at a place. -/
def nothing (m : Mark) : Node := .scalar m .null ""

end Node

/-- What has not been read yet, and the names known so far. -/
structure Composing where
  rest : Tokens
  /-- What the handles of tags stand for. -/
  handles : List (String × String)
  /-- Names that were given, also to nodes that are not complete, and where. -/
  given : List (String × Mark)
  anchors : List (String × Node)
  /-- What names stand for inside of their own nodes. -/
  earlier : List (String × Node)

abbrev Compose := StateT Composing (Except Error)

/-- The name and the tag in front of a node, and where they start. -/
structure Properties where
  anchor : Option String
  tag : Option String
  start : Option Mark

namespace Compose

/-- The next token. What is wrong with the text comes up where a token is wanted. -/
def next : Compose (Option PlacedToken) := do
  let s ← get
  match s.rest.tokens, s.rest.ending with
  | t :: _, _ => return some t
  | [], .ok _ => return none
  | [], .error e => throw e

def peek : Compose (Option Token) := return (← next).map PlacedToken.token

/-- Where the next token starts. -/
def mark : Compose Mark := do
  let s ← get
  match s.rest.tokens, s.rest.ending with
  | t :: _, _ => return t.start
  | [], .ok m => return m
  | [], .error e => throw e

def skip : Compose Unit :=
  modify fun s => { s with rest := { s.rest with tokens := s.rest.tokens.drop 1 } }

/-- Pass a token, if it comes next: where it stopped. -/
def pass? (t : Token) : Compose (Option Mark) := do
  match ← next with
  | some p =>
    if p.token = t then
      skip
      return some p.stop
    else return none
  | none => return none

/-- Pass a token, if it comes next; did it? -/
def pass (t : Token) : Compose Bool := return (← pass? t).isSome

def isNext (ts : List Token) : Compose Bool := return (← peek).any ts.contains

def failAt {α : Type} (context : Option String) (start : Option Mark) (problem : String) (m : Mark) :
    Compose α :=
  throw (.malformed ⟨context, start, problem, m⟩)

/-- The name of the next token in quotes. -/
def shownNext : Compose String := do
  return Text.quoted (match ← peek with
    | some t => t.name
    | none => "<stream end>")

/-- Fail because of the next token, in what was started at a place. -/
def unexpected {α : Type} (context : Option String) (start : Option Mark) (problem : String) :
    Compose α := do
  failAt context start (problem ++ " " ++ (← shownNext)) (← mark)

/-- The tag that is written as a handle and the rest. -/
def resolve (start : Mark) (handle : Option String) (suffix : String) (m : Mark) : Compose String := do
  match handle with
  | none => return suffix
  | some h =>
    match (← get).handles.lookup h with
    | some uri => return uri ++ suffix
    | none =>
      failAt (some "while parsing a node") (some start) ("found undefined tag handle " ++ Text.quoted h) m

/-- A name and a tag in front of a node, in either order. -/
def properties : Compose Properties := do
  match ← next with
  | some ⟨.anchor name, start, _⟩ =>
    skip
    match ← next with
    | some ⟨.tag handle suffix, m, _⟩ =>
      skip
      return ⟨some name, some (← resolve start handle suffix m), some start⟩
    | _ => return ⟨some name, none, some start⟩
  | some ⟨.tag handle suffix, start, _⟩ =>
    skip
    match ← next with
    | some ⟨.anchor name, _, _⟩ =>
      skip
      return ⟨some name, some (← resolve start handle suffix start), some start⟩
    | _ => return ⟨none, some (← resolve start handle suffix start), some start⟩
  | _ => return ⟨none, none, none⟩

/-- The tag of a node, where the exclamation mark alone stands for that of its form. -/
def tagOr (form : Tag) : Option String → Tag
  | none => form
  | some s => if s = "!" then form else Tag.ofUri s

/-- Note that a name is given at a place; each name is given once. -/
def give (name : Option String) (m : Mark) : Compose Unit := do
  match name with
  | none => return
  | some a =>
    let s ← get
    match s.given.lookup a with
    | some first =>
      failAt (some ("found duplicate anchor " ++ Text.quoted a ++ "; first occurrence")) (some first)
        "second occurrence" m
    | none => set { s with given := (a, m) :: s.given }

/-- Note which node a name stands for. -/
def keep (name : Option String) (n : Node) : Compose Node := do
  match name with
  | none => return n
  | some a =>
    modify fun s => { s with anchors := (a, n) :: s.anchors }
    return n

/-- The node that a name stands for. -/
def referred (a : String) (m : Mark) : Compose Node := do
  let s ← get
  match s.anchors.lookup a with
  | some n => return n
  | none =>
    if (s.given.lookup a).isSome then return (s.earlier.lookup a).getD (.nothing m)
    else failAt none none ("found undefined alias " ++ Text.quoted a) m

/-- The scalar with these properties. -/
def scalar (p : Properties) (m : Mark) (text : String) (plain : Bool) : Compose Node := do
  let form := if (plain && p.tag.isNone) || p.tag == some "!" then Tag.ofPlain text else .str
  give p.anchor m
  keep p.anchor (.scalar m (tagOr form p.tag) text)

/-- A node of which there is nothing but its name or its tag. -/
def bare (p : Properties) (m : Mark) (inBlock : Bool) : Compose Node := do
  if p.anchor.isNone && p.tag.isNone then
    unexpected (some ("while parsing a " ++ (if inBlock then "block" else "flow") ++ " node")) (some m)
      "expected the node content, but found"
  else
    give p.anchor m
    keep p.anchor (.scalar m (tagOr .null p.tag) "")

/-- Parts between brackets are separated: before every part but the first comes a comma. -/
def separated (first : Bool) (context : String) (start : Mark) (problem : String) : Compose Unit := do
  if !first then
    if !(← pass .flowEntry) then unexpected (some context) (some start) problem

/-- The room inside of one more collection. -/
def enter : Nat → Compose Nat
  | 0 => throw .tooDeep
  | room + 1 => return room

mutual

/-- A node that has room for that many collections in each other. In a block there may be blocks, and
`loose` says whether a sequence may stand at the indentation of the map around it. -/
def node (inBlock loose : Bool) (room : Nat) : Nat → Compose Node
  | 0 => do bare ⟨none, none, none⟩ (← mark) inBlock
  | fuel + 1 => do
    match ← next with
    | some ⟨.reference a, m, _⟩ =>
      skip
      referred a m
    | _ =>
      let p ← properties
      let here ← mark
      let m := p.start.getD here
      match ← peek with
      | some (.scalar text plain) => skip; scalar p m text plain
      | some .flowSequenceStart =>
        give p.anchor m
        let inside ← enter room
        skip
        keep p.anchor (.sequence m (tagOr .seq p.tag) (← flowItems inside here true fuel))
      | some .flowMappingStart =>
        give p.anchor m
        let inside ← enter room
        skip
        keep p.anchor (.mapping m (tagOr .map p.tag) (← flowEntries inside here true fuel))
      | some .blockSequenceStart =>
        if inBlock then
          give p.anchor m
          let inside ← enter room
          skip
          keep p.anchor (.sequence m (tagOr .seq p.tag) (← blockItems inside here fuel))
        else bare p m inBlock
      | some .blockMappingStart =>
        if inBlock then
          give p.anchor m
          let inside ← enter room
          skip
          keep p.anchor (.mapping m (tagOr .map p.tag) (← blockEntries inside here fuel))
        else bare p m inBlock
      | some .blockEntry =>
        if loose then
          give p.anchor m
          let inside ← enter room
          keep p.anchor (.sequence m (tagOr .seq p.tag) (← looseItems inside fuel))
        else bare p m inBlock
      | _ => bare p m inBlock
termination_by structural fuel => fuel

/-- A node, or nothing where one of these tokens comes next; `m` is where nothing would be. -/
def nodeUnless (ts : List Token) (m : Mark) (inBlock loose : Bool) (room : Nat) : Nat → Compose Node
  | 0 => return .nothing m
  | fuel + 1 => do
    if ← isNext ts then return .nothing m else node inBlock loose room fuel
termination_by structural fuel => fuel

/-- A node behind a colon, or nothing if there is none or one of these tokens follows it. -/
def valueUnless (ts : List Token) (inBlock : Bool) (room : Nat) : Nat → Compose Node
  | 0 => return .nothing (← mark)
  | fuel + 1 => do
    match ← pass? .value with
    | some m => nodeUnless ts m inBlock inBlock room fuel
    | none => return .nothing (← mark)
termination_by structural fuel => fuel

/-- The items of a block sequence. -/
def blockItems (room : Nat) (start : Mark) : Nat → Compose (List Node)
  | 0 => return []
  | fuel + 1 => do
    match ← pass? .blockEntry with
    | some m =>
      let n ← nodeUnless [.blockEntry, .blockEnd] m true false room fuel
      return n :: (← blockItems room start fuel)
    | none =>
      if ← pass .blockEnd then return []
      else
        unexpected (some "while parsing a block collection") (some start)
          "expected <block end>, but found"
termination_by structural fuel => fuel

/-- The items of a sequence at the indentation of the map around it. -/
def looseItems (room : Nat) : Nat → Compose (List Node)
  | 0 => return []
  | fuel + 1 => do
    match ← pass? .blockEntry with
    | some m =>
      let n ← nodeUnless [.blockEntry, .key, .value, .blockEnd] m true false room fuel
      return n :: (← looseItems room fuel)
    | none => return []
termination_by structural fuel => fuel

/-- The entries of a block mapping. -/
def blockEntries (room : Nat) (start : Mark) : Nat → Compose (List (Node × Node))
  | 0 => return []
  | fuel + 1 => do
    match ← pass? .key with
    | some m =>
      let k ← nodeUnless [.key, .value, .blockEnd] m true true room fuel
      let v ← valueUnless [.key, .value, .blockEnd] true room fuel
      return (k, v) :: (← blockEntries room start fuel)
    | none =>
      if ← pass .blockEnd then return []
      else
        unexpected (some "while parsing a block mapping") (some start) "expected <block end>, but found"
termination_by structural fuel => fuel

/-- The items of a sequence in brackets; a single entry of a map may be an item. -/
def flowItems (room : Nat) (start : Mark) (first : Bool) : Nat → Compose (List Node)
  | 0 => return []
  | fuel + 1 => do
    if ← pass .flowSequenceEnd then return []
    separated first "while parsing a flow sequence" start "expected ',' or ']', but got"
    let here ← mark
    match ← pass? .key with
    | some m =>
      let inside ← enter room
      let k ← nodeUnless [.value, .flowEntry, .flowSequenceEnd] m false false inside fuel
      let v ← valueUnless [.flowEntry, .flowSequenceEnd] false inside fuel
      return .mapping here .map [(k, v)] :: (← flowItems room start false fuel)
    | none =>
      if ← pass .flowSequenceEnd then return []
      let n ← node false false room fuel
      return n :: (← flowItems room start false fuel)
termination_by structural fuel => fuel

/-- The entries of a map in braces. -/
def flowEntries (room : Nat) (start : Mark) (first : Bool) : Nat → Compose (List (Node × Node))
  | 0 => return []
  | fuel + 1 => do
    if ← pass .flowMappingEnd then return []
    separated first "while parsing a flow mapping" start "expected ',' or '\x7d', but got"
    match ← pass? .key with
    | some m =>
      let k ← nodeUnless [.value, .flowEntry, .flowMappingEnd] m false false room fuel
      let v ← valueUnless [.flowEntry, .flowMappingEnd] false room fuel
      return (k, v) :: (← flowEntries room start false fuel)
    | none =>
      if ← pass .flowMappingEnd then return []
      let k ← node false false room fuel
      let v := Node.nothing (← mark)
      return (k, v) :: (← flowEntries room start false fuel)
termination_by structural fuel => fuel

end

/-- The directives in front of a document: the version is given once and starts with one, each handle
once. -/
def directives (versioned : Bool) (handles : List (String × String)) :
    Nat → Compose (List (String × String))
  | 0 => return handles
  | fuel + 1 => do
    match ← next with
    | some ⟨.directive (.version major _), m, _⟩ =>
      skip
      if versioned then failAt none none "found duplicate YAML directive" m
      if major ≠ 1 then
        failAt none none "found incompatible YAML document (version 1.* is required)" m
      directives true handles fuel
    | some ⟨.directive (.tag handle uri), m, _⟩ =>
      skip
      if (handles.lookup handle).isSome then
        failAt none none ("duplicate tag handle " ++ Text.quoted handle) m
      directives versioned ((handle, uri) :: handles) fuel
    | some ⟨.directive .other, _, _⟩ =>
      skip
      directives versioned handles fuel
    | _ => return handles

/-- The handles that are known without being introduced. -/
def usualHandles : List (String × String) := [("!", "!"), ("!!", Tag.start)]

def skipEnds : Nat → Compose Unit
  | 0 => return
  | fuel + 1 => do
    if ← pass .documentEnd then skipEnds fuel

def isDirective : Token → Bool
  | .directive _ => true
  | _ => false

/-- The head of a document that is marked as one. -/
def head (fuel : Nat) : Compose Unit := do
  let handles ← directives false [] fuel
  modify fun s => { s with handles := handles ++ usualHandles }
  if !(← pass .documentStart) then unexpected none none "expected '<document start>', but found"

/-- Nothing may follow the document `n`. -/
def finish (n : Node) (fuel : Nat) : Compose (Option Node) := do
  skipEnds fuel
  if (← peek).isNone then return some n
  else
    let m ← mark
    head fuel
    failAt (some "expected a single document in the stream") (some n.mark) "but found another document" m

/-- The only document of a text, if there is one at all. -/
def document (room : Nat) : Compose (Option Node) := do
  let fuel := 5 * (← get).rest.tokens.length + 10
  match ← peek with
  | none => return none
  | some t =>
    if t = .documentStart ∨ isDirective t then
      head fuel
      let m ← mark
      let isBare := (← peek).all fun t => t == .documentStart || t == .documentEnd || isDirective t
      let n ← if isBare then pure (Node.nothing m) else node true false room fuel
      finish n fuel
    else
      let n ← node true false room fuel
      finish n fuel

/-- The document, and what its names stand for, where inside of their own nodes they stand for what they
did `earlier`. -/
def composed (room : Nat) (ts : Tokens) (earlier : List (String × Node)) :
    Except Error (Option Node × List (String × Node)) :=
  ((document room).run ⟨ts, usualHandles, [], [], earlier⟩).map fun (n, s) => (n, s.anchors)

/-- What the names stand for when the document has been composed that often, at first for nothing. -/
def names (room : Nat) (ts : Tokens) : Nat → Except Error (List (String × Node))
  | 0 => .ok []
  | times + 1 => do return (← composed room ts (← names room ts times)).2

end Compose

/-- A value is looked at no deeper than this. -/
def Node.deepest : Nat := 8

/-- The document that tokens make up, if there is one; there is room for that many collections in each
other. -/
def Node.ofTokens (room : Nat) (ts : Tokens) : Except Error (Option Node) := do
  return (← Compose.composed room ts (← Compose.names room ts deepest)).1

end Sheetflow.Yaml
