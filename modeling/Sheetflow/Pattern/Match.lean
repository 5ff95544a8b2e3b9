import Sheetflow.Pattern.Basic

/-!
# Matching by backtracking

`Node.run n at k` matches `n` from a position on and hands every position it can reach to the
continuation `k`, in order of preference, until one succeeds. Choice tries its alternatives in turn,
a greedy repetition tries another round before the continuation and a lazy one after it; what is
matched atomically is never reconsidered. An optional round of a repetition has to start elsewhere than
the optional round before it, which bounds the number of rounds by the length of the text.
-/

namespace Sheetflow.Pattern

/-- A position in a text with the texts of the groups matched so far, the latest first. -/
structure Cursor where
  position : Nat
  before : List Char
  rest : List Char
  groups : List (Nat × List Char)

namespace Cursor

def start (text : List Char) : Cursor := ⟨0, [], text, []⟩

/-- One character further. -/
def next? (s : Cursor) : Option (Char × Cursor) :=
  match s.rest with
  | [] => none
  | c :: cs => some (c, ⟨s.position + 1, c :: s.before, cs, s.groups⟩)

/-- `n` characters back. -/
def back? (s : Cursor) : Nat → Option Cursor
  | 0 => some s
  | n + 1 =>
    match s.before with
    | [] => none
    | c :: cs => back? ⟨s.position - 1, cs, c :: s.rest, s.groups⟩ n

def group? (s : Cursor) (i : Nat) : Option (List Char) := s.groups.lookup i

/-- Record that a group matched what lies between `s` and `t`. -/
def capture (i : Nat) (s t : Cursor) : Cursor :=
  { t with groups := (i, s.rest.take (t.position - s.position)) :: t.groups }

/-- Pass over the text `cs`, which may differ in case. -/
def pass? (casing : Casing) (s : Cursor) : List Char → Option Cursor
  | [] => some s
  | c :: cs =>
    match s.next? with
    | some (d, s) => if casing.apply c == casing.apply d then pass? casing s cs else none
    | none => none

end Cursor

def Anchor.holds (s : Cursor) : Anchor → Bool
  | .textStart => s.before.isEmpty
  | .lineStart => s.before.isEmpty || s.before.head? == some '\n'
  | .textEnd => s.rest.isEmpty
  | .lastLineEnd => s.rest.isEmpty || s.rest == ['\n']
  | .lineEnd => s.rest.isEmpty || s.rest.head? == some '\n'
  | .boundary ascii => !empty && before ascii != after ascii
  | .noBoundary ascii => !empty && before ascii == after ascii
where
  empty : Bool := s.before.isEmpty && s.rest.isEmpty
  before (ascii : Bool) : Bool := s.before.head?.any fun c => Category.word.holds ascii c
  after (ascii : Bool) : Bool := s.rest.head?.any fun c => Category.word.holds ascii c

/-- What remains to be matched behind a piece. -/
abbrev Continuation := Cursor → Option Cursor

/-- How a piece matches. -/
abbrev Matcher := Cursor → Continuation → Option Cursor

/-- Rounds of a greedy repetition; `count` are done and the last optional one started at `last`. -/
def greedyRounds (body : Matcher) (least : Nat) (most : Option Nat) (k : Continuation) :
    Nat → Nat → Option Nat → Cursor → Option Cursor
  | 0, _, _, _ => none
  | fuel + 1, count, last, s =>
    if count < least then body s (greedyRounds body least most k fuel (count + 1) last)
    else
      let again :=
        if most.all (count < ·) && last != some s.position then
          body s (greedyRounds body least most k fuel (count + 1) (some s.position))
        else none
      match again with
      | some r => some r
      | none => k s

def lazyRounds (body : Matcher) (least : Nat) (most : Option Nat) (k : Continuation) :
    Nat → Nat → Option Nat → Cursor → Option Cursor
  | 0, _, _, _ => none
  | fuel + 1, count, last, s =>
    if count < least then body s (lazyRounds body least most k fuel (count + 1) last)
    else match k s with
      | some r => some r
      | none =>
        if most.all (count < ·) && last != some s.position then
          body s (lazyRounds body least most k fuel (count + 1) (some s.position))
        else none

/-- Rounds each matched for good; the position behind the last of them. -/
def possessiveRounds (body : Matcher) (least : Nat) (most : Option Nat) :
    Nat → Nat → Cursor → Option Cursor
  | 0, _, _ => none
  | fuel + 1, count, s =>
    if count < least then
      match body s some with
      | some t => possessiveRounds body least most fuel (count + 1) t
      | none => none
    else if most.all (count < ·) then
      match body s some with
      | some t =>
        if t.position = s.position then some t
        else possessiveRounds body least most fuel (count + 1) t
      | none => some s
    else some s

def Node.run : Node → Matcher
  | .empty => fun s k => k s
  | .seq a b => fun s k => a.run s fun t => b.run t k
  | .alt a b => fun s k =>
    match a.run s k with
    | some r => some r
    | none => b.run s k
  | .char cls => fun s k =>
    match s.next? with
    | some (c, t) => if cls.contains c then k t else none
    | none => none
  | .any lineFeeds => fun s k =>
    match s.next? with
    | some (c, t) => if lineFeeds || c != '\n' then k t else none
    | none => none
  | .anchor a => fun s k => if a.holds s then k s else none
  | .group i body => fun s k => body.run s fun t => k (Cursor.capture i s t)
  | .repetition least most greed body => fun s k =>
    let fuel := least + s.rest.length + 3
    match greed with
    | .greedy => greedyRounds body.run least most k fuel 0 none s
    | .lazy => lazyRounds body.run least most k fuel 0 none s
    | .possessive => (possessiveRounds body.run least most fuel 0 s).bind k
  | .atomic body => fun s k => (body.run s some).bind k
  | .look behind negated body => fun s k =>
    let found := (if behind then s.back? body.width.least else some s).bind fun t => body.run t some
    match found with
    | some t => if negated then none else k { s with groups := t.groups }
    | none => if negated then k s else none
  | .backreference i _ casing => fun s k =>
    (s.group? i).bind fun text => (s.pass? casing text).bind k
  | .conditional i yes no => fun s k => if (s.group? i).isSome then yes.run s k else no.run s k

/-- Match somewhere from the cursor's position on. -/
def Node.searchFrom (n : Node) (position : Nat) (before : List Char) : List Char → Bool
  | [] => (n.run ⟨position, before, [], []⟩ some).isSome
  | c :: cs =>
    (n.run ⟨position, before, c :: cs, []⟩ some).isSome || n.searchFrom (position + 1) (c :: before) cs

/-- Does the pattern match somewhere in the text? -/
def Node.search (n : Node) (text : String) : Bool := n.searchFrom 0 [] text.toList

end Sheetflow.Pattern
