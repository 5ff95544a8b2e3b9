import Sheetflow.Text.Blank
import Sheetflow.Text.Case
import Sheetflow.Text.Letter

/-!
# Patterns

A pattern is a tree of pieces that match a text from a position on. Flags are resolved when the tree
is built: every class of characters knows whether case matters to it, every anchor whether it looks
at lines or at the whole text. `Node.width` bounds the number of characters a piece can match, which
a look behind needs to know where to start.
-/

namespace Sheetflow.Pattern

/-- Which characters differ only in case. -/
inductive Casing where
  | exact
  | asciiFold
  | fold
deriving DecidableEq, Repr

/-- Small letters with the same capital, beyond those that the lower-case mapping joins. -/
def smallVariants : List (Nat × List Nat) := [
  (0x69, [0x131]), (0x73, [0x17F]), (0xB5, [0x3BC]), (0x131, [0x69]), (0x17F, [0x73]),
  (0x345, [0x3B9, 0x1FBE]), (0x390, [0x1FD3]), (0x3B0, [0x1FE3]), (0x3B2, [0x3D0]),
  (0x3B5, [0x3F5]), (0x3B8, [0x3D1]), (0x3B9, [0x345, 0x1FBE]), (0x3BA, [0x3F0]), (0x3BC, [0xB5]),
  (0x3C0, [0x3D6]), (0x3C1, [0x3F1]), (0x3C2, [0x3C3]), (0x3C3, [0x3C2]), (0x3C6, [0x3D5]),
  (0x3D0, [0x3B2]), (0x3D1, [0x3B8]), (0x3D5, [0x3C6]), (0x3D6, [0x3C0]), (0x3F0, [0x3BA]),
  (0x3F1, [0x3C1]), (0x3F5, [0x3B5]), (0x432, [0x1C80]), (0x434, [0x1C81]), (0x43E, [0x1C82]),
  (0x441, [0x1C83]), (0x442, [0x1C84, 0x1C85]), (0x44A, [0x1C86]), (0x463, [0x1C87]),
  (0x1C80, [0x432]), (0x1C81, [0x434]), (0x1C82, [0x43E]), (0x1C83, [0x441]),
  (0x1C84, [0x442, 0x1C85]), (0x1C85, [0x442, 0x1C84]), (0x1C86, [0x44A]), (0x1C87, [0x463]),
  (0x1C88, [0xA64B]), (0x1E61, [0x1E9B]), (0x1E9B, [0x1E61]), (0x1FBE, [0x345, 0x3B9]),
  (0x1FD3, [0x390]), (0x1FE3, [0x3B0]), (0xA64B, [0x1C88]), (0xFB05, [0xFB06]),
  (0xFB06, [0xFB05])]

namespace Casing

/-- The form of a character in which case is ignored. -/
def apply : Casing → Char → Char
  | .exact, c => c
  | .asciiFold, c => if c.toNat < 128 then c.toLower else c
  | .fold, c => Text.lowerChar c

/-- The folded characters that stand for the same letter as the folded character `c`. -/
def variants : Casing → Char → List Char
  | .fold, c => c :: ((smallVariants.lookup c.toNat).getD []).map Char.ofNat
  | _, c => [c]

/-- The code points whose folded form is the folded character `c`. -/
def sources : Casing → Char → List Nat
  | .exact, c => [c.toNat]
  | .asciiFold, c => [c.toNat, c.toUpper.toNat]
  | .fold, c =>
    let n := c.toNat
    let capital := if n < 128 then [c.toUpper.toNat] else []
    n :: capital ++ Text.lowerRuns.filterMap fun r =>
      let m := ((n : Int) - r.shift).toNat
      if r.contains m then some m else none

end Casing

/-- Kinds of characters with a name of their own. -/
inductive Category where
  | digit
  | space
  | word
deriving DecidableEq, Repr

def Category.holds (ascii : Bool) (c : Char) : Category → Bool
  | .digit => if ascii then Text.isAsciiDigit c else Text.isDigit c
  | .space => if ascii then c == ' ' || (9 ≤ c.toNat && c.toNat ≤ 13) else Text.isBlank c
  | .word =>
    if ascii then c == '_' || Text.isAsciiLetter c || Text.isAsciiDigit c else Text.isWordChar c

/-- A member of a class of characters; characters are given by code points. -/
inductive ClassItem where
  | single (n : Nat)
  | range (lo hi : Nat)
  | category (kind : Category) (ascii negated : Bool)
deriving DecidableEq, Repr

/-- A class of characters, or what is outside it. -/
structure CharClass where
  negated : Bool
  items : List ClassItem
  casing : Casing
deriving DecidableEq, Repr

/-- Does an item hold a character whose folded form is `c`? -/
def ClassItem.contains (casing : Casing) (c : Char) : ClassItem → Bool
  | .single n => (casing.variants c).any fun v => (casing.sources v).contains n
  | .range lo hi =>
    (casing.variants c).any fun v => (casing.sources v).any fun n => lo ≤ n && n ≤ hi
  | .category kind ascii negated => kind.holds ascii c != negated

def CharClass.contains (cls : CharClass) (c : Char) : Bool :=
  cls.items.any (·.contains cls.casing (cls.casing.apply c)) != cls.negated

/-- Conditions on a position. -/
inductive Anchor where
  | textStart
  | lineStart
  | textEnd
  /-- The end, or a line feed that is the last character. -/
  | lastLineEnd
  | lineEnd
  | boundary (ascii : Bool)
  | noBoundary (ascii : Bool)
deriving DecidableEq, Repr

/-- How often a repetition tries to repeat. -/
inductive Greed where
  | greedy
  | lazy
  | possessive
deriving DecidableEq, Repr

/-- Bounds on the number of characters matched. -/
structure Width where
  least : Nat
  most : Nat
deriving DecidableEq, Repr

/-- Beyond this, widths are not told apart. -/
def widthLimit : Nat := Nat.pow 2 64

namespace Width

def none : Width := ⟨0, 0⟩

def cap (w : Width) : Width := ⟨min w.least widthLimit, min w.most widthLimit⟩

def plus (v w : Width) : Width := cap ⟨v.least + w.least, v.most + w.most⟩

def either (v w : Width) : Width := ⟨min v.least w.least, max v.most w.most⟩

def times (w : Width) (least : Nat) (most : Option Nat) : Width :=
  cap ⟨w.least * least, match most with
    | some n => w.most * n
    | Option.none => if w.most = 0 then 0 else widthLimit⟩

end Width

inductive Node where
  | empty
  | seq (a b : Node)
  | alt (a b : Node)
  | char (cls : CharClass)
  | any (lineFeeds : Bool)
  | anchor (a : Anchor)
  | group (index : Nat) (body : Node)
  | repetition (least : Nat) (most : Option Nat) (greed : Greed) (body : Node)
  | atomic (body : Node)
  | look (behind negated : Bool) (body : Node)
  /-- The text that a group matched; its width was known when the group was closed. -/
  | backreference (index : Nat) (width : Width) (casing : Casing)
  | conditional (index : Nat) (yes no : Node)
deriving Repr

namespace Node

def width : Node → Width
  | .empty => .none
  | .seq a b => a.width.plus b.width
  | .alt a b => a.width.either b.width
  | .char _ => ⟨1, 1⟩
  | .any _ => ⟨1, 1⟩
  | .anchor _ => .none
  | .group _ body => body.width
  | .repetition least most _ body => body.width.times least most
  | .atomic body => body.width
  | .look _ _ _ => .none
  | .backreference _ w _ => w
  | .conditional _ yes no => yes.width.either no.width

def ofList : List Node → Node
  | [] => .empty
  | [n] => n
  | n :: ns => .seq n (ofList ns)

/-- The alternatives in order; without any, the empty piece. -/
def ofAlternatives : List Node → Node
  | [] => .empty
  | [n] => n
  | n :: ns => .alt n (ofAlternatives ns)

end Node

end Sheetflow.Pattern
