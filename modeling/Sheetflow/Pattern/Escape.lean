import Sheetflow.Number.Numeral
import Sheetflow.Pattern.Basic
import Sheetflow.Pattern.Source
import Sheetflow.Text.CharacterName

/-!
# Escapes and classes of characters

What a backslash and the character behind it stand for, outside and inside a class in brackets, and
the reading of such classes.
-/

namespace Sheetflow.Pattern

/-- The flags in force at a place of the pattern. -/
structure Flags where
  ignoreCase : Bool
  multiline : Bool
  dotAll : Bool
  verbose : Bool
  ascii : Bool
  template : Bool
deriving DecidableEq, Repr

/-- Case is ignored from the outset. -/
def Flags.initial : Flags := ⟨true, false, false, false, false, false⟩

def Flags.casing (f : Flags) : Casing :=
  if f.ignoreCase then (if f.ascii then .asciiFold else .fold) else .exact

/-- Characters that stand for a control when escaped. -/
def controlOf? : Char → Option Nat
  | 'a' => some 7
  | 'b' => some 8
  | 'f' => some 12
  | 'n' => some 10
  | 'r' => some 13
  | 't' => some 9
  | 'v' => some 11
  | '\\' => some 92
  | _ => none

def categoryOf? (ascii : Bool) : Char → Option ClassItem
  | 'd' => some (.category .digit ascii false)
  | 'D' => some (.category .digit ascii true)
  | 's' => some (.category .space ascii false)
  | 'S' => some (.category .space ascii true)
  | 'w' => some (.category .word ascii false)
  | 'W' => some (.category .word ascii true)
  | _ => none

def anchorOf? (ascii : Bool) : Char → Option Anchor
  | 'A' => some .textStart
  | 'b' => some (.boundary ascii)
  | 'B' => some (.noBoundary ascii)
  | 'Z' => some .textEnd
  | _ => none

def isOctal (c : Char) : Bool := '0' ≤ c && c ≤ '7'

def hexValue? (c : Char) : Option Nat :=
  if '0' ≤ c && c ≤ '9' then some (c.toNat - 48)
  else if 'a' ≤ c && c ≤ 'f' then some (c.toNat - 87)
  else if 'A' ≤ c && c ≤ 'F' then some (c.toNat - 55)
  else none

def isHex (c : Char) : Bool := (hexValue? c).isSome

def valueIn (base : Nat) (cs : List Char) : Nat :=
  cs.foldl (fun n c => base * n + (hexValue? c).getD 0) 0

/-- The text of an escape with the characters read behind it. -/
def escapeText (c : Char) (more : List Char) : String := String.ofList ('\\' :: c :: more)

def failEscape {α : Type} (cause : String → Cause) (c : Char) (more : List Char) : Reading α :=
  Reading.fail (cause (escapeText c more)) (2 + more.length)

/-- The code point given by exactly `n` hexadecimal digits. -/
def hexEscape (c : Char) (n : Nat) : Reading Nat := do
  let ds ← Reading.takeWhile isHex n
  if ds.length ≠ n then failEscape .incompleteEscape c ds
  else
    let v := valueIn 16 ds
    if 0x10FFFF < v then failEscape .badEscape c ds else return v

/-- The code point of a character given by name in braces. -/
def namedEscape : Reading Nat := do
  if !(← Reading.accept '{') then Reading.fail (.missing (String.singleton '{')) 0
  else
    let name ← Reading.name '}' "character name"
    match Text.characterNamed? name with
    | some c => return c.toNat
    | none => Reading.fail (.undefinedCharacter name) (name.length + 4)

/-- Escapes that mean the same inside and outside of classes. -/
def codeEscape? (c : Char) : Option (Reading Nat) :=
  match c with
  | 'x' => some (hexEscape c 2)
  | 'u' => some (hexEscape c 4)
  | 'U' => some (hexEscape c 8)
  | 'N' => some namedEscape
  | _ => none

/-- The meaning of an escape inside a class. -/
def classEscape (ascii : Bool) (c : Char) : Reading ClassItem := do
  match controlOf? c, categoryOf? ascii c, codeEscape? c with
  | some n, _, _ => return .single n
  | _, some item, _ => return item
  | _, _, some code => return .single (← code)
  | none, none, none =>
    if isOctal c then
      let ds ← Reading.takeWhile isOctal 2
      let v := valueIn 8 (c :: ds)
      if 0o377 < v then failEscape .octalTooLarge c ds else return .single v
    else if Text.isAsciiDigit c || Text.isAsciiLetter c then failEscape .badEscape c []
    else return .single c.toNat

/-- One end of a range, or a whole item. -/
def classItem (ascii : Bool) : Symbol → Reading ClassItem
  | .char c => return .single c.toNat
  | .escape c => classEscape ascii c
  | .dangling => return .single 92

/-- The items of a class, whose bracket stands at position `start`, and whether the class is that of
a single character. -/
def classItems (ascii : Bool) (start : Nat) (items : List ClassItem) : Nat → Reading (List ClassItem)
  | 0 => Reading.fail .unterminatedSet 0
  | fuel + 1 => do
    let unterminated {α : Type} : Reading α := do
      Reading.fail .unterminatedSet ((← Reading.tell) - start)
    match ← Reading.take with
    | none => unterminated
    | some lo =>
      if lo = .char ']' && !items.isEmpty then return items
      else
        let first ← classItem ascii lo
        if ← Reading.accept '-' then
          match ← Reading.take with
          | none => unterminated
          | some hi =>
            if hi = .char ']' then return items ++ [first, .single '-'.toNat]
            else
              let second ← classItem ascii hi
              let bad {α : Type} : Reading α :=
                Reading.fail (.badRange (String.ofList lo.text) (String.ofList hi.text))
                  (lo.length + 1 + hi.length)
              match first, second with
              | .single a, .single b =>
                if b < a then bad else classItems ascii start (items ++ [.range a b]) fuel
              | _, _ => bad
        else classItems ascii start (items ++ [first]) fuel

/-- A class of which the opening bracket has been passed. -/
def charClass (flags : Flags) : Reading CharClass := do
  let start := (← Reading.tell) - 1
  let negated ← Reading.accept '^'
  let items ← classItems flags.ascii start [] ((← get).symbols.length + 1)
  return ⟨negated, items, flags.casing⟩

/-- A single character as a class. -/
def literal (flags : Flags) (n : Nat) : Node := .char ⟨false, [.single n], flags.casing⟩

end Sheetflow.Pattern
