import Sheetflow.Pattern.Escape

/-!
# Flags written inside a pattern

`(?imsx)` sets flags for the whole pattern and has to stand at its start; `(?im-sx:…)` sets and clears
them for one group. The kinds of characters are those of ASCII under `a` and of Unicode under `u`.
-/

namespace Sheetflow.Pattern

def flagLetters : List Char := ['i', 'L', 'm', 's', 'x', 'a', 't', 'u']

def isTypeFlag (c : Char) : Bool := c == 'a' || c == 'u'

/-- Flags set and cleared for a group. -/
structure FlagChange where
  on : List Char
  off : List Char

/-- What flags in parentheses do. -/
inductive FlagEffect where
  | whole (on : List Char)
  | group (change : FlagChange)

def Flags.turnOn (f : Flags) (on : List Char) : Flags :=
  { ignoreCase := f.ignoreCase || on.contains 'i'
    multiline := f.multiline || on.contains 'm'
    dotAll := f.dotAll || on.contains 's'
    verbose := f.verbose || on.contains 'x'
    ascii := if on.contains 'u' then on.contains 'a' else f.ascii || on.contains 'a'
    template := f.template || on.contains 't' }

def Flags.turnOff (f : Flags) (off : List Char) : Flags :=
  { f with
    ignoreCase := f.ignoreCase && !off.contains 'i'
    multiline := f.multiline && !off.contains 'm'
    dotAll := f.dotAll && !off.contains 's'
    verbose := f.verbose && !off.contains 'x' }

def Flags.change (f : Flags) (c : FlagChange) : Flags := (f.turnOn c.on).turnOff c.off

/-- A symbol where a flag is expected is none. -/
def failFlag {α : Type} (sym : Symbol) (expected : String) : Reading α :=
  let letter := match sym with
    | .char c => Text.isLetter c
    | _ => false
  Reading.fail (if letter then .unknownFlag else .missing expected) sym.length

def flagOf? : Symbol → Option Char
  | .char c => if flagLetters.contains c then some c else none
  | _ => none

/-- Flags to set, the first of which is `c`, and the symbol behind them. -/
def flagsOn (c : Char) (on : List Char) : Nat → Reading (List Char × Char)
  | 0 => Reading.fail .unexpectedEnd 0
  | fuel + 1 => do
    if c = 'L' then Reading.fail .localeFlag 0
    else
      let on := on ++ [c]
      if isTypeFlag c && on.contains 'a' && on.contains 'u' then Reading.fail .incompatibleFlags 0
      else match ← Reading.take with
        | none => Reading.fail (.missing "-, : or )") 0
        | some (.char ')') => return (on, ')')
        | some (.char '-') => return (on, '-')
        | some (.char ':') => return (on, ':')
        | some sym =>
          match flagOf? sym with
          | some d => flagsOn d on fuel
          | none => failFlag sym "-, : or )"

/-- Flags to clear, the first of which is `c`. -/
def flagsOff (c : Char) (off : List Char) : Nat → Reading (List Char)
  | 0 => Reading.fail .unexpectedEnd 0
  | fuel + 1 => do
    if isTypeFlag c || c = 'L' then Reading.fail .cannotTurnOffType 0
    else
      let off := off ++ [c]
      match ← Reading.take with
      | none => Reading.fail (.missing ":") 0
      | some (.char ':') => return off
      | some sym =>
        match flagOf? sym with
        | some d => flagsOff d off fuel
        | none => failFlag sym ":"

/-- Flags in parentheses, of which the first symbol is `c`. -/
def flagEffect (c : Char) : Reading FlagEffect := do
  let fuel := (← get).symbols.length + 1
  let (on, stop) ← if c = '-' then pure ([], '-') else flagsOn c [] fuel
  if stop = ')' then return .whole on
  else if on.contains 't' then Reading.fail .cannotTurnOnGlobal 1
  else
    let off ← if stop = '-' then
        match ← Reading.take with
        | none => Reading.fail (.missing "flag") 0
        | some sym =>
          match flagOf? sym with
          | some d => flagsOff d [] fuel
          | none => failFlag sym "flag"
      else pure []
    if off.contains 't' then Reading.fail .cannotTurnOffGlobal 1
    else if on.any off.contains then Reading.fail .flagOnAndOff 1
    else return .group ⟨on, off⟩

end Sheetflow.Pattern
