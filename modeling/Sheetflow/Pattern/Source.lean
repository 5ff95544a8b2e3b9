import Sheetflow.Pattern.Error

/-!
# The text of a pattern as symbols

A pattern is read symbol by symbol: a character, or a backslash with the character behind it. A
backslash that ends the text is a fault as soon as it comes next.
-/

namespace Sheetflow.Pattern

inductive Symbol where
  | char (c : Char)
  | escape (c : Char)
  | dangling
deriving DecidableEq, Repr

def Symbol.text : Symbol → List Char
  | .char c => [c]
  | .escape c => ['\\', c]
  | .dangling => ['\\']

def Symbol.length (s : Symbol) : Nat := s.text.length

/-- Symbols with their positions, and the length of the whole text. -/
structure Source where
  symbols : List (Nat × Symbol)
  length : Nat

def symbolsFrom (position : Nat) : List Char → List (Nat × Symbol)
  | [] => []
  | '\\' :: c :: cs => (position, .escape c) :: symbolsFrom (position + 2) cs
  | ['\\'] => [(position, .dangling)]
  | c :: cs => (position, .char c) :: symbolsFrom (position + 1) cs

/-- Reading may fail at any symbol. -/
abbrev Reading := StateT Source (Except Error)

namespace Source

def tell (s : Source) : Nat := (s.symbols.head?.map (·.1)).getD s.length

def next? (s : Source) : Option Symbol := s.symbols.head?.map (·.2)

/-- Is the next symbol acceptable at all? -/
def check (s : Source) : Except Error Source :=
  match s.next? with
  | some .dangling => .error (.fault ⟨.danglingBackslash, some (s.length - 1)⟩)
  | _ => .ok s

def ofText (text : List Char) : Except Error Source := check ⟨symbolsFrom 0 text, text.length⟩

end Source

namespace Reading

def tell : Reading Nat := return (← get).tell

def peek : Reading (Option Symbol) := return (← get).next?

/-- Fail with a cause `back` characters before the next symbol. -/
def fail {α : Type} (cause : Cause) (back : Nat) : Reading α := do
  throw (.fault ⟨cause, some ((← tell) - back)⟩)

/-- The next symbol, if any, which is then passed. -/
def take : Reading (Option Symbol) := do
  let s ← get
  match s.symbols with
  | [] => return none
  | (_, sym) :: rest =>
    match Source.check { s with symbols := rest } with
    | .ok s => set s; return some sym
    | .error e => throw e

/-- Pass the next symbol if it is this character. -/
def accept (c : Char) : Reading Bool := do
  if (← peek) = some (.char c) then
    let _ ← take
    return true
  else return false

/-- Pass up to `n` characters of a class. -/
def takeWhile (p : Char → Bool) : Nat → Reading (List Char)
  | 0 => return []
  | n + 1 => do
    match ← peek with
    | some (.char c) =>
      if p c then
        let _ ← take
        return c :: (← takeWhile p n)
      else return []
    | _ => return []

/-- The text up to a terminator, which is passed; `what` it is the name of. -/
def takeUntil (terminator : Char) (what : String) (done : List Char) : Nat → Reading (List Char)
  | 0 => fail .unexpectedEnd 0
  | fuel + 1 => do
    match ← take with
    | none =>
      if done.isEmpty then fail (.missing what) 0
      else fail (.unterminatedName (String.singleton terminator)) done.length
    | some sym =>
      if sym = .char terminator then
        if done.isEmpty then fail (.missing what) 1 else return done
      else takeUntil terminator what (done ++ sym.text) fuel

def name (terminator : Char) (what : String) : Reading String := do
  return String.ofList (← takeUntil terminator what [] ((← get).symbols.length + 1))

end Reading

end Sheetflow.Pattern
