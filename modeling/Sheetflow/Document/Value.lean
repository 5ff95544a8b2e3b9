import Sheetflow.Number.Decimal
import Sheetflow.Text.Quoted
import Sheetflow.Text.Utf8
import Sheetflow.Time.Calendar

/-!
# Values of documents

A document decodes to a tree of scalars, lists, sets and maps. Maps and sets keep the order in which
they are written and have each key once. Keys are texts in one notation of documents and any scalars
in the other, which is also the one with sets.
-/

namespace Sheetflow

inductive Value where
  | null
  | bool (b : Bool)
  | int (i : Int)
  | float (x : Double)
  | str (s : String)
  | bytes (bs : Bytes)
  | date (d : Date)
  | dateTime (t : DateTime)
  | list (xs : List Value)
  | set (xs : List Value)
  | map (entries : List (Value × Value))
deriving Inhabited

namespace Value

/-- The value of a scalar that counts as a number. -/
def number? : Value → Option (Int ⊕ Double)
  | .bool b => some (.inl (if b then 1 else 0))
  | .int i => some (.inl i)
  | .float x => some (match x.toInt? with
    | some i => .inl i
    | none => .inr x)
  | _ => none

/-- Do two scalars stand for the same key? Numbers and truth values are compared by value. -/
def sameKey (a b : Value) : Bool :=
  match a.number?, b.number? with
  | some (.inl i), some (.inl j) => i == j
  | some (.inr x), some (.inr y) => x.same y
  | some _, _ => false
  | _, some _ => false
  | none, none =>
    match a, b with
    | .null, .null => true
    | .str s, .str t => s == t
    | .bytes s, .bytes t => s == t
    | .date d, .date e => d == e
    | .dateTime t, .dateTime u =>
      t.offset.isSome == u.offset.isSome && t.toInstant == u.toInstant
    | _, _ => false

/-- Set an entry: the first key stays, the last value counts. -/
def setEntry (entries : List (Value × Value)) (key value : Value) : List (Value × Value) :=
  if entries.any (·.1.sameKey key) then
    entries.map fun e => if e.1.sameKey key then (e.1, value) else e
  else entries ++ [(key, value)]

def isKey (name : String) : Value → Bool
  | .str s => s == name
  | _ => false

/-- The entry of that name. -/
def entry? (name : String) (entries : List (Value × Value)) : Option Value :=
  (entries.find? (·.1.isKey name)).map (·.2)

/-- The value under a name, if this is a map that has it. -/
def get? (v : Value) (name : String) : Option Value :=
  match v with
  | .map entries => entry? name entries
  | _ => none

/-- A map with these names. -/
def record (entries : List (String × Value)) : Value := .map (entries.map fun e => (.str e.1, e.2))

def isMap : Value → Bool
  | .map _ => true
  | _ => false

/-- The members of a list or a set. -/
def items? : Value → Option (List Value)
  | .list xs => some xs
  | .set xs => some xs
  | _ => none

/-- A single byte inside a shown string of bytes. -/
def shownByte (quote : Char) (b : UInt8) : List Char :=
  let c := Char.ofNat b.toNat
  if c = quote || c = '\\' then ['\\', c]
  else if c = '\t' then ['\\', 't']
  else if c = '\n' then ['\\', 'n']
  else if c = '\r' then ['\\', 'r']
  else if 32 ≤ b.toNat && b.toNat < 127 then [c]
  else '\\' :: 'x' :: Text.hex 2 b.toNat

def shownBytes (bs : Bytes) : String :=
  let quote := if bs.contains 39 && !bs.contains 34 then '"' else '\''
  String.ofList ('b' :: quote :: bs.flatMap (shownByte quote) ++ [quote])

def shownDate (d : Date) : String :=
  "datetime.date(" ++ String.intercalate ", " [toString d.year, toString d.month, toString d.day] ++ ")"

mutual

/-- A value as it is shown inside a message. -/
def shown : Value → String
  | .null => "None"
  | .bool b => if b then "True" else "False"
  | .int i => toString i
  | .float x => x.text
  | .str s => Text.quoted s
  | .bytes bs => shownBytes bs
  | .date d => shownDate d
  | .dateTime t => t.text
  | .list xs => "[" ++ String.intercalate ", " (shownList xs) ++ "]"
  | .set [] => "set()"
  | .set (x :: xs) => "\x7b" ++ String.intercalate ", " (shownList (x :: xs)) ++ "\x7d"
  | .map es => "\x7b" ++ String.intercalate ", " (shownEntries es) ++ "\x7d"

def shownList : List Value → List String
  | [] => []
  | x :: xs => shown x :: shownList xs

def shownEntries : List (Value × Value) → List String
  | [] => []
  | (k, v) :: es => (shown k ++ ": " ++ shown v) :: shownEntries es

end

/-- A value as plain text: a text itself, anything else as it is shown. -/
def plainText : Value → String
  | .str s => s
  | .date d => d.text
  | v => v.shown

end Value

end Sheetflow
