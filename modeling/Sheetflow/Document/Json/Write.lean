import Sheetflow.Document.Value

/-!
# Writing JSON

Values are written without blanks. Characters outside ASCII are escaped by their 16-bit units.
-/

namespace Sheetflow.Json

def unitEscape (n : Nat) : List Char := '\\' :: 'u' :: Text.hex 4 n

def escapeChar (c : Char) : List Char :=
  let n := c.toNat
  if c = '"' || c = '\\' then ['\\', c]
  else if c = '\n' then ['\\', 'n']
  else if c = '\r' then ['\\', 'r']
  else if c = '\t' then ['\\', 't']
  else if n = 8 then ['\\', 'b']
  else if n = 12 then ['\\', 'f']
  else if 32 ≤ n && n < 127 then [c]
  else if n < 0x10000 then unitEscape n
  else unitEscape (0xD800 + (n - 0x10000) / 1024) ++ unitEscape (0xDC00 + (n - 0x10000) % 1024)

def stringText (s : String) : String := String.ofList ('"' :: s.toList.flatMap escapeChar ++ ['"'])

def floatText : Double → String
  | .nan => "NaN"
  | .infinite s => if s then "-Infinity" else "Infinity"
  | x => x.text

/-- A key of a map, which is written as a text. -/
def keyText : Value → String
  | .str s => s
  | .null => "null"
  | .bool b => if b then "true" else "false"
  | .float x => floatText x
  | v => v.plainText

mutual

def write : Value → String
  | .null => "null"
  | .bool b => if b then "true" else "false"
  | .int i => toString i
  | .float x => floatText x
  | .str s => stringText s
  | .list xs => "[" ++ String.intercalate "," (writeList xs) ++ "]"
  | .map es => "\x7b" ++ String.intercalate "," (writeEntries es) ++ "\x7d"
  | v => stringText v.plainText

def writeList : List Value → List String
  | [] => []
  | x :: xs => write x :: writeList xs

def writeEntries : List (Value × Value) → List String
  | [] => []
  | (k, v) :: es => (stringText (keyText k) ++ ":" ++ write v) :: writeEntries es

end

end Sheetflow.Json
