import Sheetflow.Text.Utf8

/-!
# Encodings of written text

Text is stored as UTF-8, as UTF-16 in little-endian order behind a byte-order mark, or as ASCII. Only
ASCII can lose characters: each that it lacks becomes a question mark, and the loss is reported.
-/

namespace Sheetflow.Csv

inductive Encoding where
  | utf8
  | utf16
  | ascii
deriving DecidableEq, Repr, Inhabited

namespace Encoding

def name : Encoding → String
  | .utf8 => "UTF-8"
  | .utf16 => "UTF-16"
  | .ascii => "ASCII"

def all : List Encoding := [.utf8, .utf16, .ascii]

def ofName? (s : String) : Option Encoding := all.find? (·.name == s)

/-- Two bytes, the low one first. -/
def unitBytes (u : Nat) : Bytes := [(u % 256).toUInt8, (u / 256).toUInt8]

/-- The 16-bit units of a character: itself, or two surrogates. -/
def units (c : Char) : List Nat :=
  let n := c.toNat
  if n < 0x10000 then [n]
  else [0xD800 + (n - 0x10000) / 1024, 0xDC00 + (n - 0x10000) % 1024]

/-- Bytes and whether characters were lost. -/
structure Encoded where
  bytes : Bytes
  lossy : Bool
deriving DecidableEq

def isAscii (c : Char) : Bool := c.toNat < 128

def encode (enc : Encoding) (cs : List Char) : Encoded :=
  match enc with
  | .utf8 => ⟨Text.Utf8.encode cs, false⟩
  | .utf16 => ⟨0xFF :: 0xFE :: cs.flatMap fun c => (units c).flatMap unitBytes, false⟩
  | .ascii => ⟨cs.map fun c => if isAscii c then c.toNat.toUInt8 else 0x3F, !cs.all isAscii⟩

end Encoding

end Sheetflow.Csv
