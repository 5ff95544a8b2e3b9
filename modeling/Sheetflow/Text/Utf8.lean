/-!
# UTF-8

`encode` writes each character in one to four bytes. `decode` reads the longest valid beginning and,
if that is not everything, says where and why it stopped: at a byte that starts no character, at a
byte that does not continue one, or at the end in the middle of a character.
-/

namespace Sheetflow

abbrev Bytes := List UInt8

namespace Text.Utf8

/-- The bytes of a character. -/
def encodeChar (c : Char) : Bytes :=
  let n := c.toNat
  if n < 0x80 then [n.toUInt8]
  else if n < 0x800 then [(0xC0 + n / 64).toUInt8, (0x80 + n % 64).toUInt8]
  else if n < 0x10000 then
    [(0xE0 + n / 4096).toUInt8, (0x80 + n / 64 % 64).toUInt8, (0x80 + n % 64).toUInt8]
  else
    [(0xF0 + n / 262144).toUInt8, (0x80 + n / 4096 % 64).toUInt8, (0x80 + n / 64 % 64).toUInt8,
      (0x80 + n % 64).toUInt8]

def encode (cs : List Char) : Bytes := cs.flatMap encodeChar

/-- Why bytes are no UTF-8. -/
inductive Fault where
  | invalidStart
  | invalidContinuation
  | unexpectedEnd
deriving DecidableEq, Repr

/-- The first fault: the offset of the character it is found in, the number of its bytes that are
reported, and the first of them. -/
structure Error where
  fault : Fault
  offset : Nat
  length : Nat
  byte : UInt8
deriving DecidableEq, Repr

def Fault.message : Fault → String
  | .invalidStart => "invalid start byte"
  | .invalidContinuation => "invalid continuation byte"
  | .unexpectedEnd => "unexpected end of data"

def hexByte (b : UInt8) : String :=
  let ds := Nat.toDigits 16 b.toNat
  String.ofList (if ds.length < 2 then '0' :: ds else ds)

def Error.message (e : Error) : String :=
  if e.length = 1 then
    "'utf-8' codec can't decode byte 0x" ++ hexByte e.byte ++ " in position " ++ toString e.offset ++
      ": " ++ e.fault.message
  else
    "'utf-8' codec can't decode bytes in position " ++ toString e.offset ++ "-" ++
      toString (e.offset + e.length - 1) ++ ": " ++ e.fault.message

def isContinuation (b : UInt8) : Bool := 0x80 ≤ b && b < 0xC0

/-- The number of bytes of a character that starts with this byte. -/
def lengthOf? (b : UInt8) : Option Nat :=
  if b < 0x80 then some 1
  else if b < 0xC2 then none
  else if b < 0xE0 then some 2
  else if b < 0xF0 then some 3
  else if b < 0xF5 then some 4
  else none

/-- May the byte stand second? Overlong forms, surrogates and numbers beyond the last character are
excluded here. -/
def isSecond (first b : UInt8) : Bool :=
  isContinuation b &&
    (if first = 0xE0 then 0xA0 ≤ b
     else if first = 0xED then b < 0xA0
     else if first = 0xF0 then 0x90 ≤ b
     else if first = 0xF4 then b < 0x90
     else true)

/-- What stands at the head of the bytes. -/
inductive Head where
  | char (c : Char) (rest : Bytes)
  | fault (f : Fault) (length : Nat)

/-- Join the last six bits of continuation bytes to `n`. -/
def joinBits (n : Nat) (bs : Bytes) : Nat := bs.foldl (fun n b => 64 * n + (b.toNat - 0x80)) n

/-- Read one character behind its first byte. -/
def head (first : UInt8) (rest : Bytes) : Head :=
  match lengthOf? first with
  | none => .fault .invalidStart 1
  | some 1 => .char (Char.ofNat first.toNat) rest
  | some 2 =>
    match rest with
    | [] => .fault .unexpectedEnd 1
    | b :: rest =>
      if isSecond first b then .char (Char.ofNat (joinBits (first.toNat - 0xC0) [b])) rest
      else .fault .invalidContinuation 1
  | some 3 =>
    match rest with
    | [] => .fault .unexpectedEnd 1
    | b :: rest =>
      if isSecond first b then
        match rest with
        | [] => .fault .unexpectedEnd 2
        | c :: rest =>
          if isContinuation c then .char (Char.ofNat (joinBits (first.toNat - 0xE0) [b, c])) rest
          else .fault .invalidContinuation 2
      else .fault .invalidContinuation 1
  | some _ =>
    match rest with
    | [] => .fault .unexpectedEnd 1
    | b :: rest =>
      if isSecond first b then
        match rest with
        | [] => .fault .unexpectedEnd 2
        | c :: rest =>
          if isContinuation c then
            match rest with
            | [] => .fault .unexpectedEnd 3
            | d :: rest =>
              if isContinuation d then
                .char (Char.ofNat (joinBits (first.toNat - 0xF0) [b, c, d])) rest
              else .fault .invalidContinuation 3
          else .fault .invalidContinuation 2
      else .fault .invalidContinuation 1

theorem length_rest_of_head {first : UInt8} {rest rest' : Bytes} {c : Char}
    (h : head first rest = .char c rest') : rest'.length ≤ rest.length := by
  unfold head at h
  repeat' split at h
  all_goals first
    | (injection h with _ h; subst h; simp <;> omega)
    | cases h

/-- Decode the bytes behind `offset`; `done` is what has been read, the latest first. -/
def decodeFrom (offset : Nat) (done : List Char) : Bytes → Except Error (List Char)
  | [] => .ok done.reverse
  | b :: bs =>
    match _h : head b bs with
    | .char c rest => decodeFrom (offset + (lengthOf? b).getD 1) (c :: done) rest
    | .fault f n => .error ⟨f, offset, n, b⟩
termination_by bs => bs.length
decreasing_by have := length_rest_of_head _h; simp; omega

def decode (bs : Bytes) : Except Error (List Char) := decodeFrom 0 [] bs

/-- The mark that may stand before the text. -/
def mark : Bytes := [0xEF, 0xBB, 0xBF]

/-- Decode a text that may start with the mark; offsets are counted behind it. -/
def decodeMarked (bs : Bytes) : Except Error (List Char) :=
  decode (if mark.isPrefixOf bs then bs.drop 3 else bs)

/-- Every byte as the character of that number. -/
def decodeLatin1 (bs : Bytes) : List Char := bs.map fun b => Char.ofNat b.toNat

end Text.Utf8

end Sheetflow
