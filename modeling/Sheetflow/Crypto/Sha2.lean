import Sheetflow.Text.Utf8

/-!
# The SHA-2 family

All members share one construction on words of 32 or 64 bits. The constants are the first bits of the
fractional parts of roots of the first primes: of cube roots for the rounds and of square roots for
the initial state. They are computed here from that definition.
-/

namespace Sheetflow.Crypto

/-- Rotations and shifts: two rotations and a shift for each of the schedule's functions, three
rotations for each of the rounds' functions. -/
structure Rotations where
  schedule0 : Nat × Nat × Nat
  schedule1 : Nat × Nat × Nat
  round0 : Nat × Nat × Nat
  round1 : Nat × Nat × Nat

/-- A member of the family. -/
structure Sha2 where
  /-- Bits of a word. -/
  word : Nat
  rounds : Nat
  rotations : Rotations
  /-- Primes whose square roots make the initial state. -/
  seeds : List Nat
  /-- The number of words of the result. -/
  outputWords : Nat

namespace Sha2

def isPrime (n : Nat) : Bool := 2 ≤ n && (List.range n).all fun d => d < 2 || n % d != 0

/-- The first primes, as many as any member needs. -/
def primes : List Nat := (List.range 410).filter isPrime

/-- The largest `r` below `2 ^ bits` with `r ^ k ≤ n`. -/
def root (k n : Nat) : Nat → Nat → Nat
  | 0, r => r
  | bits + 1, r =>
    let r' := r + Nat.pow 2 bits
    root k n bits (if Nat.pow r' k ≤ n then r' else r)

/-- The first `bits` bits behind the point of the `k`-th root of `p`. -/
def fraction (k bits p : Nat) : Nat := root k (p * Nat.pow 2 (k * bits)) (bits + 5) 0 % Nat.pow 2 bits

def sha256 : Sha2 :=
  { word := 32, rounds := 64, seeds := primes.take 8, outputWords := 8
    rotations := ⟨(7, 18, 3), (17, 19, 10), (2, 13, 22), (6, 11, 25)⟩ }

def wide : Rotations := ⟨(1, 8, 7), (19, 61, 6), (28, 34, 39), (14, 18, 41)⟩

def sha384 : Sha2 :=
  { word := 64, rounds := 80, seeds := (primes.drop 8).take 8, outputWords := 6, rotations := wide }

def sha512 : Sha2 :=
  { word := 64, rounds := 80, seeds := primes.take 8, outputWords := 8, rotations := wide }

variable (h : Sha2)

/-- Bytes of a block. -/
def blockSize : Nat := 2 * h.word

/-- Addition of words. -/
def add (a b : Nat) : Nat := (a + b) % Nat.pow 2 h.word

def rotate (n a : Nat) : Nat := (a >>> n) ||| (a <<< (h.word - n)) % Nat.pow 2 h.word

def mix (r : Nat × Nat × Nat) (a : Nat) : Nat := h.rotate r.1 a ^^^ h.rotate r.2.1 a ^^^ h.rotate r.2.2 a

def mixShift (r : Nat × Nat × Nat) (a : Nat) : Nat := h.rotate r.1 a ^^^ h.rotate r.2.1 a ^^^ (a >>> r.2.2)

/-- The number that bytes stand for, the first being the most significant. -/
def numberOf (bs : Bytes) : Nat := bs.foldl (fun n b => 256 * n + b.toNat) 0

/-- `n` as `size` bytes. -/
def bytesOf (size n : Nat) : Bytes := (List.range size).map fun i => (n >>> (8 * (size - 1 - i))).toUInt8

/-- The message with the bit that ends it, zeros, and its length in bits. -/
def padded (message : Bytes) : Bytes :=
  let tail := h.word / 4
  let zeros := (2 * h.blockSize - (message.length + 1 + tail) % h.blockSize) % h.blockSize
  message ++ 0x80 :: List.replicate zeros 0 ++ bytesOf tail (8 * message.length)

/-- The words of a block. -/
def words : Nat → Bytes → List Nat
  | 0, _ => []
  | n + 1, bs => numberOf (bs.take (h.word / 8)) :: words n (bs.drop (h.word / 8))

/-- Extend a schedule, kept with the latest word first, by `n` words. -/
def extend : Nat → List Nat → List Nat
  | 0, ws => ws
  | n + 1, ws =>
    let at_ (i : Nat) : Nat := ws.getD (i - 1) 0
    let next := h.add (h.add (h.mixShift h.rotations.schedule1 (at_ 2)) (at_ 7))
      (h.add (h.mixShift h.rotations.schedule0 (at_ 15)) (at_ 16))
    extend n (next :: ws)

/-- The eight words of a state. -/
structure State where
  a : Nat
  b : Nat
  c : Nat
  d : Nat
  e : Nat
  f : Nat
  g : Nat
  h : Nat

def State.toList (s : State) : List Nat := [s.a, s.b, s.c, s.d, s.e, s.f, s.g, s.h]

def State.ofList : List Nat → State
  | [a, b, c, d, e, f, g, h] => ⟨a, b, c, d, e, f, g, h⟩
  | _ => ⟨0, 0, 0, 0, 0, 0, 0, 0⟩

/-- One round, with a constant and a word of the schedule. -/
def round (s : State) (kw : Nat × Nat) : State :=
  let mask := Nat.pow 2 h.word - 1
  let choice := (s.e &&& s.f) ^^^ ((s.e ^^^ mask) &&& s.g)
  let majority := (s.a &&& s.b) ^^^ (s.a &&& s.c) ^^^ (s.b &&& s.c)
  let t1 := h.add (h.add s.h (h.mix h.rotations.round1 s.e)) (h.add choice (h.add kw.1 kw.2))
  let t2 := h.add (h.mix h.rotations.round0 s.a) majority
  ⟨h.add t1 t2, s.a, s.b, s.c, h.add s.d t1, s.e, s.f, s.g⟩

/-- The constants of the rounds. -/
def constants : List Nat := (primes.take h.rounds).map (fraction 3 h.word)

def initial : State := .ofList (h.seeds.map (fraction 2 h.word))

def compress (constants : List Nat) (s : State) (block : Bytes) : State :=
  let schedule := (h.extend (h.rounds - 16) (h.words 16 block).reverse).reverse
  let t := (constants.zip schedule).foldl h.round s
  .ofList ((s.toList.zip t.toList).map fun p => h.add p.1 p.2)

/-- Take in `n` blocks. -/
def absorb (constants : List Nat) : Nat → State → Bytes → State
  | 0, s, _ => s
  | n + 1, s, bs => absorb constants n (h.compress constants s (bs.take h.blockSize)) (bs.drop h.blockSize)

/-- The hash of a message. -/
def hash (message : Bytes) : Bytes :=
  let bs := h.padded message
  let s := h.absorb h.constants (bs.length / h.blockSize) h.initial bs
  (s.toList.take h.outputWords).flatMap (bytesOf (h.word / 8))

end Sha2

/-- The keyed hash of a message: two hashes in which the key is mixed with two fixed bytes. -/
def Sha2.hmac (h : Sha2) (key message : Bytes) : Bytes :=
  let short := if h.blockSize < key.length then h.hash key else key
  let block := short ++ List.replicate (h.blockSize - short.length) 0
  h.hash (block.map (· ^^^ 0x5C) ++ h.hash (block.map (· ^^^ 0x36) ++ message))

end Sheetflow.Crypto
