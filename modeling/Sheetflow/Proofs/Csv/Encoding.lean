import Mathlib.Data.List.Forall2
import Sheetflow.Csv.Encoding
import Sheetflow.Proofs.Text.Utf8

/-!
# Loss in encoded text

Written text can be read again with `Encoding.decode?`, which follows the three encodings as they are
defined: UTF-8 without a mark, UTF-16 in the byte order that its mark tells, with two surrogates for a
character beyond the first 65536, and ASCII with one byte below 128 for a character.

UTF-8 and UTF-16 lose nothing (`Text.Utf8.decode_encode`, `decodeUtf16?_encode`), and ASCII keeps the
characters that it has (`decodeAscii?_encode`) and has a question mark for every other
(`forall₂_ascii`).  So text is read back as it was exactly if no loss is reported
(`encode_lossy_iff`).
-/

namespace Sheetflow.Csv.Encoding

/-! ### Reading -/

/-- Which byte of a unit stands first. -/
inductive ByteOrder where
  | lowFirst
  | highFirst

def ByteOrder.unit : ByteOrder → UInt8 → UInt8 → Nat
  | .lowFirst, b, c => b.toNat + 256 * c.toNat
  | .highFirst, b, c => 256 * b.toNat + c.toNat

/-- The 16-bit units that bytes stand for. -/
def unitsOf? (order : ByteOrder) : Bytes → Option (List Nat)
  | [] => some []
  | [_] => none
  | b :: c :: bs => (unitsOf? order bs).map (order.unit b c :: ·)

def isHighSurrogate (u : Nat) : Bool := 0xD800 ≤ u && u < 0xDC00

def isLowSurrogate (u : Nat) : Bool := 0xDC00 ≤ u && u < 0xE000

/-- The character that two surrogates stand for. -/
def joinSurrogates (u v : Nat) : Char := Char.ofNat (0x10000 + (u - 0xD800) * 1024 + (v - 0xDC00))

/-- The characters that units stand for; a surrogate without its fellow stands for none. -/
def charsOf? : List Nat → Option (List Char)
  | [] => some []
  | [u] => if isHighSurrogate u || isLowSurrogate u then none else some [Char.ofNat u]
  | u :: v :: us =>
    if isHighSurrogate u then
      if isLowSurrogate v then (charsOf? us).map (joinSurrogates u v :: ·) else none
    else if isLowSurrogate u then none
    else (charsOf? (v :: us)).map (Char.ofNat u :: ·)

/-- Text in UTF-16, in the byte order of its mark. -/
def decodeUtf16? : Bytes → Option (List Char)
  | b :: c :: bs =>
    if b = 0xFF ∧ c = 0xFE then (unitsOf? .lowFirst bs).bind charsOf?
    else if b = 0xFE ∧ c = 0xFF then (unitsOf? .highFirst bs).bind charsOf?
    else none
  | _ => none

def decodeAscii? : Bytes → Option (List Char)
  | [] => some []
  | b :: bs => if b < 0x80 then (decodeAscii? bs).map (Char.ofNat b.toNat :: ·) else none

/-- The text that bytes stand for. -/
def decode? : Encoding → Bytes → Option (List Char)
  | .utf8, bs => (Text.Utf8.decode bs).toOption
  | .utf16, bs => decodeUtf16? bs
  | .ascii, bs => decodeAscii? bs

/-! ### UTF-16 -/

theorem unitsOf?_unitBytes {u : Nat} (h : u < 0x10000) (bs : Bytes) :
    unitsOf? .lowFirst (unitBytes u ++ bs) = (unitsOf? .lowFirst bs).map (u :: ·) := by
  have hlow := Text.Utf8.toNat_toUInt8 (show u % 256 < 256 by omega)
  have hhigh := Text.Utf8.toNat_toUInt8 (show u / 256 < 256 by omega)
  have hunit : ByteOrder.unit .lowFirst (u % 256).toUInt8 (u / 256).toUInt8 = u := by
    rw [ByteOrder.unit, hlow, hhigh]
    omega
  rw [unitBytes, List.cons_append, List.singleton_append, unitsOf?, hunit]

/-- Units are read back from their bytes. -/
theorem unitsOf?_flatMap {us : List Nat} (h : ∀ u ∈ us, u < 0x10000) :
    unitsOf? .lowFirst (us.flatMap unitBytes) = some us := by
  induction us with
  | nil => rfl
  | cons u us ih =>
    obtain ⟨hu, hus⟩ := List.forall_mem_cons.mp h
    rw [List.flatMap_cons, unitsOf?_unitBytes hu, ih hus, Option.map_some]

theorem unit_lt {c : Char} {u : Nat} (h : u ∈ units c) : u < 0x10000 := by
  have hc : c.toNat < 0xD800 ∨ 0xDFFF < c.toNat ∧ c.toNat < 0x110000 := c.valid
  unfold units at h
  dsimp only at h
  split at h
  · rw [List.mem_singleton.mp h]
    omega
  · obtain rfl | h := List.mem_cons.mp h
    · omega
    · rw [List.mem_singleton.mp h]
      omega

/-- **The units of a character are read back as that character**, whatever follows them. -/
theorem charsOf?_units (c : Char) (us : List Nat) :
    charsOf? (units c ++ us) = (charsOf? us).map (c :: ·) := by
  have hc : c.toNat < 0xD800 ∨ 0xDFFF < c.toNat ∧ c.toNat < 0x110000 := c.valid
  have hchar : Char.ofNat c.toNat = c := Char.ofNat_toNat c
  unfold units
  dsimp only
  split
  · have hhigh : isHighSurrogate c.toNat = false := by
      simp only [isHighSurrogate, Bool.and_eq_false_iff, decide_eq_false_iff_not]
      omega
    have hlow : isLowSurrogate c.toNat = false := by
      simp only [isLowSurrogate, Bool.and_eq_false_iff, decide_eq_false_iff_not]
      omega
    cases us with
    | nil => simp [charsOf?, hhigh, hlow, hchar]
    | cons v us => simp [charsOf?, hhigh, hlow, hchar]
  · have hhigh : isHighSurrogate (0xD800 + (c.toNat - 0x10000) / 1024) = true := by
      simp only [isHighSurrogate, Bool.and_eq_true, decide_eq_true_eq]
      omega
    have hlow : isLowSurrogate (0xDC00 + (c.toNat - 0x10000) % 1024) = true := by
      simp only [isLowSurrogate, Bool.and_eq_true, decide_eq_true_eq]
      omega
    have hjoin : joinSurrogates (0xD800 + (c.toNat - 0x10000) / 1024)
        (0xDC00 + (c.toNat - 0x10000) % 1024) = c := by
      rw [joinSurrogates, show 0x10000 + (0xD800 + (c.toNat - 0x10000) / 1024 - 0xD800) * 1024 +
        (0xDC00 + (c.toNat - 0x10000) % 1024 - 0xDC00) = c.toNat by omega, hchar]
    rw [List.cons_append, List.singleton_append, charsOf?, if_pos hhigh, if_pos hlow, hjoin]

theorem charsOf?_flatMap (cs : List Char) : charsOf? (cs.flatMap units) = some cs := by
  induction cs with
  | nil => rfl
  | cons c cs ih => rw [List.flatMap_cons, charsOf?_units, ih, Option.map_some]

theorem decodeUtf16?_encode (cs : List Char) : decodeUtf16? (encode .utf16 cs).bytes = some cs := by
  have hunits : unitsOf? .lowFirst ((cs.flatMap units).flatMap unitBytes) = some (cs.flatMap units) :=
    unitsOf?_flatMap fun u hu => by
      obtain ⟨c, -, hc⟩ := List.mem_flatMap.mp hu
      exact unit_lt hc
  have hmark : (encode .utf16 cs).bytes = 0xFF :: 0xFE :: (cs.flatMap units).flatMap unitBytes := by
    rw [encode, List.flatMap_assoc]
  rw [hmark, decodeUtf16?, if_pos ⟨rfl, rfl⟩, hunits, Option.bind_some, charsOf?_flatMap]

/-! ### ASCII -/

/-- The byte that a character gets in ASCII: its number, or that of a question mark. -/
def IsAsciiByte (c : Char) (b : UInt8) : Prop :=
  b.toNat = if c.toNat ≤ 0x7F then c.toNat else '?'.toNat

theorem isAscii_iff {c : Char} : isAscii c = true ↔ c.toNat ≤ 0x7F := by
  rw [isAscii, decide_eq_true_eq]
  omega

theorem isAsciiByte_of (c : Char) : IsAsciiByte c (if isAscii c then c.toNat.toUInt8 else 0x3F) := by
  by_cases hc : c.toNat ≤ 0x7F
  · rw [IsAsciiByte, if_pos (isAscii_iff.mpr hc), if_pos hc, Text.Utf8.toNat_toUInt8 (by omega)]
  · rw [IsAsciiByte, if_neg (mt isAscii_iff.mp hc), if_neg hc]
    rfl

/-- Each character gets one byte. -/
theorem forall₂_ascii (cs : List Char) : List.Forall₂ IsAsciiByte cs (encode .ascii cs).bytes := by
  rw [encode]
  induction cs with
  | nil => exact .nil
  | cons c cs ih => exact .cons (isAsciiByte_of c) ih

/-- Text in ASCII is read as the text with question marks for what was lost. -/
theorem decodeAscii?_encode (cs : List Char) : decodeAscii? (encode .ascii cs).bytes =
    some (cs.map fun c => if isAscii c then c else '?') := by
  rw [encode]
  induction cs with
  | nil => rfl
  | cons c cs ih =>
    rw [List.map_cons, List.map_cons, decodeAscii?]
    by_cases hc : isAscii c = true
    · have hlt : c.toNat.toUInt8.toNat = c.toNat :=
        Text.Utf8.toNat_toUInt8 (by have := isAscii_iff.mp hc; omega)
      have hbyte : c.toNat.toUInt8 < 0x80 := by
        rw [UInt8.lt_iff_toNat_lt, hlt]
        exact Nat.lt_of_le_of_lt (isAscii_iff.mp hc) (by decide)
      rw [if_pos hc, if_pos hc, if_pos hbyte, ih, hlt, Char.ofNat_toNat, Option.map_some]
    · rw [if_neg hc, if_neg hc, if_pos (by decide), ih, Option.map_some]
      rfl

/-- Characters that ASCII has are kept, and no other. -/
theorem map_eq_self_iff {cs : List Char} :
    (cs.map fun c => if isAscii c then c else '?') = cs ↔ cs.all isAscii = true := by
  induction cs with
  | nil => simp
  | cons c cs ih =>
    rw [List.map_cons, List.cons.injEq, ih, List.all_cons, Bool.and_eq_true]
    refine and_congr_left fun _ => ?_
    by_cases hc : isAscii c = true
    · simp [hc]
    · rw [if_neg hc]
      refine ⟨?_, fun h => absurd h hc⟩
      rintro rfl
      exact absurd rfl hc

/-! ### Loss -/

/-- **Loss is reported exactly.**  Encoded text is read back as it was if no loss is reported, and only
then.  Loss is reported for text in ASCII with a character beyond 127; then there is a byte for each
character, its own or that of a question mark. -/
theorem encode_lossy_iff (enc : Encoding) (cs : List Char) :
    ((encode enc cs).lossy = false ↔ decode? enc (encode enc cs).bytes = some cs) ∧
      ((encode enc cs).lossy = true ↔ enc = .ascii ∧ ∃ c ∈ cs, 0x7F < c.toNat) ∧
      ((encode enc cs).lossy = true → List.Forall₂ IsAsciiByte cs (encode enc cs).bytes) := by
  cases enc with
  | utf8 =>
    have hread : decode? .utf8 (encode .utf8 cs).bytes = some cs :=
      congrArg Except.toOption (Text.Utf8.decode_encode cs)
    exact ⟨iff_of_true rfl hread, iff_of_false nofun nofun, nofun⟩
  | utf16 => exact ⟨iff_of_true rfl (decodeUtf16?_encode cs), iff_of_false nofun nofun, nofun⟩
  | ascii =>
    have hlossy : (encode .ascii cs).lossy = !cs.all isAscii := rfl
    refine ⟨?_, ?_, fun _ => forall₂_ascii cs⟩
    · rw [hlossy, Bool.not_eq_false', decode?, decodeAscii?_encode, Option.some.injEq, map_eq_self_iff]
    · rw [hlossy, Bool.not_eq_true', List.all_eq_false]
      simp only [true_and, isAscii_iff, Nat.not_le]

/-- Two characters that ASCII does not have, one of which takes two units in UTF-16. -/
example : let cs := ['a', 'é', '😀']
    (encode .ascii cs).bytes = [0x61, 0x3F, 0x3F] ∧ (encode .ascii cs).lossy = true ∧
      (encode .utf16 cs).bytes = [0xFF, 0xFE, 0x61, 0, 0xE9, 0, 0x3D, 0xD8, 0x00, 0xDE] ∧
      decode? .utf16 [0xFE, 0xFF, 0, 0x61, 0, 0xE9, 0xD8, 0x3D, 0xDE, 0x00] = some cs := by
  decide +kernel

end Sheetflow.Csv.Encoding
