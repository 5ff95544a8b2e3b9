import Sheetflow.Text.Utf8

/-!
# Encoded text is read back

`decode_encode`: decoding undoes encoding.  The tests on bytes are first put in
terms of their numbers (`lengthOf?_eq`, `isContinuation_iff`, `isSecond_iff`);
then `head` is evaluated once for each number of bytes (`head_one` …
`head_four`), and `head_encodeChar` puts the four together: whatever follows,
the bytes of a character are read as that character.

`decodeMarked` drops a mark in front of the text, so it undoes `encode` for
texts that do not start with the mark character themselves
(`decodeMarked_encode`).
-/

namespace Sheetflow.Text.Utf8

/-! ### Bytes by their numbers -/

theorem toNat_toUInt8 {n : Nat} (h : n < 256) : n.toUInt8.toNat = n := by
  simp [Nat.toUInt8, UInt8.toNat_ofNat', Nat.mod_eq_of_lt h]

theorem lengthOf?_eq (b : UInt8) : lengthOf? b =
    if b.toNat < 0x80 then some 1 else if b.toNat < 0xC2 then none
    else if b.toNat < 0xE0 then some 2 else if b.toNat < 0xF0 then some 3
    else if b.toNat < 0xF5 then some 4 else none := by
  simp only [lengthOf?, UInt8.lt_iff_toNat_lt]
  rfl

theorem isContinuation_iff (b : UInt8) :
    isContinuation b = true ↔ 0x80 ≤ b.toNat ∧ b.toNat < 0xC0 := by
  simp only [isContinuation, UInt8.lt_iff_toNat_lt, UInt8.le_iff_toNat_le, Bool.and_eq_true,
    decide_eq_true_eq]
  rfl

theorem isSecond_iff (first b : UInt8) : isSecond first b = true ↔
    isContinuation b = true ∧
      (first.toNat = 0xE0 → 0xA0 ≤ b.toNat) ∧ (first.toNat = 0xED → b.toNat < 0xA0) ∧
      (first.toNat = 0xF0 → 0x90 ≤ b.toNat) ∧ (first.toNat = 0xF4 → b.toNat < 0x90) := by
  have key : ∀ k : UInt8, first = k ↔ first.toNat = k.toNat := fun k => UInt8.toNat_inj.symm
  simp only [isSecond, key, UInt8.lt_iff_toNat_lt, UInt8.le_iff_toNat_le, Bool.and_eq_true]
  refine and_congr_right fun _ => ?_
  rw [show (0xE0 : UInt8).toNat = 0xE0 from rfl, show (0xED : UInt8).toNat = 0xED from rfl,
    show (0xF0 : UInt8).toNat = 0xF0 from rfl, show (0xF4 : UInt8).toNat = 0xF4 from rfl,
    show (0xA0 : UInt8).toNat = 0xA0 from rfl, show (0x90 : UInt8).toNat = 0x90 from rfl]
  repeat' split
  all_goals simp only [decide_eq_true_eq, true_iff]; omega

/-! ### One character -/

theorem joinBits_nil (n : Nat) : joinBits n [] = n := rfl

theorem joinBits_cons (n : Nat) (b : UInt8) (bs : Bytes) :
    joinBits n (b :: bs) = joinBits (64 * n + (b.toNat - 0x80)) bs := by
  rw [joinBits, joinBits, List.foldl_cons]

theorem head_one {b : UInt8} (hb : lengthOf? b = some 1) (rest : Bytes) :
    head b rest = .char (Char.ofNat b.toNat) rest := by
  unfold head
  simp only [hb]

theorem head_two {b b1 : UInt8} (hb : lengthOf? b = some 2) (h1 : isSecond b b1 = true)
    (rest : Bytes) :
    head b (b1 :: rest) = .char (Char.ofNat (joinBits (b.toNat - 0xC0) [b1])) rest := by
  unfold head
  rw [hb]
  simp only [h1, if_true]

theorem head_three {b b1 b2 : UInt8} (hb : lengthOf? b = some 3) (h1 : isSecond b b1 = true)
    (h2 : isContinuation b2 = true) (rest : Bytes) :
    head b (b1 :: b2 :: rest) = .char (Char.ofNat (joinBits (b.toNat - 0xE0) [b1, b2])) rest := by
  unfold head
  rw [hb]
  simp only [h1, h2, if_true]

theorem head_four {b b1 b2 b3 : UInt8} (hb : lengthOf? b = some 4) (h1 : isSecond b b1 = true)
    (h2 : isContinuation b2 = true) (h3 : isContinuation b3 = true) (rest : Bytes) :
    head b (b1 :: b2 :: b3 :: rest) =
      .char (Char.ofNat (joinBits (b.toNat - 0xF0) [b1, b2, b3])) rest := by
  unfold head
  rw [hb]
  simp only [h1, h2, h3, if_true]

/-- **The bytes of a character are read back as that character**, whatever follows them. -/
theorem head_encodeChar (c : Char) : ∃ b bs, encodeChar c = b :: bs ∧
    ∀ rest, head b (bs ++ rest) = .char c rest := by
  have hv : c.toNat < 0xD800 ∨ 0xDFFF < c.toNat ∧ c.toNat < 0x110000 := c.valid
  have hc : Char.ofNat c.toNat = c := Char.ofNat_toNat c
  simp only [encodeChar]
  generalize c.toNat = n at hv hc
  have last := toNat_toUInt8 (show 0x80 + n % 64 < 256 by omega)
  have middle := toNat_toUInt8 (show 0x80 + n / 64 % 64 < 256 by omega)
  have high := toNat_toUInt8 (show 0x80 + n / 4096 % 64 < 256 by omega)
  split
  · have first := toNat_toUInt8 (show n < 256 by omega)
    refine ⟨_, _, rfl, fun rest => ?_⟩
    rw [List.nil_append, head_one (by rw [lengthOf?_eq, first, if_pos (by omega)]), first, hc]
  split
  · have first := toNat_toUInt8 (show 0xC0 + n / 64 < 256 by omega)
    refine ⟨_, _, rfl, fun rest => ?_⟩
    rw [List.singleton_append, head_two, joinBits_cons, joinBits_nil, first, last,
      show 64 * (0xC0 + n / 64 - 0xC0) + (0x80 + n % 64 - 0x80) = n by omega, hc]
    · rw [lengthOf?_eq, first, if_neg (by omega), if_neg (by omega), if_pos (by omega)]
    · rw [isSecond_iff, isContinuation_iff, first, last]
      omega
  split
  · have first := toNat_toUInt8 (show 0xE0 + n / 4096 < 256 by omega)
    refine ⟨_, _, rfl, fun rest => ?_⟩
    rw [List.cons_append, List.singleton_append, head_three, joinBits_cons, joinBits_cons,
      joinBits_nil, first, middle, last,
      show 64 * (64 * (0xE0 + n / 4096 - 0xE0) + (0x80 + n / 64 % 64 - 0x80)) +
        (0x80 + n % 64 - 0x80) = n by omega, hc]
    · rw [lengthOf?_eq, first, if_neg (by omega), if_neg (by omega), if_neg (by omega),
        if_pos (by omega)]
    · rw [isSecond_iff, isContinuation_iff, first, middle]
      omega
    · rw [isContinuation_iff, last]
      omega
  · have first := toNat_toUInt8 (show 0xF0 + n / 262144 < 256 by omega)
    refine ⟨_, _, rfl, fun rest => ?_⟩
    rw [List.cons_append, List.cons_append, List.singleton_append, head_four,
      joinBits_cons, joinBits_cons, joinBits_cons, joinBits_nil, first, high, middle, last,
      show 64 * (64 * (64 * (0xF0 + n / 262144 - 0xF0) + (0x80 + n / 4096 % 64 - 0x80)) +
        (0x80 + n / 64 % 64 - 0x80)) + (0x80 + n % 64 - 0x80) = n by omega, hc]
    · rw [lengthOf?_eq, first, if_neg (by omega), if_neg (by omega), if_neg (by omega),
        if_neg (by omega), if_pos (by omega)]
    · rw [isSecond_iff, isContinuation_iff, first, high]
      omega
    · rw [isContinuation_iff, middle]
      omega
    · rw [isContinuation_iff, last]
      omega

/-! ### Texts -/

theorem decodeFrom_encodeChar (offset : Nat) (done : List Char) (c : Char) (rest : Bytes) :
    ∃ offset', decodeFrom offset done (encodeChar c ++ rest) =
      decodeFrom offset' (c :: done) rest := by
  obtain ⟨b, bs, he, hh⟩ := head_encodeChar c
  rw [he, List.cons_append, decodeFrom.eq_def]
  refine ⟨offset + (lengthOf? b).getD 1, ?_⟩
  simp only
  split
  · next c' rest' h =>
    rw [hh rest] at h
    injection h with h1 h2
    subst h1 h2
    rfl
  · next h =>
    rw [hh rest] at h
    cases h

theorem decodeFrom_encode (offset : Nat) (done cs : List Char) :
    decodeFrom offset done (encode cs) = .ok (done.reverse ++ cs) := by
  induction cs generalizing offset done with
  | nil => rw [encode, List.flatMap_nil, decodeFrom, List.append_nil]
  | cons c cs ih =>
    obtain ⟨offset', h⟩ := decodeFrom_encodeChar offset done c (encode cs)
    rw [encode, List.flatMap_cons, ← encode, h, ih, List.reverse_cons, List.append_assoc]
    rfl

/-- **Encoded text is read back as that text.** -/
theorem decode_encode (cs : List Char) : decode (encode cs) = .ok cs := decodeFrom_encode 0 [] cs

/-- Only a text that starts with the mark character is written with the mark in front. -/
theorem head?_of_mark {cs : List Char} {rest : Bytes} (h : encode cs = mark ++ rest) :
    cs.head? = some '\uFEFF' := by
  cases cs with
  | nil => simp [encode, mark] at h
  | cons c cs =>
    obtain ⟨b, bs, he, hh⟩ := head_encodeChar c
    rw [encode, List.flatMap_cons, ← encode, he, List.cons_append, mark, List.cons_append] at h
    injection h with hb ht
    have hc : head b (bs ++ encode cs) = .char c (encode cs) := hh (encode cs)
    rw [ht, hb] at hc
    have hm : head 0xEF (0xBB :: 0xBF :: rest) = _ :=
      head_three (by decide) (by decide) (by decide) rest
    exact congrArg some ((Head.char.inj (hc.symm.trans hm)).1.trans (by decide))

theorem decodeMarked_encode {cs : List Char} (h : cs.head? ≠ some '\uFEFF') :
    decodeMarked (encode cs) = .ok cs := by
  rw [decodeMarked, if_neg, decode_encode]
  rw [List.isPrefixOf_iff_prefix]
  rintro ⟨rest, hr⟩
  exact h (head?_of_mark hr.symm)

end Sheetflow.Text.Utf8
