import Sheetflow.Proofs.Text.Utf8
import Sheetflow.Text.Base64

/-!
# Base 64 is read back

`decode_encode`: reading undoes writing.  Bytes are written by way of numbers below sixty-four
(`sextets`): the reader collects them from the characters (`run_encodeWith`), and they stand for the
bytes (`bytesOf_sextets`).
-/

namespace Sheetflow.Text.Base64

/-- The numbers below sixty-four that bytes are written with. -/
def sextets : Bytes → List Nat
  | [] => []
  | [x] => [x.toNat / 4, x.toNat % 4 * 16]
  | [x, y] => [x.toNat / 4, x.toNat % 4 * 16 + y.toNat / 16, y.toNat % 16 * 4]
  | x :: y :: z :: rest =>
    x.toNat / 4 :: (x.toNat % 4 * 16 + y.toNat / 16) :: (y.toNat % 16 * 4 + z.toNat / 64) ::
      z.toNat % 64 :: sextets rest

theorem toUInt8_of_eq {n : Nat} {x : UInt8} (h : n % 256 = x.toNat) : n.toUInt8 = x := by
  refine UInt8.toNat_inj.mp ?_
  rw [Nat.toUInt8, UInt8.toNat_ofNat', ← h]

/-- The numbers stand for the bytes. -/
theorem bytesOf_sextets (bs : Bytes) : bytesOf (sextets bs) = bs := by
  induction bs using sextets.induct with
  | case1 => rfl
  | case2 x =>
    have := x.toNat_lt
    rw [sextets, bytesOf, toUInt8_of_eq (x := x) (by omega)]
  | case3 x y =>
    have := x.toNat_lt
    have := y.toNat_lt
    rw [sextets, bytesOf, toUInt8_of_eq (x := x) (by omega), toUInt8_of_eq (x := y) (by omega)]
  | case4 x y z rest ih =>
    have := x.toNat_lt
    have := y.toNat_lt
    have := z.toNat_lt
    rw [sextets, bytesOf, ih, toUInt8_of_eq (x := x) (by omega), toUInt8_of_eq (x := y) (by omega),
      toUInt8_of_eq (x := z) (by omega)]

/-- A character is read as its value. -/
theorem run_digit {n : Nat} (hn : n < 64) (values : List Nat) (cs : List Char) :
    Reader.run ⟨values, 0, false⟩ (digit plain n :: cs) = Reader.run ⟨n :: values, 0, false⟩ cs := by
  rw [Reader.run, if_neg (digit_ne_equals n hn), value?_digit_plain n hn]
  rfl

/-- Two equals signs stand for two missing characters. -/
theorem run_filled_two {values : List Nat} (h : values.length % 4 = 2) :
    Reader.run ⟨values, 0, false⟩ ['=', '='] = .ok (bytesOf values.reverse) := by
  simp [Reader.run, h]

theorem run_filled_one {values : List Nat} (h : values.length % 4 = 3) :
    Reader.run ⟨values, 0, false⟩ ['='] = .ok (bytesOf values.reverse) := by
  simp [Reader.run, h]

/-- What is written is read as the numbers it was written with. -/
theorem run_encodeWith (bs : Bytes) (values : List Nat) (h : values.length % 4 = 0) :
    Reader.run ⟨values, 0, false⟩ (encodeWith plain ['='] bs) =
      .ok (bytesOf (values.reverse ++ sextets bs)) := by
  induction bs using sextets.induct generalizing values with
  | case1 =>
    rw [encodeWith, Reader.run, Reader.finish, sextets, List.append_nil]
    simp only [h]
  | case2 x =>
    have := x.toNat_lt
    rw [encodeWith, run_digit (by omega), run_digit (by omega)]
    refine (run_filled_two (by simp only [List.length_cons]; omega)).trans ?_
    simp [sextets]
  | case3 x y =>
    have := x.toNat_lt
    have := y.toNat_lt
    rw [encodeWith, run_digit (by omega), run_digit (by omega), run_digit (by omega)]
    refine (run_filled_one (by simp only [List.length_cons]; omega)).trans ?_
    simp [sextets]
  | case4 x y z rest ih =>
    have := x.toNat_lt
    have := y.toNat_lt
    have := z.toNat_lt
    rw [encodeWith, run_digit (by omega), run_digit (by omega), run_digit (by omega),
      run_digit (by omega), ih _ (by simp only [List.length_cons]; omega), sextets]
    simp

theorem toNat_digit_lt : ∀ n < 64, (digit plain n).toNat < 128 := by decide

/-- All that is written are characters of ASCII. -/
theorem toNat_lt_of_mem_encodeWith (bs : Bytes) :
    ∀ c ∈ encodeWith plain ['='] bs, c.toNat < 128 := by
  induction bs using sextets.induct with
  | case1 => exact fun c h => nomatch h
  | case2 x =>
    have := x.toNat_lt
    simp only [encodeWith, List.forall_mem_cons, List.cons_append, List.nil_append]
    exact ⟨toNat_digit_lt _ (by omega), toNat_digit_lt _ (by omega), by decide, by decide,
      List.forall_mem_nil _⟩
  | case3 x y =>
    have := x.toNat_lt
    have := y.toNat_lt
    simp only [encodeWith, List.forall_mem_cons]
    exact ⟨toNat_digit_lt _ (by omega), toNat_digit_lt _ (by omega), toNat_digit_lt _ (by omega),
      by decide, List.forall_mem_nil _⟩
  | case4 x y z rest ih =>
    have := x.toNat_lt
    have := y.toNat_lt
    have := z.toNat_lt
    simp only [encodeWith, List.forall_mem_cons]
    exact ⟨toNat_digit_lt _ (by omega), toNat_digit_lt _ (by omega), toNat_digit_lt _ (by omega),
      toNat_digit_lt _ (by omega), ih⟩

theorem head?_encodeWith_ne (bs : Bytes) : (encodeWith plain ['='] bs).head? ≠ some '=' := by
  have hdigit (x : UInt8) : digit plain (x.toNat / 4) ≠ '=' := by
    have := x.toNat_lt
    exact digit_ne_equals _ (by omega)
  cases bs using sextets.fun_cases with
  | case1 => exact fun h => nomatch h
  | case2 x => exact fun h => hdigit x (Option.some.inj h)
  | case3 x y => exact fun h => hdigit x (Option.some.inj h)
  | case4 x y z rest => exact fun h => hdigit x (Option.some.inj h)

/-- **Reading undoes writing.** -/
theorem decode_encode (bs : Bytes) : decode (encode bs) = .ok bs := by
  have hrun := run_encodeWith bs [] rfl
  rw [List.reverse_nil, List.nil_append, bytesOf_sextets] at hrun
  have hascii : ¬ (encodeWith plain ['='] bs).any (fun c => 128 ≤ c.toNat) = true := by
    intro h
    obtain ⟨c, hc, hle⟩ := List.any_eq_true.mp h
    have := toNat_lt_of_mem_encodeWith bs c hc
    exact absurd (of_decide_eq_true hle) (by omega)
  rw [decode, encode, String.toList_ofList, if_neg hascii, if_neg (head?_encodeWith_ne bs), hrun]

/-! ### Parts of addresses -/

theorem encodeWith_forUrls (bs : Bytes) :
    encodeWith forUrls [] bs = (sextets bs).map (digit forUrls) := by
  induction bs using sextets.induct with
  | case1 => rfl
  | case2 x => rfl
  | case3 x y => rfl
  | case4 x y z rest ih => rw [encodeWith, ih, sextets, List.map_cons, List.map_cons, List.map_cons,
      List.map_cons]

theorem sextets_lt (bs : Bytes) : ∀ n ∈ sextets bs, n < 64 := by
  induction bs using sextets.induct with
  | case1 => exact fun n h => nomatch h
  | case2 x =>
    have := x.toNat_lt
    simp only [sextets, List.forall_mem_cons]
    exact ⟨by omega, by omega, List.forall_mem_nil _⟩
  | case3 x y =>
    have := x.toNat_lt
    have := y.toNat_lt
    simp only [sextets, List.forall_mem_cons]
    exact ⟨by omega, by omega, by omega, List.forall_mem_nil _⟩
  | case4 x y z rest ih =>
    have := x.toNat_lt
    have := y.toNat_lt
    have := z.toNat_lt
    simp only [sextets, List.forall_mem_cons]
    exact ⟨by omega, by omega, by omega, by omega, ih⟩

/-- One character alone is never written. -/
theorem length_sextets_ne (bs : Bytes) : (sextets bs).length % 4 ≠ 1 := by
  induction bs using sextets.induct with
  | case1 => decide
  | case2 x => exact nofun
  | case3 x y => exact nofun
  | case4 x y z rest ih =>
    simp only [sextets, List.length_cons]
    omega

theorem mapM_digit_forUrls {vs : List Nat} (h : ∀ n ∈ vs, n < 64) :
    (vs.map (digit forUrls)).mapM (value? forUrls) = some vs := by
  induction vs with
  | nil => rfl
  | cons n vs ih =>
    rw [List.map_cons, List.mapM_cons, value?_digit_forUrls n (h n List.mem_cons_self),
      ih fun m hm => h m (List.mem_cons_of_mem n hm)]
    rfl

/-- A part of an address is made of letters, digits, hyphens and underscores. -/
theorem notMem_encodeForUrl {c : Char} (h : ∀ n < 64, digit forUrls n ≠ c) (bs : Bytes) :
    c ∉ (encodeForUrl bs).toList := by
  rw [encodeForUrl, String.toList_ofList, encodeWith_forUrls]
  intro hc
  obtain ⟨n, hn, hdigit⟩ := List.mem_map.mp hc
  exact h n (sextets_lt bs n hn) hdigit

/-- **Reading undoes writing** in parts of addresses. -/
theorem decodeUrl?_encodeForUrl (bs : Bytes) : decodeUrl? (encodeForUrl bs).toList = some bs := by
  have hfilled : '=' ∉ (encodeForUrl bs).toList := notMem_encodeForUrl (by decide) bs
  have hkept : ((encodeForUrl bs).toList.reverse.dropWhile (· == '=')).reverse =
      (encodeForUrl bs).toList := by
    cases h : (encodeForUrl bs).toList.reverse with
    | nil => rw [List.dropWhile_nil, ← h, List.reverse_reverse]
    | cons c cs =>
      have hc : c ≠ '=' := by
        rintro rfl
        exact hfilled (List.mem_reverse.mp (h ▸ List.mem_cons_self))
      rw [List.dropWhile_cons_of_neg (by simpa using hc), ← h, List.reverse_reverse]
  rw [decodeUrl?, hkept, encodeForUrl, String.toList_ofList, encodeWith_forUrls,
    mapM_digit_forUrls (sextets_lt bs)]
  simp only [if_neg (length_sextets_ne bs), bytesOf_sextets]

end Sheetflow.Text.Base64
