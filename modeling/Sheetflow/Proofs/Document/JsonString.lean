import Mathlib.Algebra.Group.Nat.Defs
import Mathlib.Data.List.Basic
import Sheetflow.Document.Json.Read
import Sheetflow.Document.Json.Write

/-!
# JSON strings are read back

A string is written character by character, outside ASCII by 16-bit units: one for most characters and
two for those beyond.  `passes_string` says that reading finds the characters again.  Each piece of
the reader is described by the text that it passes and what it gives for it (`Passes`), whatever
stands behind.
-/

namespace Sheetflow.Json

/-! ### Passing a text -/

/-- The reader `p` passes the text `cs` in front of `rest` and gives `a`. -/
def Passes {α : Type} (p : Reading α) (cs rest : List Char) (a : α) : Prop :=
  ∀ n, p.run ⟨n, cs ++ rest⟩ = .ok (a, ⟨n + cs.length, rest⟩)

section Passes
variable {α β : Type} {s t rest : List Char} {a : α} {b : β}

theorem passes_pure (a : α) (rest : List Char) : Passes (pure a) [] rest a := fun _ => rfl

theorem Passes.bind {p : Reading α} {f : α → Reading β} (hp : Passes p s (t ++ rest) a)
    (hf : Passes (f a) t rest b) : Passes (p >>= f) (s ++ t) rest b := by
  intro n
  rw [StateT.run_bind, List.append_assoc, hp n]
  exact (hf _).trans (by rw [List.length_append, Nat.add_assoc])

theorem Passes.run_bind {p : Reading α} (hp : Passes p t rest a) (f : α → Reading β) (n : Nat) :
    (p >>= f).run ⟨n, t ++ rest⟩ = (f a).run ⟨n + t.length, rest⟩ := by
  rw [StateT.run_bind, hp n]
  rfl

theorem run_get_bind (f : Place → Reading α) (p : Place) : (get >>= f).run p = (f p).run p := rfl

/-- Only the last part of a reader passes something. -/
theorem Passes.bind_nil {p : Reading α} {f : α → Reading β} (hp : Passes p [] (t ++ rest) a)
    (hf : Passes (f a) t rest b) : Passes (p >>= f) t rest b := hp.bind hf

/-- Only the first part of a reader passes something. -/
theorem Passes.bind_pure {p : Reading α} (hp : Passes p t rest a) (f : α → β) :
    Passes (do return f (← p)) t rest (f a) := by
  have h : Passes (p >>= fun a => pure (f a)) (t ++ []) rest (f a) := hp.bind (passes_pure _ rest)
  rwa [List.append_nil] at h

theorem passes_skip {k : Nat} (h : t.length = k) (rest : List Char) :
    Passes (skip k) t rest () := by
  intro n
  show Except.ok ((), (⟨n + k, (t ++ rest).drop k⟩ : Place)) = _
  rw [List.drop_left' h, h]

theorem passes_peek (rest : List Char) : Passes peek [] rest rest.head? := fun _ => rfl

theorem passes_expect (c : Char) (cause : Cause) (rest : List Char) :
    Passes (expect c cause) [c] rest () := by
  refine (passes_peek (c :: rest)).bind_nil (t := [c]) ?_
  rw [List.head?_cons, if_pos rfl]
  exact passes_skip rfl rest

/-- There are no blanks to be passed. -/
theorem passes_skipSpace (h : ∀ c ∈ rest.head?, isSpace c = false) :
    Passes skipSpace [] rest () := by
  have hnone : rest.takeWhile isSpace = [] := by
    cases rest with
    | nil => rfl
    | cons c rest => rw [List.takeWhile_cons, h c rfl, if_neg Bool.false_ne_true]
  intro n
  show (skip (rest.takeWhile isSpace).length).run ⟨n, rest⟩ = _
  rw [hnone]
  rfl

end Passes

/-! ### Hexadecimal digits -/

theorem hexValue?_digitChar : ∀ d < 16, hexValue? (Nat.digitChar d) = some d := by decide

/-- The value of hexadecimal digits. -/
def hexNumber (vs : List Nat) : Nat := vs.foldl (fun n v => 16 * n + v) 0

theorem hexNumber_append_singleton (vs : List Nat) (v : Nat) :
    hexNumber (vs ++ [v]) = 16 * hexNumber vs + v := by
  rw [hexNumber, List.foldl_append]
  rfl

theorem exists_hexValues (n : Nat) :
    ∃ vs, (Nat.toDigits 16 n).mapM hexValue? = some vs ∧ hexNumber vs = n := by
  induction n using Nat.strongRecOn with
  | _ n ih =>
    rw [Nat.toDigits_eq_if (by decide)]
    split
    · rename_i hn
      refine ⟨[n], ?_, by simp [hexNumber]⟩
      rw [List.mapM_cons, hexValue?_digitChar n hn]
      rfl
    · obtain ⟨vs, hvs, hn⟩ := ih (n / 16) (by omega)
      refine ⟨vs ++ [n % 16], ?_, by rw [hexNumber_append_singleton, hn]; omega⟩
      rw [List.mapM_append, hvs, List.mapM_cons, hexValue?_digitChar _ (by omega)]
      rfl

/-- Zeros in front do not count. -/
theorem exists_hexValues_padded (k : Nat) {ds : List Char} {vs : List Nat}
    (h : ds.mapM hexValue? = some vs) :
    ∃ vs', (List.replicate k '0' ++ ds).mapM hexValue? = some vs' ∧ hexNumber vs' = hexNumber vs := by
  induction k with
  | zero => exact ⟨vs, h, rfl⟩
  | succ k ih =>
    obtain ⟨vs', hvs', hn⟩ := ih
    refine ⟨0 :: vs', ?_, by rw [← hn]; rfl⟩
    rw [List.replicate_succ, List.cons_append, List.mapM_cons, hvs']
    rfl

theorem length_hex {width n : Nat} (hwidth : 0 < width) (h : n < 16 ^ width) :
    (Text.hex width n).length = width := by
  have hle := (Nat.length_toDigits_le_iff (show 1 < 16 by decide) hwidth).mpr h
  rw [Text.hex, List.length_append, List.length_replicate]
  omega

/-- Four digits are read, if the text does not end with them. -/
theorem passes_fourHex_digits (letter : Nat) {ds rest : List Char} {vs : List Nat}
    (hds : ds.length = 4) (hvs : ds.mapM hexValue? = some vs) (hrest : rest ≠ []) :
    Passes (fourHex letter) ds rest (hexNumber vs) := by
  have htake : (ds ++ rest).take 4 = ds := List.take_left' hds
  have hdrop : (ds ++ rest).drop 4 = rest := List.drop_left' hds
  intro m
  rw [fourHex, run_get_bind]
  simp only [hdrop, htake, hvs, List.isEmpty_eq_false_iff.mpr hrest, Bool.false_eq_true, if_false]
  exact (passes_skip hds rest).bind_pure (fun _ => hexNumber vs) m

theorem passes_fourHex (letter : Nat) {n : Nat} (hn : n < 65536) {rest : List Char}
    (hrest : rest ≠ []) : Passes (fourHex letter) (Text.hex 4 n) rest n := by
  obtain ⟨vs, hvs, hvalue⟩ := exists_hexValues n
  obtain ⟨vs', hvs', hvalue'⟩ := exists_hexValues_padded (4 - (Nat.toDigits 16 n).length) hvs
  have hpasses := passes_fourHex_digits letter (length_hex (by decide) hn) hvs' hrest
  rwa [hvalue', hvalue] at hpasses

/-! ### Characters -/

/-- A unit that is no part of a pair is read as its character. -/
theorem passes_unicodeEscape {c : Char} (hc : c.toNat < 0x10000) {rest : List Char}
    (hrest : rest ≠ []) : Passes unicodeEscape (Text.hex 4 c.toNat) rest c := by
  have hvalid : c.toNat < 0xD800 ∨ 0xDFFF < c.toNat ∧ c.toNat < 0x110000 := c.valid
  intro n
  rw [unicodeEscape, run_get_bind, (passes_fourHex (n - 1) hc hrest).run_bind, run_get_bind]
  have hhigh : ¬ (0xD800 ≤ c.toNat ∧ c.toNat < 0xDC00) := by omega
  have hsurrogate : ¬ (0xD800 ≤ c.toNat ∧ c.toNat < 0xE000) := by omega
  simp only [Bool.and_eq_true, decide_eq_true_eq, hhigh, false_and, if_false, hsurrogate]
  rw [Char.ofNat_toNat]
  rfl

/-- Two units that are a pair are read as one character. -/
theorem passes_unicodeEscape_pair {high low : Nat} {c : Char} (hhigh : 0xD800 ≤ high ∧ high < 0xDC00)
    (hlow : 0xDC00 ≤ low ∧ low < 0xE000)
    (hvalue : 0x10000 + (high - 0xD800) * 1024 + (low - 0xDC00) = c.toNat) {rest : List Char}
    (hrest : rest ≠ []) :
    Passes unicodeEscape (Text.hex 4 high ++ unitEscape low) rest c := by
  have hdigits : (Text.hex 4 low).length = 4 := length_hex (by decide) (by omega)
  have hsecond : ((unitEscape low ++ rest).drop 6).isEmpty = false := by
    rw [unitEscape, List.cons_append, List.cons_append, List.drop_succ_cons, List.drop_succ_cons,
      List.drop_left' hdigits]
    simpa using hrest
  intro n
  rw [unicodeEscape, run_get_bind, List.append_assoc,
    (passes_fourHex (n - 1) (by omega) (by simp [unitEscape])).run_bind, run_get_bind, hsecond,
    if_pos (by simp [hhigh, unitEscape]), show unitEscape low = ['\\', 'u'] ++ Text.hex 4 low from rfl,
    List.append_assoc, (passes_skip (show ['\\', 'u'].length = 2 from rfl) _).run_bind, run_get_bind,
    (passes_fourHex _ (by omega) hrest).run_bind, if_pos (by simp [hlow]), hvalue, Char.ofNat_toNat,
    List.length_append, List.length_append, ← Nat.add_assoc, ← Nat.add_assoc]
  rfl

/-! ### Strings -/

section Rest
variable {start fuel : Nat} {done rest : List Char} {c : Char}

theorem run_stringRest_plain (hquote : c ≠ '"') (hbackslash : c ≠ '\\') (hc : 32 ≤ c.toNat) (n : Nat) :
    (stringRest start done (fuel + 1)).run ⟨n, c :: rest⟩ =
      (stringRest start (c :: done) fuel).run ⟨n + 1, rest⟩ := by
  rw [stringRest, run_get_bind]
  simp only
  split
  · contradiction
  · simp_all
  · simp_all
  · simp_all
  · simp_all
  · rename_i heq
    cases heq
    rw [if_neg (by omega)]
    rfl

theorem run_stringRest_escape {e : Char} (he : escapeOf? e = some c) (n : Nat) :
    (stringRest start done (fuel + 1)).run ⟨n, '\\' :: e :: rest⟩ =
      (stringRest start (c :: done) fuel).run ⟨n + 2, rest⟩ := by
  rw [stringRest, run_get_bind]
  simp only
  split
  · contradiction
  · simp_all
  · simp_all
  · simp_all [escapeOf?]
  · rename_i heq
    cases heq
    rw [he]
    rfl
  · rename_i hne heq
    cases heq
    exact absurd rfl (hne e rest rfl)

theorem run_stringRest_unit {ds : List Char} (hds : Passes unicodeEscape ds rest c) (n : Nat) :
    (stringRest start done (fuel + 1)).run ⟨n, '\\' :: 'u' :: ds ++ rest⟩ =
      (stringRest start (c :: done) fuel).run ⟨n + ('\\' :: 'u' :: ds).length, rest⟩ := by
  rw [stringRest, run_get_bind]
  simp only [List.cons_append]
  rw [show '\\' :: 'u' :: (ds ++ rest) = ['\\', 'u'] ++ (ds ++ rest) from rfl,
    (passes_skip (show ['\\', 'u'].length = 2 from rfl) _).run_bind, hds.run_bind, List.length_cons,
    List.length_cons, List.length_cons, List.length_cons, List.length_nil, Nat.zero_add, Nat.add_assoc n,
    Nat.add_comm 2 ds.length]

theorem run_stringRest_pair {high low : Nat} (hhigh : 0xD800 ≤ high ∧ high < 0xDC00)
    (hlow : 0xDC00 ≤ low ∧ low < 0xE000)
    (hvalue : 0x10000 + (high - 0xD800) * 1024 + (low - 0xDC00) = c.toNat) (hrest : rest ≠ [])
    (n : Nat) :
    (stringRest start done (fuel + 1)).run ⟨n, unitEscape high ++ unitEscape low ++ rest⟩ =
      (stringRest start (c :: done) fuel).run
        ⟨n + (unitEscape high ++ unitEscape low).length, rest⟩ :=
  run_stringRest_unit (passes_unicodeEscape_pair hhigh hlow hvalue hrest) n

/-- **A character is read as it was written.** -/
theorem run_stringRest_escapeChar (c : Char) (hrest : rest ≠ []) (n : Nat) :
    (stringRest start done (fuel + 1)).run ⟨n, escapeChar c ++ rest⟩ =
      (stringRest start (c :: done) fuel).run ⟨n + (escapeChar c).length, rest⟩ := by
  have hvalid : c.toNat < 0xD800 ∨ 0xDFFF < c.toNat ∧ c.toNat < 0x110000 := c.valid
  have hnumber (k : Nat) (h : c.toNat = k) : Char.ofNat k = c := by rw [← h, Char.ofNat_toNat]
  unfold escapeChar
  simp only
  split_ifs with hquoted hline hreturn htab hback hfeed hplain hunit
  · rcases Bool.or_eq_true_iff.mp hquoted with h | h <;> rw [of_decide_eq_true h]
    · exact run_stringRest_escape rfl n
    · exact run_stringRest_escape rfl n
  · rw [hline]
    exact run_stringRest_escape rfl n
  · rw [hreturn]
    exact run_stringRest_escape rfl n
  · rw [htab]
    exact run_stringRest_escape rfl n
  · rw [← hnumber 8 hback]
    exact run_stringRest_escape rfl n
  · rw [← hnumber 12 hfeed]
    exact run_stringRest_escape rfl n
  · simp only [Bool.or_eq_true, decide_eq_true_eq, not_or] at hquoted
    simp only [Bool.and_eq_true, decide_eq_true_eq] at hplain
    exact run_stringRest_plain hquoted.1 hquoted.2 hplain.1 n
  · exact run_stringRest_unit (passes_unicodeEscape hunit hrest) n
  · refine run_stringRest_pair ?_ ?_ ?_ hrest n <;> omega

end Rest

/-- The characters of a string are read up to the closing quote. -/
theorem run_stringRest (start : Nat) (done cs rest : List Char) (fuel n : Nat)
    (hfuel : cs.length < fuel) :
    (stringRest start done fuel).run ⟨n, cs.flatMap escapeChar ++ '"' :: rest⟩ =
      .ok (String.ofList (done.reverse ++ cs), ⟨n + (cs.flatMap escapeChar).length + 1, rest⟩) := by
  induction cs generalizing done fuel n with
  | nil =>
    obtain ⟨k, rfl⟩ := Nat.exists_eq_succ_of_ne_zero (Nat.ne_of_gt hfuel)
    rw [List.append_nil]
    rfl
  | cons c cs ih =>
    obtain ⟨k, rfl⟩ := Nat.exists_eq_succ_of_ne_zero (show fuel ≠ 0 by omega)
    rw [List.flatMap_cons, List.append_assoc, run_stringRest_escapeChar c (by simp),
      ih (c :: done) k _ (by simpa using hfuel), List.reverse_cons, List.append_assoc,
      List.length_append, ← Nat.add_assoc]
    rfl

theorem one_le_length_escapeChar (c : Char) : 1 ≤ (escapeChar c).length := by
  unfold escapeChar
  simp only
  split_ifs
  all_goals exact Nat.le_add_left 1 _

theorem length_le_flatMap_escapeChar (cs : List Char) :
    cs.length ≤ (cs.flatMap escapeChar).length := by
  induction cs with
  | nil => exact Nat.le_refl 0
  | cons c cs ih =>
    have := one_le_length_escapeChar c
    rw [List.flatMap_cons, List.length_append, List.length_cons]
    omega

/-- **A string is read as it was written.** -/
theorem passes_string (s : String) (rest : List Char) :
    Passes string (stringText s).toList rest s := by
  intro n
  have hlength := length_le_flatMap_escapeChar s.toList
  have htext : (stringText s).toList ++ rest =
      ['"'] ++ (s.toList.flatMap escapeChar ++ '"' :: rest) := by simp [stringText]
  have hend : n + (stringText s).toList.length =
      n + 1 + (s.toList.flatMap escapeChar).length + 1 := by
    simp only [stringText, String.toList_ofList, List.length_cons, List.length_append, List.length_nil]
    omega
  rw [htext, hend, string, run_get_bind, (passes_skip (show ['"'].length = 1 from rfl) _).run_bind,
    run_stringRest, List.reverse_nil, List.nil_append, String.ofList_toList]
  · rfl
  · simp only [List.length_append, List.length_cons]
    omega

end Sheetflow.Json
