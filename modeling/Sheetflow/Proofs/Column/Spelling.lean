import Sheetflow.Proofs.Column.Header
import Sheetflow.Proofs.Column.Place
import Sheetflow.Proofs.Text.Trim

/-!
# Spellings of a column

A column has many names: its index with or without zeros in front, its letter code in capitals and small
letters (`Column.Spells`), and its header text, each with blanks around it.  All of them resolve to it
(`ColumnRef.spellings_agree`), but for two things.  A name that is a numeral or a letter code within the
width is never looked up among the headers; and a header text that heads several columns stands for the
first of them.

The letters of a code are the digits of a number to base 26 without a zero, so reading them with their
weights gives the number back (`Column.numberOf?_lettersOf`); the numbers of columns have at most three
(`Column.length_lettersOf_le`).
-/

namespace Sheetflow

attribute [local irreducible] normalText

namespace Column

/-! ### Letter codes -/

theorem letterValue?_ofNat {d : Nat} (h : d < 26) : letterValue? (Char.ofNat (65 + d)) = some (d + 1) := by
  decide +revert

theorem lettersOf_of_pos {n : Nat} (h : n ≠ 0) :
    lettersOf n = lettersOf ((n - 1) / 26) ++ [Char.ofNat (65 + (n - 1) % 26)] := by
  rw [lettersOf, if_neg h]

/-- The letters of a number, read with their weights, give the number back. -/
theorem numberOf?_lettersOf (n weight : Nat) :
    numberOf? weight (lettersOf n).reverse = some (n * weight) := by
  induction n using Nat.strongRecOn generalizing weight with
  | ind n ih =>
    by_cases hn : n = 0
    · rw [hn, lettersOf, if_pos rfl, Nat.zero_mul]
      rfl
    · have hnumber : (n - 1) % 26 + 1 + (n - 1) / 26 * 26 = n := by omega
      rw [lettersOf_of_pos hn, List.reverse_append, List.reverse_singleton, List.singleton_append,
        numberOf?, letterValue?_ofNat (Nat.mod_lt _ (by decide)), ih _ (by omega)]
      show some (((n - 1) % 26 + 1) * weight + (n - 1) / 26 * (26 * weight)) = some (n * weight)
      rw [← Nat.mul_assoc, ← Nat.add_mul, hnumber]

/-- The letters of a number are from A to Z. -/
theorem toNat_of_mem_lettersOf {n : Nat} {c : Char} (h : c ∈ lettersOf n) :
    65 ≤ c.toNat ∧ c.toNat ≤ 90 := by
  induction n using Nat.strongRecOn with
  | ind n ih =>
    by_cases hn : n = 0
    · rw [hn, lettersOf, if_pos rfl] at h
      cases h
    · rw [lettersOf_of_pos hn] at h
      rcases List.mem_append.mp h with h | h
      · exact ih _ (by omega) h
      · have hd : (n - 1) % 26 < 26 := Nat.mod_lt _ (by decide)
        rw [List.mem_singleton.mp h]
        generalize (n - 1) % 26 = d at hd
        decide +revert

theorem length_lettersOf_le {n : Nat} (h : n ≤ count) : (lettersOf n).length ≤ 3 := by
  have hstep {n k : Nat} (hdiv : (lettersOf ((n - 1) / 26)).length ≤ k) :
      (lettersOf n).length ≤ k + 1 := by
    by_cases hn : n = 0
    · rw [hn, lettersOf, if_pos rfl]
      exact Nat.zero_le _
    · rw [lettersOf_of_pos hn, List.length_append, List.length_singleton]
      exact Nat.succ_le_succ hdiv
  refine hstep (hstep (hstep ?_))
  have hzero : ((((n - 1) / 26 - 1) / 26) - 1) / 26 = 0 := by
    unfold count at h
    omega
  rw [hzero, lettersOf, if_pos rfl]
  exact Nat.le_refl 0

theorem ofIndex_eq_ok_iff {i : Nat} {code : String} :
    ofIndex i = .ok code ↔ i < count ∧ code = String.ofList (lettersOf (i + 1)) := by
  have hnonneg : ¬ ((i : Int) < 0) := by omega
  rw [ofIndex, if_neg hnonneg]
  show (if count < i + 1 then _ else _) = _ ↔ _
  by_cases hi : i < count
  · rw [if_neg (Nat.not_lt.mpr hi), Except.ok.injEq, and_iff_right hi, eq_comm, Int.toNat_natCast]
  · rw [if_pos (Nat.lt_succ_of_le (Nat.le_of_not_lt hi))]
    exact ⟨nofun, fun h => absurd h.1 hi⟩

/-! ### Spellings -/

/-- The characters spell the index of a column: they are the index in decimal, perhaps with zeros in
front, or its letter code in letters of any case. -/
inductive Spells (i : Nat) : List Char → Prop
  | numeral {zeros : Nat} (short : (List.replicate zeros '0' ++ Nat.toDigits 10 i).length ≤ digitLimit) :
      Spells i (List.replicate zeros '0' ++ Nat.toDigits 10 i)
  | letters {code : String} {cs : List Char} (written : ofIndex i = .ok code)
      (capitals : cs.map Char.toUpper = code.toList) : Spells i cs

variable {i : Nat} {cs : List Char}

/-- A code in letters of any case is a letter code, and is read as its index. -/
theorem indexOf_of_toUpper {code : String} (h : ofIndex i = .ok code)
    (hcs : cs.map Char.toUpper = code.toList) :
    (∀ c ∈ cs, Text.isAsciiLetter c = true) ∧ isLetterCode (String.ofList cs) = true ∧
      indexOf (String.ofList cs) = .ok i := by
  obtain ⟨hi, rfl⟩ := ofIndex_eq_ok_iff.mp h
  rw [String.toList_ofList] at hcs
  have hletters (c : Char) (hc : c ∈ cs) : Text.isAsciiLetter c = true :=
    Text.isAsciiLetter_of_toUpper (toNat_of_mem_lettersOf (hcs ▸ List.mem_map_of_mem hc))
  have hlength : cs.length ≤ 3 := by
    rw [← List.length_map Char.toUpper, hcs]
    exact length_lettersOf_le hi
  have hcapitals : cs.flatMap Text.capitals = lettersOf (i + 1) := by
    rw [← hcs, List.map_eq_flatMap]
    exact List.flatMap_congr fun c hc => Text.capitals_of_isAsciiLetter (hletters c hc)
  have hne : cs ≠ [] := by
    rintro rfl
    rw [lettersOf_of_pos (Nat.succ_ne_zero i)] at hcs
    simp at hcs
  refine ⟨hletters, ?_, ?_⟩
  · simpa [isLetterCode, hlength, hne] using hletters
  · have htake : (lettersOf (i + 1)).reverse.take 3 = (lettersOf (i + 1)).reverse :=
      List.take_of_length_le (by rw [List.length_reverse]; exact length_lettersOf_le hi)
    rw [indexOf, String.toList_ofList, if_neg (Nat.not_lt.mpr hlength), hcapitals, htake,
      numberOf?_lettersOf, Nat.mul_one]

/-- **A spelling with blanks around it names its column by its place.** -/
theorem Spells.place? (h : Spells i cs) {width : Nat} (hi : i < width) {before after : List Char}
    (hbefore : ∀ c ∈ before, Text.isBlank c = true) (hafter : ∀ c ∈ after, Text.isBlank c = true) :
    place? width (String.ofList (before ++ cs ++ after)) = some i := by
  cases h with
  | @numeral zeros hshort =>
    have hdigits : ∀ c ∈ List.replicate zeros '0' ++ Nat.toDigits 10 i, Text.isAsciiDigit c = true :=
      Text.isAsciiDigit_of_mem_zeros
    have htrim := Text.trim_surrounded hbefore hafter fun c hc => Text.isBlank_of_isAsciiDigit (hdigits c hc)
    have hnumeral : isNumeral (String.ofList (List.replicate zeros '0' ++ Nat.toDigits 10 i)) = true := by
      simp only [isNumeral, String.toList_ofList, hshort, decide_true, Bool.and_true, Bool.and_eq_true,
        Bool.not_eq_true', List.all_eq_true]
      refine ⟨?_, fun c hc => Text.isDigit_of_isAsciiDigit (hdigits c hc)⟩
      rw [List.isEmpty_eq_false_iff]
      exact List.append_ne_nil_of_right_ne_nil _ Nat.toDigits_ne_nil
    rw [Column.place?, htrim, if_pos hnumeral, String.toList_ofList, Text.numeralValue_zeros]
  | letters hcode hcs =>
    obtain ⟨hletters, hisCode, hindex⟩ := indexOf_of_toUpper hcode hcs
    have htrim := Text.trim_surrounded hbefore hafter
      fun c hc => Text.isBlank_of_isAsciiLetter (hletters c hc)
    have hnumeral : isNumeral (String.ofList cs) = false := by
      rw [isNumeral, not_all_isDigit_of_isLetterCode hisCode, Bool.and_false, Bool.false_and]
    rw [Column.place?, htrim, if_neg (by rw [hnumeral]; decide), if_pos hisCode, hindex]
    simp [Except.toOption, hi]

end Column

/-! ### Header texts -/

namespace ColumnRef
variable {m : Matrix} {i : Nat} {c : Cell} {name : String}

/-- A name that is neither a numeral nor a letter code within the width is looked up among the headers, and
if it is there it stands for that column. -/
theorem resolveText_of_find? {headers : Headers} {width k : Nat} {text : String} (hne : text ≠ "")
    (hnumeral : text.toList.all Text.isDigit = false)
    (hcode : ∀ j, Column.isLetterCode text = true → Column.indexOf text = .ok j → width ≤ j)
    (hfind : headers.find? (Text.lower text) = some k) :
    resolveText headers (some width) text = .ok (some k) := by
  have hempty : text.toList.isEmpty = false := by
    rw [List.isEmpty_eq_false_iff, ne_eq, String.toList_eq_nil_iff]
    exact hne
  simp only [resolveText, hempty, hnumeral, hfind, Bool.false_eq_true, if_false]
  split
  · next hletters =>
    cases hindex : Column.indexOf text with
    | error e => rfl
    | ok j =>
      have hshort : text.toList.length ≤ 3 := by
        by_contra hlong
        rw [Column.indexOf_of_long (Nat.lt_of_not_le hlong)] at hindex
        cases hindex
      have hisCode : Column.isLetterCode text = true := by
        simp [Column.isLetterCode, hempty, hshort, hletters]
      have hj : ¬ j < width := Nat.not_lt.mpr (hcode j hisCode hindex)
      simp only [Option.all_some, hj, decide_false, Bool.false_eq_true, if_false, Option.getD_some]
  · rfl

/-- A name with a header text stands for the first column with this text, unless it names a column by its
place. -/
theorem exists_resolve_of_header (hc : (m.head?.getD [])[i]? = some c) (hblank : c.isBlank = false)
    (hname : normalText name = c.key) (hnumeral : (Text.trim name).toList.all Text.isDigit = false)
    (hcode : ∀ j, Column.isLetterCode (Text.trim name) = true →
      Column.indexOf (Text.trim name) = .ok j → m.width ≤ j) :
    ∃ k ≤ i, (ColumnRef.text name).resolve (.ofMatrix m) (some m.width) = .ok (some k) ∧
      Row.IsFirst (m.head?.getD []) c.key k := by
  obtain ⟨hi, hget⟩ := List.getElem?_eq_some_iff.mp hc
  have hcell : Row.cell (m.head?.getD []) i = c := by rw [Row.cell, hc, Option.getD_some]
  obtain ⟨k, hk⟩ := Row.exists_isFirst hi (congrArg Cell.key hcell)
  have hkey : c.key ≠ "" := fun he => by
    rw [c.key_eq_empty_iff.mp he] at hblank
    cases hblank
  have hlower : Text.lower (Text.trim name) = c.key := by rw [← hname, normalText]
  have hne : Text.trim name ≠ "" := fun he =>
    hkey (hlower.symm.trans ((Text.lower_eq_empty_iff _).mpr he))
  refine ⟨k, Nat.le_of_not_lt fun hlt => hk.2.2 i hlt (congrArg Cell.key hcell), ?_, hk⟩
  rw [resolve]
  refine resolveText_of_find? hne hnumeral hcode ?_
  rw [hlower]
  exact (Headers.areOf_ofMatrix m c.key k).mpr ⟨hkey, hk⟩

/-- **All spellings of a column agree.**  The index in decimal and the letter code, which the columns up to
`ZZZ` have, resolve to the column, in letters of any case, with zeros in front and blanks around.  Any other
name with the text of its header resolves to the first column with this text. -/
theorem spellings_agree (m : Matrix) :
    (∀ i < m.width, (i < Column.count → ∃ code, Column.ofIndex i = .ok code) ∧
      ∀ before cs after, (∀ c ∈ before, Text.isBlank c = true) → Column.Spells i cs →
        (∀ c ∈ after, Text.isBlank c = true) →
        (ColumnRef.text (String.ofList (before ++ cs ++ after))).resolve (.ofMatrix m) (some m.width) =
          .ok (some i)) ∧
      ∀ i c name, (m.head?.getD [])[i]? = some c → c.isBlank = false → normalText name = c.key →
        (Text.trim name).toList.all Text.isDigit = false →
        (∀ j, Column.isLetterCode (Text.trim name) = true →
          Column.indexOf (Text.trim name) = .ok j → m.width ≤ j) →
        ∃ k ≤ i, (ColumnRef.text name).resolve (.ofMatrix m) (some m.width) = .ok (some k) ∧
          Row.IsFirst (m.head?.getD []) c.key k := by
  refine ⟨fun i hi => ⟨fun hcount => ⟨_, Column.ofIndex_eq_ok_iff.mpr ⟨hcount, rfl⟩⟩, ?_⟩, ?_⟩
  · intro before cs after hbefore hcs hafter
    exact resolve_of_place? (hcs.place? hi hbefore hafter) _
  · intro i c name hc hblank hname hnumeral hcode
    exact exists_resolve_of_header hc hblank hname hnumeral hcode

/-- The third column has the header text of the first. -/
theorem spellings_agree_header_twice :
    let m : Matrix := [[.text " Status ", .text "b", .text "STATUS"], [.int 1]]
    let target (name : String) := (ColumnRef.text name).resolve (.ofMatrix m) (some m.width)
    2 < m.width ∧ target "\t002 " = .ok (some 2) ∧ target " c" = .ok (some 2) ∧
      Cell.isBlank (.text "STATUS") = false ∧ normalText "status\n" = Cell.key (.text "STATUS") ∧
      ∃ k ≤ 2, target "status\n" = .ok (some k) ∧ k = 0 := by
  intro m target
  obtain ⟨hplaces, hheaders⟩ := spellings_agree m
  have hspells : Column.Spells 2 (List.replicate 2 '0' ++ Nat.toDigits 10 2) := .numeral (by decide)
  have hcode : Column.ofIndex 2 = .ok "C" := by decide +kernel
  have htab : ∀ c ∈ ['\t'], Text.isBlank c = true := List.forall_mem_singleton.mpr (by decide)
  have hspace : ∀ c ∈ [' '], Text.isBlank c = true := List.forall_mem_singleton.mpr (by decide)
  have hnumeral := (hplaces 2 (by decide)).2 ['\t'] _ [' '] htab hspells hspace
  have hletter := (hplaces 2 (by decide)).2 [' '] ['c'] [] hspace (.letters hcode (by decide)) nofun
  obtain ⟨k, hk, htarget, hfirst⟩ := hheaders 2 (.text "STATUS") "status\n" rfl (by decide +kernel)
    (by decide +kernel) (by decide +kernel) fun _ hcode => absurd hcode (by decide +kernel)
  have htext : String.ofList (['\t'] ++ (List.replicate 2 '0' ++ Nat.toDigits 10 2) ++ [' ']) = "\t002 " := by
    decide
  have hfirst' : Row.IsFirst (m.head?.getD []) (Cell.key (.text "STATUS")) 0 :=
    ⟨by decide, by decide +kernel, nofun⟩
  rw [htext] at hnumeral
  exact ⟨by decide, hnumeral, hletter, by decide +kernel, by decide +kernel, k, hk, htarget,
    hfirst.unique hfirst'⟩

end ColumnRef

end Sheetflow
