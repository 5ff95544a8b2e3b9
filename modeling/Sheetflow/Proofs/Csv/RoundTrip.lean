import Sheetflow.Csv.Encoding
import Sheetflow.Csv.Writer
import Sheetflow.File.Read
import Sheetflow.Proofs.Text.Utf8

/-!
# Written text is read back in normal form

`Csv.write` quotes what a comma, a quote or a line break would make ambiguous,
and `Csv.read` takes the text apart one character at a time.  This file follows
the reader over what the writer wrote, from the inside out:

* `feed_field`: over a written field, from the start of a field, the reader
  collects the text of the field and stands where a separator ends it.
* `feed_line`: over a written row, from the start of a record, it collects the
  record of the row (`recordOf`).  A row of one empty field is written as
  nothing, so its record has no fields.
* `feed_lines`: over written rows it collects their records.  An empty record at
  the end of the text is not noticed.

What is lost on the way, empty fields at the end of a row and empty rows at the
end of the matrix, is what `Matrix.normalize` leaves out (`toMatrix_recordOf`),
so reading undoes writing up to normal forms (`read_write`), also through the
bytes of a file (`readDelimited_encode_write`).
-/

namespace Sheetflow.Csv

/-! ### What must be quoted -/

/-- A character that stands for itself outside quotes. -/
def IsOrdinary (c : Char) : Prop := c ≠ ',' ∧ c ≠ '"' ∧ c ≠ '\n' ∧ c ≠ '\r'

theorem occursIn_singleton (d : Char) (text : List Char) :
    Text.occursIn [d] text = true ↔ d ∈ text := by
  rw [Text.occursIn_iff]
  constructor
  · rintro ⟨s, t, rfl⟩
    simp
  · intro h
    obtain ⟨s, t, rfl⟩ := List.append_of_mem h
    exact ⟨s, t, by simp⟩

theorem isOrdinary_of_needsQuotes {text : List Char} (h : needsQuotes [','] text ≠ true) :
    ∀ c ∈ text, IsOrdinary c := by
  simp only [needsQuotes, ne_eq, Bool.or_eq_true, occursIn_singleton,
    List.contains_iff_mem, not_or] at h
  intro c hc
  exact ⟨fun e => h.1.1.1 (e ▸ hc), fun e => h.1.1.2 (e ▸ hc), fun e => h.1.2 (e ▸ hc),
    fun e => h.2 (e ▸ hc)⟩

namespace Reader

/-! ### Runs of the reader -/

theorem feed_append {r r' : Reader} {xs : List Char} (h : r.feed xs = .ok r') (ys : List Char) :
    r.feed (xs ++ ys) = r'.feed ys := by
  induction xs generalizing r with
  | nil =>
    injection h with h
    rw [List.nil_append, h]
  | cons c cs ih =>
    rw [List.cons_append, feed]
    rw [feed] at h
    cases hs : r.step c with
    | error e => rw [hs] at h; cases h
    | ok r1 => rw [hs] at h; exact ih h

theorem feed_cons {r r' : Reader} {c : Char} (h : r.step c = .ok r') (cs : List Char) :
    r.feed (c :: cs) = r'.feed cs := by
  rw [feed, h]

theorem lineEnd?_of_isOrdinary {c : Char} (h : IsOrdinary c) : lineEnd? c = none := by
  rw [lineEnd?, if_neg h.2.2.1, if_neg h.2.2.2]

theorem addChar_of_lt {r : Reader} (h : r.size < fieldLimit) (mode : Mode) (c : Char) :
    r.addChar mode c = .ok { r with mode, field := c :: r.field, size := r.size + 1 } :=
  if_neg (Nat.not_le.mpr h)

/-- Outside quotes, ordinary characters join the field one by one. -/
theorem feed_plain {cs : List Char} (hcs : ∀ c ∈ cs, IsOrdinary c) {r : Reader}
    (hm : r.mode = .plain) (hs : r.size + cs.length ≤ fieldLimit) :
    r.feed cs = .ok { r with field := cs.reverse ++ r.field, size := r.size + cs.length } := by
  induction cs generalizing r with
  | nil => rfl
  | cons c cs ih =>
    have hc := hcs c List.mem_cons_self
    rw [List.length_cons] at hs
    have hstep : r.step c = .ok { r with field := c :: r.field, size := r.size + 1 } := by
      simp only [step, hm, lineEnd?_of_isOrdinary hc, if_neg hc.1]
      rw [addChar_of_lt (by omega), ← hm]
    rw [feed_cons hstep, ih (fun x hx => hcs x (List.mem_cons_of_mem _ hx))]
    · simp only [List.reverse_cons, List.append_assoc, List.singleton_append, List.length_cons,
        Nat.add_right_comm, ← Nat.add_assoc]
    · exact hm
    · simp only; omega

/-- Inside quotes, any text written with its quotes doubled joins the field. -/
theorem feed_doubleQuotes (cs : List Char) {r : Reader} (hm : r.mode = .quoted)
    (hs : r.size + cs.length ≤ fieldLimit) :
    r.feed (doubleQuotes cs) =
      .ok { r with field := cs.reverse ++ r.field, size := r.size + cs.length } := by
  induction cs generalizing r with
  | nil => rfl
  | cons c cs ih =>
    rw [List.length_cons] at hs
    have hadd : r.addChar .quoted c = .ok { r with field := c :: r.field, size := r.size + 1 } := by
      rw [addChar_of_lt (by omega), ← hm]
    have hrest : Reader.feed { r with field := c :: r.field, size := r.size + 1 }
        (doubleQuotes cs) = .ok
          { r with field := (c :: cs).reverse ++ r.field, size := r.size + (c :: cs).length } := by
      rw [ih]
      · simp only [List.reverse_cons, List.append_assoc, List.singleton_append, List.length_cons,
          Nat.add_right_comm, ← Nat.add_assoc]
      · exact hm
      · simp only; omega
    by_cases hc : c = '"'
    · have h1 : r.step '"' = .ok { r with mode := .quoteSeen } := by
        simp only [step, hm, if_true]
      have h2 : Reader.step { r with mode := .quoteSeen } '"' =
          .ok { r with field := c :: r.field, size := r.size + 1 } := by
        rw [← hadd, hc]
        simp only [step, if_true]
        rfl
      rw [doubleQuotes, if_pos hc, feed_cons h1, feed_cons h2, hrest]
    · have h1 : r.step c = .ok { r with field := c :: r.field, size := r.size + 1 } := by
        simp only [step, hm, if_neg hc, hadd]
      rw [doubleQuotes, if_neg hc, feed_cons h1, hrest]

/-! ### One field -/

/-- The reader stands at the start of a field. -/
def AtStart (r : Reader) : Prop :=
  (r.mode = .recordStart ∨ r.mode = .fieldStart) ∧ r.field = [] ∧ r.size = 0

/-- The reader stands where a separator ends a field, be it an empty one. -/
def IsOpen (r : Reader) : Prop := r.mode = .plain ∨ r.mode = .quoteSeen ∨ r.mode = .fieldStart

theorem step_comma {r : Reader} (h : r.IsOpen ∨ r.mode = .recordStart) :
    r.step ',' = .ok r.endField := by
  rcases h with (h | h | h) | h <;> simp [step, h, atRecordStart, atFieldStart, lineEnd?]

theorem step_lineFeed {r : Reader} (h : r.IsOpen) :
    r.step '\n' = .ok (r.endField.endRecord .recordStart) := by
  rcases h with h | h | h <;> simp [step, h, atFieldStart, lineEnd?]

theorem finish_of_isOpen {r : Reader} (h : r.IsOpen) :
    r.finish = (r.endField.endRecord .recordStart).records.reverse := by
  rcases h with h | h | h <;> simp only [finish, h]

theorem step_quote {r : Reader} (h : r.AtStart) : r.step '"' = .ok { r with mode := .quoted } := by
  rcases h.1 with h | h <;> simp [step, h, atRecordStart, atFieldStart, lineEnd?]

theorem step_ordinary {r : Reader} (h : r.AtStart) {c : Char} (hc : IsOrdinary c) :
    r.step c = .ok { r with mode := .plain, field := [c], size := 1 } := by
  have hlt : r.size < fieldLimit := by rw [h.2.2]; decide
  have hadd := addChar_of_lt hlt .plain c
  rw [h.2.1, h.2.2] at hadd
  rcases h.1 with h | h <;>
    simp only [step, h, atRecordStart, atFieldStart, lineEnd?_of_isOrdinary hc, if_neg hc.1,
      if_neg hc.2.1, hadd]

/-- **A written field is read as its text**: behind it the reader is open with
that text, unless the text is empty and nothing was written at the start of a record. -/
theorem feed_field {r : Reader} (h : r.AtStart) {text : List Char}
    (hlen : text.length ≤ fieldLimit) :
    ∃ r', r.feed (Csv.field [','] text) = .ok r' ∧
      r'.endField = { r with mode := .fieldStart, record := String.ofList text :: r.record } ∧
      (r'.IsOpen ∨ r' = r ∧ r.mode = .recordStart ∧ text = []) := by
  by_cases hq : needsQuotes [','] text = true
  · refine ⟨{ r with mode := .quoteSeen, field := text.reverse, size := text.length }, ?_, ?_, ?_⟩
    · rw [Csv.field, if_pos hq, feed_cons (step_quote h),
        feed_append (feed_doubleQuotes text rfl (by simp only [h.2.2]; omega))]
      simp only [h.2.1, h.2.2, List.append_nil, Nat.zero_add]
      rfl
    · simp [endField, h.2.1, h.2.2]
    · exact .inl (.inr (.inl rfl))
  rw [Csv.field, if_neg hq]
  have hord := isOrdinary_of_needsQuotes hq
  cases text with
  | nil =>
    refine ⟨r, rfl, ?_, ?_⟩
    · simp [endField, h.2.1, h.2.2]
    · rcases h.1 with hm | hm
      · exact .inr ⟨rfl, hm, rfl⟩
      · exact .inl (.inr (.inr hm))
  | cons c cs =>
    rw [List.length_cons] at hlen
    refine ⟨{ r with mode := .plain, field := (c :: cs).reverse, size := (c :: cs).length },
      ?_, ?_, ?_⟩
    · rw [feed_cons (step_ordinary h (hord c List.mem_cons_self)),
        feed_plain (fun x hx => hord x (List.mem_cons_of_mem _ hx)) rfl (by simp only; omega)]
      simp only [List.reverse_cons, List.length_cons, Nat.add_comm]
    · simp [endField, h.2.1, h.2.2]
    · exact .inl (.inl rfl)

/-! ### One line -/

/-- The fields of a line, one after the other. -/
theorem feed_fields (t : List Char) (ts : List (List Char)) {r : Reader} (h : r.AtStart)
    (hlen : ∀ x ∈ t :: ts, x.length ≤ fieldLimit) :
    ∃ r', r.feed (join [','] ((t :: ts).map (Csv.field [',']))) = .ok r' ∧
      r'.endField =
        { r with
          mode := .fieldStart, record := ((t :: ts).map String.ofList).reverse ++ r.record } ∧
      (r'.IsOpen ∨ r' = r ∧ r.mode = .recordStart ∧ t :: ts = [[]]) := by
  induction ts generalizing t r with
  | nil =>
    obtain ⟨r', hfeed, hend, hopen⟩ := feed_field h (hlen t List.mem_cons_self)
    refine ⟨r', hfeed, hend, hopen.imp_right fun ⟨h1, h2, h3⟩ => ⟨h1, h2, by rw [h3]⟩⟩
  | cons t2 ts ih =>
    obtain ⟨r1, hfeed, hend, hopen⟩ := feed_field h (hlen t List.mem_cons_self)
    have hcomma : r1.step ',' = .ok r1.endField :=
      step_comma (hopen.imp_right fun ⟨h1, h2, _⟩ => h1 ▸ h2)
    have hstart : r1.endField.AtStart := by
      rw [hend]
      exact ⟨.inr rfl, h.2⟩
    obtain ⟨r', hfeed', hend', hopen'⟩ :=
      ih t2 hstart fun x hx => hlen x (List.mem_cons_of_mem _ hx)
    refine ⟨r', ?_, ?_, .inl (hopen'.resolve_right fun ⟨_, h2, _⟩ => ?_)⟩
    · rw [List.map_cons, List.map_cons, join, List.append_assoc, feed_append hfeed,
        List.singleton_append, feed_cons hcomma]
      exact hfeed'
    · rw [hend', hend]
      simp
    · rw [hend] at h2
      cases h2

end Reader

/-- The record that the line of a row is read as: an empty field that stands
alone cannot be told from a line without fields. -/
def recordOf (row : Row) : List String :=
  if row.map Cell.toText = [""] then [] else row.map Cell.toText

theorem line_of_recordOf_eq_nil {row : Row} (h : recordOf row = []) : line [','] row = [] := by
  cases row with
  | nil => rfl
  | cons c cs =>
    by_cases hr : (c :: cs).map Cell.toText = [""]
    · obtain ⟨d, hd, ht⟩ := List.map_eq_singleton_iff.mp hr
      rw [hd, line, List.map_singleton, ht]
      rfl
    · rw [recordOf, if_neg hr] at h
      cases h

theorem recordOf_of_ne_nil {row : Row} (h : recordOf row ≠ []) :
    recordOf row = row.map Cell.toText ∧ row.map Cell.toText ≠ [""] := by
  by_cases hr : row.map Cell.toText = [""]
  · exact absurd (if_pos hr) h
  · exact ⟨if_neg hr, hr⟩

namespace Reader

/-- The reader at the start of a record, after some records. -/
def behind (records : List (List String)) : Reader := { fresh with records }

/-- **A written row is read as its record**, be it ended by a line feed or by the end of the text;
at the end of the text an empty record is not noticed. -/
theorem feed_line {row : Row} (hlen : ∀ c ∈ row, c.toText.length ≤ fieldLimit)
    (records : List (List String)) :
    ∃ r, (behind records).feed (line [','] row) = .ok r ∧
      r.step '\n' = .ok (behind (recordOf row :: records)) ∧
      r.finish = (if recordOf row = [] then records else recordOf row :: records).reverse := by
  by_cases hr : recordOf row = []
  · rw [line_of_recordOf_eq_nil hr, if_pos hr, hr]
    exact ⟨_, rfl, rfl, rfl⟩
  obtain ⟨htexts, hne⟩ := recordOf_of_ne_nil hr
  obtain ⟨c, cs, rfl⟩ := List.exists_cons_of_ne_nil (l := row) fun h => hr (by rw [h]; rfl)
  have hlen' : ∀ x ∈ c.toText.toList :: cs.map (·.toText.toList), x.length ≤ fieldLimit := by
    intro x hx
    rcases List.mem_cons.mp hx with rfl | hx
    · exact hlen c List.mem_cons_self
    · obtain ⟨d, hd, rfl⟩ := List.mem_map.mp hx
      exact hlen d (List.mem_cons_of_mem _ hd)
  obtain ⟨r, hfeed, hend, hopen⟩ :=
    feed_fields _ _ (r := behind records) ⟨.inl rfl, rfl, rfl⟩ hlen'
  have hopen : r.IsOpen := by
    refine hopen.resolve_right fun ⟨_, _, h⟩ => hne ?_
    simpa using h
  have hrecord : r.endField.endRecord .recordStart = behind (recordOf (c :: cs) :: records) := by
    rw [hend, htexts]
    simp [endRecord, behind, fresh, Function.comp_def]
  refine ⟨r, ?_, by rw [step_lineFeed hopen, hrecord], ?_⟩
  · rw [line, List.map_cons]
    simpa [Function.comp_def] using hfeed
  · rw [finish_of_isOpen hopen, hrecord, if_neg hr]
    rfl

/-! ### All lines -/

/-- **Written rows are read as their records**, an empty record at the end apart. -/
theorem feed_lines (row : Row) (rows : List Row)
    (hlen : ∀ x ∈ row :: rows, ∀ c ∈ x, c.toText.length ≤ fieldLimit)
    (records : List (List String)) :
    ∃ r, (behind records).feed (join ['\n'] ((row :: rows).map (line [',']))) = .ok r ∧
      (r.finish = records.reverse ++ (row :: rows).map recordOf ∨
        r.finish ++ [[]] = records.reverse ++ (row :: rows).map recordOf) := by
  induction rows generalizing row records with
  | nil =>
    obtain ⟨r, hfeed, -, hfinish⟩ := feed_line (hlen row List.mem_cons_self) records
    refine ⟨r, hfeed, ?_⟩
    by_cases hr : recordOf row = []
    · rw [if_pos hr] at hfinish
      exact .inr (by rw [hfinish, List.map_singleton, hr])
    · rw [if_neg hr, List.reverse_cons] at hfinish
      exact .inl hfinish
  | cons row2 rows ih =>
    obtain ⟨r, hfeed, hstep, -⟩ := feed_line (hlen row List.mem_cons_self) records
    obtain ⟨r', hfeed', hfinish⟩ :=
      ih row2 (fun x hx => hlen x (List.mem_cons_of_mem _ hx)) (recordOf row :: records)
    refine ⟨r', ?_, ?_⟩
    · rw [List.map_cons, List.map_cons, join, List.append_assoc, feed_append hfeed,
        List.singleton_append, feed_cons hstep]
      exact hfeed'
    · simpa using hfinish

end Reader

theorem toMatrix_append_nil (rs : List (List String)) : toMatrix (rs ++ [[]]) = toMatrix rs := by
  rw [toMatrix, List.map_append, List.map_singleton, Matrix.trim, dropTail_append_singleton]
  exact if_pos rfl

theorem trim_recordOf (row : Row) :
    Row.trim ((recordOf row).map fun f => if f = "" then Cell.empty else .text f) =
      Row.trim (row.map fun c => if c.toText = "" then .empty else .text c.toText) := by
  by_cases hr : row.map Cell.toText = [""]
  · obtain ⟨c, rfl, hc⟩ := List.map_eq_singleton_iff.mp hr
    rw [recordOf, if_pos hr, List.map_nil, List.map_singleton, if_pos hc]
    rfl
  · rw [recordOf, if_neg hr, List.map_map]
    rfl

/-- The records of the rows of a matrix make its normal form. -/
theorem toMatrix_recordOf (m : Matrix) : toMatrix (m.map recordOf) = m.normalize := by
  rw [toMatrix, Matrix.normalize, Matrix.textCells, List.map_map, List.map_map]
  exact congrArg Matrix.trim (List.map_congr_left fun row _ => trim_recordOf row)

/-- **What is written is read back in normal form.** -/
theorem read_write {m : Matrix} (hlen : ∀ row ∈ m, ∀ c ∈ row, c.toText.length ≤ fieldLimit) :
    read (write "," true m).toList = .ok m.normalize := by
  cases m with
  | nil => rfl
  | cons row rows =>
    obtain ⟨r, hfeed, hfinish⟩ := Reader.feed_lines row rows hlen []
    have hmatrix : toMatrix r.finish = Matrix.normalize (row :: rows) := by
      rcases hfinish with h | h
      · rw [h, List.reverse_nil, List.nil_append, toMatrix_recordOf]
      · rw [← toMatrix_append_nil, h, List.reverse_nil, List.nil_append, toMatrix_recordOf]
    have htext : (write "," true (row :: rows)).toList =
        join ['\n'] ((row :: rows).map (line [','])) := by
      simp [write]
    have hfresh : Reader.fresh = Reader.behind [] := rfl
    rw [read, records, htext, hfresh, hfeed]
    exact congrArg Except.ok hmatrix

end Sheetflow.Csv

namespace Sheetflow.File

open Csv

/-- **Reading back what was written gives one worksheet, the normal form.**  Fields may not be
longer than the reader's limit, and the text may not start with the character that would be taken
for the mark of the encoding. -/
theorem readDelimited_encode_write (m : Matrix) (name : String)
    (hlen : ∀ row ∈ m, ∀ c ∈ row, c.toText.length ≤ 131072)
    (hmark : (write "," true m).toList.head? ≠ some '\uFEFF') :
    readDelimited (Encoding.utf8.encode (write "," true m).toList).bytes name =
      .ok [(name, m.normalize)] := by
  have htext : textOf (Encoding.utf8.encode (write "," true m).toList).bytes =
      (write "," true m).toList := by
    simp only [textOf, Encoding.encode, Text.Utf8.decodeMarked_encode hmark]
  rw [readDelimited, htext, read_write hlen]
  rfl

/-- Separators, quotes and line breaks inside fields, a row without cells between two others, and
empty ends of rows and of the matrix. -/
theorem readDelimited_encode_write_ragged :
    let m : Matrix := [[.text "a,b", .text "say \"hi\"", .empty], [],
      [.text "x\r\ny", .int 7, .text ""],
      [.empty]]
    (∀ row ∈ m, ∀ c ∈ row, c.toText.length ≤ 131072) ∧
      (write "," true m).toList.head? ≠ some '\uFEFF' ∧
      readDelimited (Encoding.utf8.encode (write "," true m).toList).bytes "Sheet1" =
        .ok [("Sheet1", [[.text "a,b", .text "say \"hi\""], [], [.text "x\r\ny", .text "7"]])] := by
  intro m
  have hlen : ∀ row ∈ m, ∀ c ∈ row, c.toText.length ≤ 131072 := by decide
  have hmark : (write "," true m).toList.head? ≠ some '\uFEFF' := by decide
  have hnormal : m.normalize =
      [[.text "a,b", .text "say \"hi\""], [], [.text "x\r\ny", .text "7"]] := by
    decide
  exact ⟨hlen, hmark, hnormal ▸ readDelimited_encode_write m "Sheet1" hlen hmark⟩

end Sheetflow.File
