import Mathlib.Data.List.Basic
import Sheetflow.Number.Numeral
import Sheetflow.Proofs.Document.JsonString

/-!
# JSON is read back

Reading undoes writing (`Json.read_write`) for values of JSON proper: words, whole numbers that are
not too long, strings, and lists and maps of these, for which there is room.  A value ends at a
character that cannot go on with it (`Ends`), and the fuel of the reader is as long as the text.
-/

namespace Sheetflow.Json

/-- What follows a value inside a text. -/
def Ends (rest : List Char) : Prop := ∀ c ∈ rest.head?, c = ',' ∨ c = ']' ∨ c = '\x7d'

/-! ### Whole numbers -/

theorem isDigit_of_mem_toDigits {n : Nat} {c : Char} (h : c ∈ Nat.toDigits 10 n) :
    isDigit c = true := by
  have hc := Nat.isDigit_of_mem_toDigits (by decide) (by decide) h
  simpa [isDigit, Char.isDigit, Char.le_def] using hc

theorem ne_of_isDigit {c d : Char} (hc : isDigit c = true) (hd : isDigit d = false) : d ≠ c := by
  rintro rfl
  rw [hc] at hd
  cases hd

theorem digitsValue_toDigits (n : Nat) : digitsValue (Nat.toDigits 10 n) = n :=
  Nat.ofDigitChars_ten_toDigits

/-- Only zero starts with a zero. -/
theorem head?_toDigits {n : Nat} (hn : n ≠ 0) : (Nat.toDigits 10 n).head? ≠ some '0' := by
  induction n using Nat.strongRecOn with
  | _ n ih =>
    rw [Nat.toDigits_eq_if (by decide)]
    split
    · simpa using hn
    · rw [List.head?_append_of_ne_nil _ Nat.toDigits_ne_nil]
      exact ih (n / 10) (by omega) (by omega)

/-- The digits of a number in front of what ends it. -/
theorem takeWhile_toDigits (n : Nat) {rest : List Char} (hrest : Ends rest) :
    (Nat.toDigits 10 n ++ rest).takeWhile isDigit = Nat.toDigits 10 n := by
  rw [List.takeWhile_append_of_pos fun c hc => isDigit_of_mem_toDigits hc]
  cases rest with
  | nil => rw [List.takeWhile_nil, List.append_nil]
  | cons c rest =>
    have hc : isDigit c = false := by
      rcases hrest c rfl with rfl | rfl | rfl <;> decide
    rw [List.takeWhile_cons, hc, if_neg Bool.false_ne_true, List.append_nil]

theorem wholeDigits_toDigits (n : Nat) {rest : List Char} (hrest : Ends rest) :
    wholeDigits (Nat.toDigits 10 n ++ rest) = Nat.toDigits 10 n := by
  by_cases hn : n = 0
  · rw [hn]
    rfl
  · have hdigits := takeWhile_toDigits n hrest
    have hhead := head?_toDigits hn
    obtain ⟨d, ds, hds⟩ := List.exists_cons_of_ne_nil (Nat.toDigits_ne_nil (n := n) (b := 10))
    rw [hds] at hhead hdigits ⊢
    unfold wholeDigits
    split
    · rename_i heq
      cases heq
      exact absurd rfl hhead
    · exact hdigits

/-- Behind what ends a number there is neither a point nor an exponent. -/
theorem fraction?_of_ends {rest : List Char} (hrest : Ends rest) : fraction? rest = none := by
  cases rest with
  | nil => rfl
  | cons c rest => rcases hrest c rfl with rfl | rfl | rfl <;> rfl

theorem exponent?_of_ends {rest : List Char} (hrest : Ends rest) : exponent? rest = none := by
  cases rest with
  | nil => rfl
  | cons c rest => rcases hrest c rfl with rfl | rfl | rfl <;> rfl

/-- The sign of a number. -/
def sign (negative : Bool) : List Char := if negative then ['-'] else []

theorem numeralParts?_toDigits (negative : Bool) (n : Nat) {rest : List Char} (hrest : Ends rest) :
    numeralParts? (sign negative ++ Nat.toDigits 10 n ++ rest) =
      some ⟨negative, Nat.toDigits 10 n, none, none, (sign negative ++ Nat.toDigits 10 n).length⟩ := by
  obtain ⟨d, ds, hds⟩ := List.exists_cons_of_ne_nil (Nat.toDigits_ne_nil (n := n) (b := 10))
  have hd : '-' ≠ d :=
    ne_of_isDigit (isDigit_of_mem_toDigits (hds ▸ List.mem_cons_self)) (by decide)
  have hneg : ((sign negative ++ Nat.toDigits 10 n ++ rest).head? == some '-') = negative := by
    rw [hds]
    cases negative <;> simp [sign, hd.symm]
  have hbody : (if negative = true then (sign negative ++ Nat.toDigits 10 n ++ rest).drop 1
      else sign negative ++ Nat.toDigits 10 n ++ rest) = Nat.toDigits 10 n ++ rest := by
    cases negative <;> rfl
  unfold numeralParts?
  simp only [hneg, hbody, wholeDigits_toDigits n hrest, List.drop_left, fraction?_of_ends hrest,
    Option.map_none, Option.getD_none, List.drop_zero, exponent?_of_ends hrest, Nat.add_zero]
  rw [if_neg (by simp [Nat.toDigits_ne_nil]), List.length_append]
  cases negative <;> rfl

/-- No word starts with a digit. -/
theorem find?_words_eq_none {c : Char} (hc : isDigit c = true) (negative : Bool) (cs : List Char) :
    words.find? (fun w => w.1.toList.isPrefixOf (sign negative ++ c :: cs)) = none := by
  have hn : 'n' ≠ c := ne_of_isDigit hc (by decide)
  have ht : 't' ≠ c := ne_of_isDigit hc (by decide)
  have hf : 'f' ≠ c := ne_of_isDigit hc (by decide)
  have hN : 'N' ≠ c := ne_of_isDigit hc (by decide)
  have hI : 'I' ≠ c := ne_of_isDigit hc (by decide)
  have hminus : '-' ≠ c := ne_of_isDigit hc (by decide)
  cases negative <;> simp [words, sign, List.isPrefixOf, hn, ht, hf, hN, hI, hminus]

theorem toList_toString (i : Int) :
    (toString i).toList = sign (decide (i < 0)) ++ Nat.toDigits 10 i.natAbs := by
  cases i with
  | ofNat n =>
    show (Nat.repr n).toList = sign (decide ((n : Int) < 0)) ++ Nat.toDigits 10 n
    rw [Nat.repr_eq_ofList_toDigits, String.toList_ofList, decide_eq_false (by omega)]
    rfl
  | negSucc n =>
    show ("-" ++ Nat.repr (n + 1)).toList = _
    simp only [String.toList_append, Nat.repr_eq_ofList_toDigits, String.toList_ofList]
    rw [decide_eq_true (Int.negSucc_lt_zero n)]
    rfl

/-- **A whole number is read as it was written.** -/
theorem passes_scalar_int {i : Int} (hi : isWritable i.natAbs = true) {rest : List Char}
    (hrest : Ends rest) : Passes scalar (toString i).toList rest (.int i) := by
  obtain ⟨d, ds, hds⟩ :=
    List.exists_cons_of_ne_nil (Nat.toDigits_ne_nil (n := i.natAbs) (b := 10))
  have hd : isDigit d = true := isDigit_of_mem_toDigits (hds ▸ List.mem_cons_self)
  have hword := find?_words_eq_none hd (decide (i < 0)) (ds ++ rest)
  rw [← List.cons_append, ← hds, ← List.append_assoc] at hword
  have hvalue : (⟨decide (i < 0), Nat.toDigits 10 i.natAbs, none, none,
      (toString i).toList.length⟩ : NumeralParts).value = .ok (.int i) := by
    have hlimit : ¬ digitLimit < (Nat.toDigits 10 i.natAbs).length :=
      Nat.not_lt.mpr (of_decide_eq_true hi)
    unfold NumeralParts.value
    simp only [if_neg hlimit, digitsValue_toDigits]
    refine congrArg (fun i => Except.ok (Value.int i)) ?_
    by_cases hneg : i < 0
    · rw [decide_eq_true hneg, if_pos rfl]
      omega
    · rw [decide_eq_false hneg, if_neg Bool.false_ne_true]
      omega
  intro n
  rw [scalar, run_get_bind]
  simp only [toList_toString, hword, numeralParts?_toDigits _ _ hrest]
  rw [← toList_toString, hvalue]
  exact (passes_skip rfl rest).bind_pure (fun _ => Value.int i) n

/-! ### Values -/

/-- The values that are read as they were written where there is room for that many lists and maps in
each other.  The keys of a map are texts, each of which is there once. -/
inductive Plain : Nat → Value → Prop
  | null {room : Nat} : Plain room .null
  | bool {room : Nat} (b : Bool) : Plain room (.bool b)
  | int {room : Nat} {i : Int} (h : isWritable i.natAbs = true) : Plain room (.int i)
  | str {room : Nat} (s : String) : Plain room (.str s)
  | list {room : Nat} {xs : List Value} (h : ∀ x ∈ xs, Plain room x) : Plain (room + 1) (.list xs)
  | record {room : Nat} {es : List (String × Value)} (distinct : (es.map Prod.fst).Nodup)
    (h : ∀ e ∈ es, Plain room e.2) : Plain (room + 1) (.record es)

theorem Plain.mono {room room' : Nat} {v : Value} (h : Plain room v) (hroom : room ≤ room') :
    Plain room' v := by
  induction h generalizing room' with
  | null => exact .null
  | bool b => exact .bool b
  | int hi => exact .int hi
  | str s => exact .str s
  | list _ ih =>
    obtain ⟨inside, rfl⟩ := Nat.exists_eq_add_of_le' hroom
    exact .list fun x hx => ih x hx (Nat.le_add_left _ _)
  | record distinct _ ih =>
    obtain ⟨inside, rfl⟩ := Nat.exists_eq_add_of_le' hroom
    exact .record distinct fun e he => ih e he (Nat.le_add_left _ _)

/-- A word is read as its value. -/
theorem passes_scalar_word {word : String} {v : Value} {rest : List Char}
    (h : words.find? (fun w => w.1.toList.isPrefixOf (word.toList ++ rest)) = some (word, v)) :
    Passes scalar word.toList rest v := by
  intro n
  rw [scalar, run_get_bind]
  simp only [h]
  exact (passes_skip String.length_toList rest).bind_pure (fun _ => v) n

/-- The text of a value. -/
def text (v : Value) : List Char := (write v).toList

/-- The text of an entry of a map. -/
def entryText (e : String × Value) : List Char := (stringText e.1).toList ++ ':' :: text e.2

/-- Texts with commas between them and something behind the last one. -/
def joined (close : Char) (ts : List (List Char)) : List Char := [','].intercalate ts ++ [close]

theorem joined_singleton (close : Char) (t : List Char) : joined close [t] = t ++ [close] := by
  rw [joined, List.intercalate_singleton]

theorem joined_cons_cons (close : Char) (t t' : List Char) (ts : List (List Char)) :
    joined close (t :: t' :: ts) = t ++ ',' :: joined close (t' :: ts) := by
  rw [joined, List.intercalate_cons_cons, List.append_assoc, List.append_assoc]
  rfl

theorem writeList_eq (xs : List Value) : writeList xs = xs.map write := by
  induction xs with
  | nil => rfl
  | cons x xs ih => rw [writeList, ih, List.map_cons]

theorem writeEntries_record (es : List (String × Value)) :
    writeEntries (es.map fun e => (.str e.1, e.2)) =
      es.map fun e => stringText e.1 ++ ":" ++ write e.2 := by
  induction es with
  | nil => rfl
  | cons e es ih =>
    rw [List.map_cons, writeEntries, ih, List.map_cons]
    rfl

theorem text_list (xs : List Value) : text (.list xs) = '[' :: joined ']' (xs.map text) := by
  rw [show text = fun v => (write v).toList from rfl]
  simp [write, writeList_eq, joined, String.toList_intercalate, Function.comp_def]

theorem text_record (es : List (String × Value)) :
    text (.record es) = '\x7b' :: joined '\x7d' (es.map entryText) := by
  have hentry : entryText = fun e => (stringText e.1 ++ ":" ++ write e.2).toList := by
    funext e
    simp [entryText, text]
  simp [text, Value.record, write, writeEntries_record, joined, String.toList_intercalate, hentry,
    Function.comp_def]

/-- A whole number starts with a digit or a sign. -/
theorem exists_head_int (i : Int) :
    ∃ c cs, (toString i).toList = c :: cs ∧ ∀ d, isDigit d = false → d ≠ '-' → c ≠ d := by
  rw [toList_toString]
  obtain ⟨c, cs, hcs⟩ := List.exists_cons_of_ne_nil (Nat.toDigits_ne_nil (n := i.natAbs) (b := 10))
  have hc : isDigit c = true := isDigit_of_mem_toDigits (hcs ▸ List.mem_cons_self)
  cases decide (i < 0) with
  | false => exact ⟨c, cs, hcs, fun d hd _ => (ne_of_isDigit hc hd).symm⟩
  | true => exact ⟨'-', _, rfl, fun d _ hd => hd.symm⟩

/-- A value starts with a character at which its reading starts. -/
theorem exists_head_text {room : Nat} {v : Value} (hv : Plain room v) :
    ∃ c cs, text v = c :: cs ∧ isSpace c = false ∧ c ≠ ']' ∧ c ≠ '\uFEFF' := by
  cases hv with
  | null => exact ⟨'n', _, rfl, by decide⟩
  | bool b => cases b with
    | false => exact ⟨'f', _, rfl, by decide⟩
    | true => exact ⟨'t', _, rfl, by decide⟩
  | @int _ i h =>
    obtain ⟨c, cs, hcs, hne⟩ := exists_head_int i
    refine ⟨c, cs, hcs, ?_, hne _ (by decide) (by decide), hne _ (by decide) (by decide)⟩
    simp [isSpace, hne ' ' (by decide) (by decide), hne '\t' (by decide) (by decide),
      hne '\n' (by decide) (by decide), hne '\r' (by decide) (by decide)]
  | str s =>
    refine ⟨'"', s.toList.flatMap escapeChar ++ ['"'], ?_, by decide⟩
    rw [text, write, stringText, String.toList_ofList]
    rfl
  | @list _ xs h => exact ⟨'[', _, text_list xs, by decide⟩
  | @record _ es distinct h => exact ⟨'\x7b', _, text_record es, by decide⟩

/-- A value that is neither a string nor a list nor a map is a word or a number. -/
theorem passes_value_scalar {c : Char} {cs rest : List Char} {v : Value}
    (h : Passes scalar (c :: cs) rest v) (hne : c ≠ '"' ∧ c ≠ '[' ∧ c ≠ '\x7b') (room fuel : Nat) :
    Passes (value room (fuel + 1)) (c :: cs) rest v := by
  rw [value]
  refine (passes_peek (c :: cs ++ rest)).bind_nil (t := c :: cs) ?_
  obtain ⟨hquote, hbracket, hbrace⟩ := hne
  rw [List.cons_append, List.head?_cons]
  split <;> simp_all

/-- A value is read from its text, with that much room and with fuel for the text. -/
def Returns (room : Nat) (v : Value) : Prop :=
  ∀ fuel rest, (text v).length ≤ fuel → Ends rest → Passes (value room fuel) (text v) rest v

theorem ends_comma (cs : List Char) : Ends (',' :: cs) := fun _ hc => .inl (Option.some.inj hc).symm

theorem ends_bracket (cs : List Char) : Ends (']' :: cs) :=
  fun _ hc => .inr (.inl (Option.some.inj hc).symm)

theorem ends_brace (cs : List Char) : Ends ('\x7d' :: cs) :=
  fun _ hc => .inr (.inr (Option.some.inj hc).symm)

/-- There are no blanks in front of a character that is none. -/
theorem passes_skipSpace_cons {c : Char} (hc : isSpace c = false) (cs : List Char) :
    Passes skipSpace [] (c :: cs) () :=
  passes_skipSpace fun _ h => (Option.some.inj h) ▸ hc

theorem head?_joined {close c : Char} {t cs rest : List Char} {ts : List (List Char)}
    (ht : t = c :: cs) : (joined close (t :: ts) ++ rest).head? = some c := by
  cases ts with
  | nil =>
    rw [joined_singleton, ht]
    rfl
  | cons t' ts =>
    rw [joined_cons_cons, ht]
    rfl

/-- Behind the last item stands what closes the list or the map. -/
theorem passes_closed {α : Type} {close : Char} (hclose : isSpace close = false) (a : α)
    (further : Reading α) (rest : List Char) :
    Passes (do
      skipSpace
      if (← peek) = some close then
        skip 1
        return a
      else further) [close] rest a := by
  refine (passes_skipSpace_cons hclose rest).bind_nil ?_
  refine (passes_peek (close :: rest)).bind_nil (t := [close]) ?_
  rw [List.head?_cons, if_pos rfl]
  exact (passes_skip rfl rest).bind_pure fun _ => a

/-- Behind any other item stands a comma. -/
theorem passes_further {α : Type} {close : Char} (hclose : close ≠ ',') {a b : α}
    {further : Reading α} {t rest : List Char} (hfirst : ∀ c ∈ (t ++ rest).head?, isSpace c = false)
    (hfurther : Passes further t rest b) :
    Passes (do
      skipSpace
      if (← peek) = some close then
        skip 1
        return a
      else
        expect ',' .expectingComma
        skipSpace
        further) (',' :: t) rest b := by
  refine (passes_skipSpace_cons (by decide) _).bind_nil ?_
  refine (passes_peek _).bind_nil ?_
  rw [List.cons_append, List.head?_cons, if_neg fun h => hclose (Option.some.inj h).symm]
  refine (passes_expect ',' _ _).bind (t := t) ?_
  exact (passes_skipSpace hfirst).bind_nil hfurther

theorem passes_elements {room : Nat} {xs : List Value} (hplain : ∀ x ∈ xs, Plain room x)
    (hxs : ∀ x ∈ xs, Returns room x)
    (hne : xs ≠ []) (done : List Value) (fuel : Nat) (rest : List Char)
    (hfuel : (joined ']' (xs.map text)).length ≤ fuel) :
    Passes (elements room done fuel) (joined ']' (xs.map text)) rest (done.reverse ++ xs) := by
  induction xs generalizing done fuel with
  | nil => exact absurd rfl hne
  | cons x xs ih =>
    cases fuel with
    | zero => simp [joined] at hfuel
    | succ fuel =>
      rw [elements]
      cases xs with
      | nil =>
        rw [List.map_cons, List.map_nil, joined_singleton] at hfuel ⊢
        rw [List.length_append, List.length_singleton] at hfuel
        refine (hxs x List.mem_cons_self fuel _ (by omega) (ends_bracket rest)).bind ?_
        rw [← List.reverse_cons]
        exact passes_closed (by decide) _ _ rest
      | cons y ys =>
        rw [List.map_cons, List.map_cons, joined_cons_cons] at hfuel ⊢
        rw [List.length_append, List.length_cons] at hfuel
        obtain ⟨c, cs, hcs, hspace, -, -⟩ := exists_head_text (hplain y (by simp))
        have hrest := ih (fun z hz => hplain z (List.mem_cons_of_mem x hz))
          (fun z hz => hxs z (List.mem_cons_of_mem x hz)) (List.cons_ne_nil y ys) (x :: done) fuel
          (by rw [List.map_cons]; omega)
        rw [List.map_cons] at hrest
        have hfirst : ∀ d ∈ (joined ']' (text y :: ys.map text) ++ rest).head?, isSpace d = false := by
          rw [head?_joined hcs]
          exact fun d hd => (Option.some.inj hd) ▸ hspace
        rw [List.reverse_cons, List.append_assoc] at hrest
        refine (hxs x List.mem_cons_self fuel _ (by omega) (ends_comma _)).bind ?_
        exact passes_further (by decide) hfirst hrest

/-- An entry with a new key is the last one. -/
theorem setEntry_new {es : List (String × Value)} {k : String} (hk : k ∉ es.map Prod.fst) (v : Value) :
    Value.setEntry (es.map fun e => (.str e.1, e.2)) (.str k) v =
      (es ++ [(k, v)]).map fun e => (.str e.1, e.2) := by
  have hnone : (es.map fun e => (Value.str e.1, e.2)).any (·.1.sameKey (.str k)) = false := by
    rw [List.any_eq_false]
    intro e he hsame
    obtain ⟨e', he', rfl⟩ := List.mem_map.mp he
    exact hk (List.mem_map.mpr ⟨e', he', of_decide_eq_true hsame⟩)
  rw [Value.setEntry, hnone, if_neg Bool.false_ne_true, List.map_append]
  rfl

/-- What is read behind an entry. -/
def entriesRest (room : Nat) (done : List (Value × Value)) (fuel : Nat) : Reading (List (Value × Value)) := do
  skipSpace
  if (← peek) = some '\x7d' then
    skip 1
    return done
  else
    expect ',' .expectingComma
    skipSpace
    entries room done fuel

theorem passes_entry {room : Nat} {k : String} {v : Value} (hplain : Plain room v)
    (hv : Returns room v)
    {done : List (Value × Value)} {r : List (Value × Value)} {fuel : Nat} {tail rest : List Char}
    (hends : Ends (tail ++ rest)) (hfuel : (text v).length ≤ fuel)
    (hrest : Passes (entriesRest room (Value.setEntry done (.str k) v) fuel) tail rest r) :
    Passes (entries room done (fuel + 1)) (entryText (k, v) ++ tail) rest r := by
  obtain ⟨c, cs, hcs, hspace, -, -⟩ := exists_head_text hplain
  have hvalue : Passes (value room fuel >>= fun v => entriesRest room (Value.setEntry done (.str k) v) fuel)
      (text v ++ tail) rest r := (hv fuel (tail ++ rest) hfuel hends).bind hrest
  have hspaces : Passes (skipSpace >>= fun _ => value room fuel >>= fun v =>
      entriesRest room (Value.setEntry done (.str k) v) fuel) (text v ++ tail) rest r := by
    refine (passes_skipSpace fun d hd => ?_).bind_nil hvalue
    rw [hcs] at hd
    exact (Option.some.inj hd) ▸ hspace
  have hquote : (stringText k).toList = '"' :: (k.toList.flatMap escapeChar ++ ['"']) := by
    rw [stringText, String.toList_ofList]
    rfl
  rw [entries, entryText]
  refine (passes_peek _).bind_nil ?_
  rw [if_neg (by rw [hquote]; exact fun h => h rfl), List.append_assoc]
  refine (passes_string k _).bind ?_
  refine (passes_skipSpace_cons (by decide) _).bind_nil ?_
  exact (passes_expect ':' _ _).bind (t := text v ++ tail) hspaces

theorem passes_entries {room : Nat} {es : List (String × Value)} (hplain : ∀ e ∈ es, Plain room e.2)
    (hes : ∀ e ∈ es, Returns room e.2) (hne : es ≠ []) (done : List (String × Value))
    (hdistinct : ((done ++ es).map Prod.fst).Nodup) (fuel : Nat) (rest : List Char)
    (hfuel : (joined '\x7d' (es.map entryText)).length ≤ fuel) :
    Passes (entries room (done.map fun e => (.str e.1, e.2)) fuel) (joined '\x7d' (es.map entryText)) rest
      ((done ++ es).map fun e => (.str e.1, e.2)) := by
  induction es generalizing done fuel with
  | nil => exact absurd rfl hne
  | cons e es ih =>
    obtain ⟨k, v⟩ := e
    cases fuel with
    | zero => simp [joined] at hfuel
    | succ fuel =>
      have hnew : k ∉ done.map Prod.fst := by
        intro hk
        rw [List.map_append, List.map_cons] at hdistinct
        exact (List.nodup_append.mp hdistinct).2.2 k hk k List.mem_cons_self rfl
      have hv := hes (k, v) List.mem_cons_self
      have hlength : (text v).length < (entryText (k, v)).length := by
        simp only [entryText, List.length_append, List.length_cons]
        omega
      cases es with
      | nil =>
        rw [List.map_cons, List.map_nil, joined_singleton] at hfuel ⊢
        rw [List.length_append] at hfuel
        refine passes_entry (hplain (k, v) List.mem_cons_self) hv (ends_brace rest)
          (show (text v).length ≤ fuel by omega) ?_
        rw [setEntry_new hnew]
        exact passes_closed (by decide) _ _ rest
      | cons e' es =>
        rw [List.map_cons, List.map_cons, joined_cons_cons] at hfuel ⊢
        rw [List.length_append, List.length_cons] at hfuel
        have hnext := ih (fun e he => hplain e (List.mem_cons_of_mem _ he))
          (fun e he => hes e (List.mem_cons_of_mem _ he)) (List.cons_ne_nil e' es) (done ++ [(k, v)])
          (by rwa [List.append_assoc]) fuel (by rw [List.map_cons]; omega)
        rw [List.append_assoc, List.map_cons] at hnext
        have hquote : entryText e' =
            '"' :: (e'.1.toList.flatMap escapeChar ++ ['"'] ++ ':' :: text e'.2) := by
          rw [entryText, stringText, String.toList_ofList]
          rfl
        have hfirst : ∀ d ∈ (joined '\x7d' (entryText e' :: es.map entryText) ++ rest).head?,
            isSpace d = false := by
          rw [head?_joined hquote]
          exact fun d hd => (Option.some.inj hd) ▸ rfl
        refine passes_entry (hplain (k, v) List.mem_cons_self) hv (ends_comma _)
          (show (text v).length ≤ fuel by omega) ?_
        rw [setEntry_new hnew]
        exact passes_further (by decide) hfirst hnext

theorem returns_scalar {room : Nat} {v : Value} {c : Char} {cs : List Char}
    (h : ∀ rest, Ends rest → Passes scalar (text v) rest v) (htext : text v = c :: cs)
    (hne : c ≠ '"' ∧ c ≠ '[' ∧ c ≠ '\x7b') : Returns room v := by
  intro fuel rest hfuel hrest
  rw [htext] at hfuel ⊢
  cases fuel with
  | zero => simp at hfuel
  | succ fuel => exact passes_value_scalar (htext ▸ h rest hrest) hne room fuel

theorem passes_enter (collection : String) (room : Nat) (rest : List Char) :
    Passes (enter collection (room + 1)) [] rest room := fun _ => rfl

theorem returns_str (room : Nat) (s : String) : Returns room (.str s) := by
  intro fuel rest hfuel hrest
  have htext : text (.str s) = '"' :: (s.toList.flatMap escapeChar ++ ['"']) := by
    rw [text, write, stringText, String.toList_ofList]
    rfl
  cases fuel with
  | zero => simp [htext] at hfuel
  | succ fuel =>
    rw [value]
    refine (passes_peek _).bind_nil ?_
    rw [htext, List.cons_append, List.head?_cons, ← htext]
    exact (passes_string s rest).bind_pure Value.str

/-- A list is read if there is room for one more around its elements. -/
theorem returns_list {room : Nat} {xs : List Value} (hplain : ∀ x ∈ xs, Plain room x)
    (hxs : ∀ x ∈ xs, Returns room x) : Returns (room + 1) (.list xs) := by
  intro fuel rest hfuel hrest
  rw [text_list] at hfuel ⊢
  cases fuel with
  | zero => simp at hfuel
  | succ fuel =>
    rw [value]
    refine (passes_peek _).bind_nil ?_
    rw [List.cons_append, List.head?_cons]
    refine (passes_enter "array" room _).bind_nil ?_
    refine (passes_skip (t := ['[']) rfl _).bind (t := joined ']' (xs.map text)) ?_
    cases xs with
    | nil => exact passes_closed (show isSpace ']' = false by decide) (Value.list []) _ rest
    | cons x xs =>
      obtain ⟨c, cs, hcs, hspace, hbracket, -⟩ := exists_head_text (hplain x List.mem_cons_self)
      have helements := passes_elements hplain hxs (List.cons_ne_nil x xs) [] fuel rest
        (Nat.le_of_succ_le_succ hfuel)
      rw [List.map_cons] at helements ⊢
      refine (passes_skipSpace fun d hd => ?_).bind_nil ?_
      · rw [head?_joined hcs] at hd
        exact (Option.some.inj hd) ▸ hspace
      · refine (passes_peek _).bind_nil ?_
        rw [head?_joined hcs, if_neg (fun h => hbracket (Option.some.inj h))]
        exact helements.bind_pure Value.list

/-- The same for a map whose keys are texts. -/
theorem returns_record {room : Nat} {es : List (String × Value)}
    (hdistinct : (es.map Prod.fst).Nodup) (hplain : ∀ e ∈ es, Plain room e.2)
    (hes : ∀ e ∈ es, Returns room e.2) : Returns (room + 1) (.record es) := by
  intro fuel rest hfuel hrest
  rw [text_record] at hfuel ⊢
  cases fuel with
  | zero => simp at hfuel
  | succ fuel =>
    rw [value]
    refine (passes_peek _).bind_nil ?_
    rw [List.cons_append, List.head?_cons]
    refine (passes_enter "object" room _).bind_nil ?_
    refine (passes_skip (t := ['\x7b']) rfl _).bind (t := joined '\x7d' (es.map entryText)) ?_
    cases es with
    | nil => exact passes_closed (show isSpace '\x7d' = false by decide) (Value.map []) _ rest
    | cons e es =>
      have hentries := passes_entries hplain hes (List.cons_ne_nil e es) [] hdistinct fuel rest
        (Nat.le_of_succ_le_succ hfuel)
      have hquote : entryText e =
          '"' :: (e.1.toList.flatMap escapeChar ++ ['"'] ++ ':' :: text e.2) := by
        rw [entryText, stringText, String.toList_ofList]
        rfl
      rw [List.map_cons] at hentries ⊢
      refine (passes_skipSpace fun d hd => ?_).bind_nil ?_
      · rw [head?_joined hquote] at hd
        exact (Option.some.inj hd) ▸ rfl
      · refine (passes_peek _).bind_nil ?_
        rw [head?_joined hquote, if_neg (by decide)]
        exact hentries.bind_pure Value.map

/-- **A value is read from its text.** -/
theorem returns_of_plain {room : Nat} {v : Value} (hv : Plain room v) : Returns room v := by
  induction hv with
  | null =>
    exact returns_scalar (c := 'n') (fun rest _ => passes_scalar_word rfl) rfl (by decide)
  | bool b => cases b with
    | false =>
      exact returns_scalar (c := 'f') (fun rest _ => passes_scalar_word rfl) rfl (by decide)
    | true =>
      exact returns_scalar (c := 't') (fun rest _ => passes_scalar_word rfl) rfl (by decide)
  | @int _ i h =>
    obtain ⟨c, cs, hcs, hne⟩ := exists_head_int i
    exact returns_scalar (fun rest hrest => passes_scalar_int h hrest) hcs
      ⟨hne _ (by decide) (by decide), hne _ (by decide) (by decide),
        hne _ (by decide) (by decide)⟩
  | str s => exact returns_str _ s
  | list hplain ih => exact returns_list hplain ih
  | record distinct hplain ih => exact returns_record distinct hplain ih

/-- What is read behind the value of a document. -/
def documentRest (v : Value) : Reading Value := do
  skipSpace
  let p ← get
  if p.rest.isEmpty then return v else fail .extraData p.offset

theorem passes_documentRest (v : Value) : Passes (documentRest v) [] [] v := by
  have hend : Passes skipSpace [] [] () := passes_skipSpace nofun
  exact hend.bind_nil fun _ => rfl

/-- **Reading undoes writing.** -/
theorem read_write {room : Nat} {v : Value} (hv : Plain room v) :
    read room (write v).toList = .ok v := by
  obtain ⟨c, cs, hcs, hspace, -, hmark⟩ := exists_head_text hv
  have hvalue := returns_of_plain hv (2 * (text v).length + 2) [] (by omega) nofun
  have hvalue := hvalue.bind (f := documentRest) (passes_documentRest v)
  have hspaces : Passes skipSpace [] (text v ++ [] ++ []) () := by
    rw [hcs]
    exact passes_skipSpace_cons hspace _
  have hdocument := (hspaces.bind_nil
    (f := fun _ => value room (2 * (text v).length + 2) >>= documentRest) hvalue) 0
  simp only [List.append_nil, Nat.zero_add] at hdocument
  have hfirst : ¬ (text v).head? = some '\uFEFF' := by
    rw [hcs]
    exact fun h => hmark (Option.some.inj h)
  show ((document room).run ⟨0, text v⟩).map (·.1) = _
  rw [document, run_get_bind]
  simp only [if_neg hfirst]
  refine (congrArg (Except.map Prod.fst) hdocument).trans ?_
  rfl

end Sheetflow.Json
