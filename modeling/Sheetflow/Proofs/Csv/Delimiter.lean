import Sheetflow.Proofs.Configuration.Export
import Sheetflow.Proofs.Store.Keys

/-!
# Which delimiters keep fields apart

A field is put in quotes by what it holds alone, and a delimiter may be any text that is not empty.  So
a delimiter can meet the end of one field or the start of the next: with `::` between them, the fields
`a:` and `b` are written like `a` and `:b`.

Delimiters of three kinds do this: those that start the way they end and hold no character that is always
quoted, those made of quotes alone, and those that are themselves a text in quotes.  With any other the
text says what was written (`unambiguous_iff`).

* `Forward`: reading from the left, one knows where a field ends.  `Forward.cancels` takes the first
  field off two equal texts, `Forward.unambiguous` all fields of all rows.
* A text written backwards is the text of the fields backwards (`reverse_textOf`), so it is enough to
  know where fields end reading from the right.
* `Separates.forward` shows that a delimiter of none of the three kinds can be read in one of the two
  directions, and for each kind there are two rows that are written alike.
-/

namespace Sheetflow.Csv

/-! ### Texts in quotes -/

/-- A character for which a field is quoted, whatever the delimiter. -/
def IsQuoting (c : Char) : Prop := c = '"' ∨ c = '\n' ∨ c = '\r'

instance : DecidablePred IsQuoting := fun c =>
  inferInstanceAs (Decidable (c = '"' ∨ c = '\n' ∨ c = '\r'))

def inQuotes (text : List Char) : List Char := '"' :: (doubleQuotes text ++ ['"'])

theorem needsQuotes_iff {d text : List Char} :
    needsQuotes d text = true ↔ d <:+: text ∨ ∃ c ∈ text, IsQuoting c := by
  simp only [needsQuotes, IsQuoting, Bool.or_eq_true, Text.occursIn_iff, List.contains_iff_mem]
  constructor
  · rintro (((h | h) | h) | h)
    · exact .inl h
    · exact .inr ⟨_, h, .inl rfl⟩
    · exact .inr ⟨_, h, .inr (.inl rfl)⟩
    · exact .inr ⟨_, h, .inr (.inr rfl)⟩
  · rintro (h | ⟨c, hc, rfl | rfl | rfl⟩) <;> simp [*]

theorem field_of_quoted {d text : List Char} (h : d <:+: text ∨ ∃ c ∈ text, IsQuoting c) :
    field d text = inQuotes text := if_pos (needsQuotes_iff.mpr h)

theorem field_of_plain {d text : List Char} (h : ¬ (d <:+: text ∨ ∃ c ∈ text, IsQuoting c)) :
    field d text = text := if_neg (fun hq => h (needsQuotes_iff.mp hq))

theorem doubleQuotes_quote (x : List Char) : doubleQuotes ('"' :: x) = '"' :: '"' :: doubleQuotes x :=
  if_pos rfl

theorem doubleQuotes_of_ne {c : Char} (hc : c ≠ '"') (x : List Char) :
    doubleQuotes (c :: x) = c :: doubleQuotes x := if_neg hc

theorem doubleQuotes_append (x y : List Char) :
    doubleQuotes (x ++ y) = doubleQuotes x ++ doubleQuotes y := by
  induction x with
  | nil => rfl
  | cons c x ih =>
    rw [List.cons_append, doubleQuotes, doubleQuotes, ih]
    split <;> rfl

theorem doubleQuotes_reverse (x : List Char) :
    doubleQuotes x.reverse = (doubleQuotes x).reverse := by
  induction x with
  | nil => rfl
  | cons c x ih =>
    rw [List.reverse_cons, doubleQuotes_append, ih]
    by_cases hc : c = '"'
    · simp [doubleQuotes, hc]
    · simp [doubleQuotes, hc]

theorem inQuotes_reverse (x : List Char) : inQuotes x.reverse = (inQuotes x).reverse := by
  simp [inQuotes, doubleQuotes_reverse]

/-- Two texts with their quotes doubled, each followed by a quote.  If one is shorter, its quote and what
follows are the doubled quote, and the rest, of the other. -/
theorem eq_or_longer_of_doubleQuotes {x y s t : List Char}
    (h : doubleQuotes x ++ '"' :: s = doubleQuotes y ++ '"' :: t) :
    (x = y ∧ s = t) ∨
      (∃ z, y = x ++ '"' :: z ∧ s = '"' :: (doubleQuotes z ++ '"' :: t)) ∨
      ∃ z, x = y ++ '"' :: z ∧ t = '"' :: (doubleQuotes z ++ '"' :: s) := by
  induction x generalizing y with
  | nil =>
    cases y with
    | nil => exact .inl ⟨rfl, (List.cons.inj h).2⟩
    | cons b y =>
      by_cases hb : b = '"'
      · subst hb
        exact .inr (.inl ⟨y, rfl, (List.cons.inj h).2⟩)
      · rw [doubleQuotes_of_ne hb] at h
        exact absurd (List.cons.inj h).1.symm hb
  | cons a x ih =>
    have hstep {y : List Char} (hrest : doubleQuotes x ++ '"' :: s = doubleQuotes y ++ '"' :: t) :
        (a :: x = a :: y ∧ s = t) ∨
          (∃ z, a :: y = a :: x ++ '"' :: z ∧ s = '"' :: (doubleQuotes z ++ '"' :: t)) ∨
          ∃ z, a :: x = a :: y ++ '"' :: z ∧ t = '"' :: (doubleQuotes z ++ '"' :: s) := by
      obtain ⟨rfl, hst⟩ | ⟨z, rfl, hs⟩ | ⟨z, rfl, ht⟩ := ih hrest
      · exact .inl ⟨rfl, hst⟩
      · exact .inr (.inl ⟨z, rfl, hs⟩)
      · exact .inr (.inr ⟨z, rfl, ht⟩)
    cases y with
    | nil =>
      by_cases ha : a = '"'
      · subst ha
        exact .inr (.inr ⟨x, rfl, (List.cons.inj h).2.symm⟩)
      · rw [doubleQuotes_of_ne ha] at h
        exact absurd (List.cons.inj h).1 ha
    | cons b y =>
      by_cases ha : a = '"' <;> by_cases hb : b = '"'
      · subst ha hb
        exact hstep (List.cons.inj (List.cons.inj h).2).2
      · rw [ha, doubleQuotes_quote, doubleQuotes_of_ne hb] at h
        exact absurd (List.cons.inj h).1.symm hb
      · rw [hb, doubleQuotes_quote, doubleQuotes_of_ne ha] at h
        exact absurd (List.cons.inj h).1 ha
      · rw [doubleQuotes_of_ne ha, doubleQuotes_of_ne hb] at h
        obtain ⟨rfl, hrest⟩ := List.cons.inj h
        exact hstep hrest

/-- What follows the quotes tells where they end, unless it starts with a quote itself. -/
theorem eq_of_doubleQuotes {x y s t : List Char} {a b : Char} (ha : a ≠ '"') (hb : b ≠ '"')
    (h : doubleQuotes x ++ '"' :: a :: s = doubleQuotes y ++ '"' :: b :: t) :
    x = y ∧ a :: s = b :: t := by
  obtain h | ⟨z, -, hs⟩ | ⟨z, -, ht⟩ := eq_or_longer_of_doubleQuotes h
  · exact h
  · exact absurd (List.cons.inj hs).1 ha
  · exact absurd (List.cons.inj ht).1 hb

/-! ### Taking off the first field -/

/-- Fields with delimiter `d` that stand before `sep` can be told from what they start. -/
def Cancels (d sep : List Char) : Prop :=
  ∀ x y r s, field d x ++ (sep ++ r) = field d y ++ (sep ++ s) → x = y ∧ r = s

/-- The same for fields that are not quoted. -/
def CancelsPlain (d sep : List Char) : Prop :=
  ∀ x y r s, (¬ d <:+: x) → (¬ d <:+: y) → (∀ c ∈ x, ¬ IsQuoting c) → (∀ c ∈ y, ¬ IsQuoting c) →
    x ++ (sep ++ r) = y ++ (sep ++ s) → x = y ∧ r = s

/-- Two fields are both plain, both quoted, or one of each; then the plain one is empty, since the other
starts with a quote. -/
theorem cancels_of_cases {d sep : List Char} (hplain : CancelsPlain d sep)
    (hmixed : ∀ x r s, '"' :: (doubleQuotes x ++ '"' :: (sep ++ r)) ≠ sep ++ s)
    (hquoted : ∀ x y r s, doubleQuotes x ++ '"' :: (sep ++ r) = doubleQuotes y ++ '"' :: (sep ++ s) →
      x = y ∧ r = s) : Cancels d sep := by
  have hnone {x : List Char} (hx : ¬ (d <:+: x ∨ ∃ c ∈ x, IsQuoting c)) : ∀ c ∈ x, ¬ IsQuoting c :=
    fun c hc hq => hx (.inr ⟨c, hc, hq⟩)
  have hquotes (x t : List Char) : inQuotes x ++ t = '"' :: (doubleQuotes x ++ '"' :: t) := by
    rw [inQuotes, List.cons_append, List.append_assoc, List.singleton_append]
  have hne {x y r s : List Char} (hy : ∀ c ∈ y, ¬ IsQuoting c) :
      inQuotes x ++ (sep ++ r) ≠ y ++ (sep ++ s) := by
    rw [hquotes]
    cases y with
    | nil => exact hmixed x r s
    | cons b y => exact fun e => hy b List.mem_cons_self (.inl (List.cons.inj e).1.symm)
  intro x y r s e
  by_cases hx : d <:+: x ∨ ∃ c ∈ x, IsQuoting c <;> by_cases hy : d <:+: y ∨ ∃ c ∈ y, IsQuoting c
  · rw [field_of_quoted hx, field_of_quoted hy, hquotes, hquotes] at e
    exact hquoted x y r s (List.cons.inj e).2
  · rw [field_of_quoted hx, field_of_plain hy] at e
    exact absurd e (hne (hnone hy))
  · rw [field_of_plain hx, field_of_quoted hy] at e
    exact absurd e.symm (hne (hnone hx))
  · rw [field_of_plain hx, field_of_plain hy] at e
    exact hplain x y r s (fun h => hx (.inl h)) (fun h => hy (.inl h)) (hnone hx) (hnone hy) e

/-- Behind a quoted field, a separator that does not start with a quote ends it. -/
theorem CancelsPlain.cancels {d : List Char} {a : Char} {w : List Char} (ha : a ≠ '"')
    (h : CancelsPlain d (a :: w)) : Cancels d (a :: w) := by
  refine cancels_of_cases h (fun x r s e => ha (List.cons.inj e).1.symm) fun x y r s e => ?_
  obtain ⟨rfl, hrs⟩ := eq_of_doubleQuotes ha ha e
  exact ⟨rfl, List.append_cancel_left (List.cons.inj hrs).2⟩

/-- A separator with a quoting character does not stand in a field that is not quoted. -/
theorem cancelsPlain_of_isQuoting {d sep : List Char} (h : ∃ c ∈ sep, IsQuoting c) :
    CancelsPlain d sep := by
  intro x y r s _ _ hx hy e
  -- the first quoting character of the separator
  obtain ⟨c, hfind⟩ := Option.isSome_iff_exists.mp
    (List.find?_isSome.mpr (by simpa using h : ∃ c ∈ sep, decide (IsQuoting c) = true))
  obtain ⟨hc, u, w, rfl, hu⟩ := List.find?_eq_some_iff_append.mp hfind
  have hc : IsQuoting c := of_decide_eq_true hc
  have hnot {t : List Char} (ht : ∀ a ∈ t, ¬ IsQuoting a) : c ∉ t ++ u := by
    intro hmem
    obtain hmem | hmem := List.mem_append.mp hmem
    · exact ht c hmem hc
    · exact absurd hc (by simpa using hu c hmem)
  have e : (x ++ u) ++ c :: (w ++ r) = (y ++ u) ++ c :: (w ++ s) := by
    simpa only [List.append_assoc, List.cons_append] using e
  obtain ⟨hxy, hrs⟩ := eq_of_append_cons (hnot hx) (hnot hy) e
  exact ⟨List.append_cancel_right hxy, List.append_cancel_left hrs⟩

/-- A piece of the text, not all of it, is how it starts and how it ends. -/
def Overlaps (d : List Char) : Prop := ∃ p, p ≠ [] ∧ p ≠ d ∧ p <+: d ∧ p <:+ d

/-- A delimiter that does not overlap itself stands where the longer of two fields ends. -/
theorem eq_of_not_overlaps {d x y r s : List Char} (h : ¬ Overlaps d) (hy : ¬ d <:+: y)
    (hlen : x.length ≤ y.length) (e : x ++ (d ++ r) = y ++ (d ++ s)) : x = y ∧ r = s := by
  obtain ⟨v, rfl⟩ : x <+: y := List.prefix_of_prefix_length_le (List.prefix_append x _)
    (e ▸ List.prefix_append y _) hlen
  rw [List.append_assoc] at e
  have e : d ++ r = v ++ (d ++ s) := List.append_cancel_left e
  by_cases hv : v = []
  · subst hv
    exact ⟨(List.append_nil x).symm, List.append_cancel_left e⟩
  · by_cases hshort : v.length < d.length
    -- what the delimiter has behind the surplus is how it starts
    · obtain ⟨p, rfl⟩ : v <+: d := List.prefix_of_prefix_length_le (List.prefix_append v _)
        (e ▸ List.prefix_append d r) hshort.le
      rw [List.append_assoc] at e
      have hp : p <+: v ++ p := List.prefix_of_prefix_length_le (List.prefix_append p r)
        (List.append_cancel_left e ▸ List.prefix_append _ s) (by simp)
      refine absurd ⟨p, ?_, ?_, hp, List.suffix_append v p⟩ h
      · rintro rfl
        simp at hshort
      · intro heq
        exact hv (List.append_left_eq_self.mp heq.symm)
    · obtain ⟨t, rfl⟩ : d <+: v := List.prefix_of_prefix_length_le (List.prefix_append d r)
        (e ▸ List.prefix_append v _) (Nat.le_of_not_lt hshort)
      exact absurd ⟨x, t, by simp⟩ hy

theorem cancelsPlain_of_not_overlaps {d : List Char} (h : ¬ Overlaps d) : CancelsPlain d d := by
  intro x y r s hx hy _ _ e
  obtain hlen | hlen := Nat.le_total x.length y.length
  · exact eq_of_not_overlaps h hy hlen e
  · obtain ⟨hyx, hsr⟩ := eq_of_not_overlaps h hx hlen e.symm
    exact ⟨hyx.symm, hsr.symm⟩

/-- A delimiter with which one knows from the left where a field ends. -/
inductive Forward : List Char → Prop where
  | plain (a : Char) (w : List Char) : a ≠ '"' →
      (Overlaps (a :: w) → ∃ c ∈ a :: w, IsQuoting c) → Forward (a :: w)
  | quote (x : List Char) (a : Char) (w : List Char) : a ≠ '"' →
      Forward ('"' :: (doubleQuotes x ++ '"' :: a :: w))

/-- A delimiter that starts with a text in quotes and goes on otherwise ends a field that is quoted.  The
end of the field cannot be mistaken for a part of the delimiter, since the delimiter holds no shorter text
in quotes than the one it starts with. -/
theorem cancels_of_quote (x₀ : List Char) {a : Char} (w : List Char) (ha : a ≠ '"') :
    Cancels ('"' :: (doubleQuotes x₀ ++ '"' :: a :: w))
      ('"' :: (doubleQuotes x₀ ++ '"' :: a :: w)) := by
  generalize hd : '"' :: (doubleQuotes x₀ ++ '"' :: a :: w) = d
  have hhead (t : List Char) : d ++ t = '"' :: (doubleQuotes x₀ ++ '"' :: a :: (w ++ t)) := by
    rw [← hd, List.cons_append, List.append_assoc, List.cons_append, List.cons_append]
  have hshorter {x y z t t' : List Char} (hz : x = y ++ '"' :: z) (hx : x₀ = x) :
      d ++ t ≠ '"' :: (doubleQuotes z ++ '"' :: a :: t') := by
    rw [hhead]
    intro e
    obtain ⟨rfl, -⟩ := eq_of_doubleQuotes ha ha (List.cons.inj e).2
    have hlen := congrArg List.length (hx.trans hz)
    rw [List.length_append, List.length_cons] at hlen
    omega
  refine cancels_of_cases (cancelsPlain_of_isQuoting ?_) ?_ ?_
  · exact ⟨'"', hd ▸ List.mem_cons_self, .inl rfl⟩
  · intro x r s e
    rw [hhead s] at e
    obtain ⟨-, hst⟩ | ⟨z, hz, hst⟩ | ⟨z, -, hst⟩ := eq_or_longer_of_doubleQuotes (List.cons.inj e).2
    · rw [hhead r] at hst
      exact ha (List.cons.inj hst).1.symm
    · exact hshorter hz rfl hst
    · exact ha (List.cons.inj hst).1
  · have hlonger {r s z : List Char} : d ++ r ≠ '"' :: (doubleQuotes z ++ '"' :: (d ++ s)) := by
      rw [hhead r]
      intro e
      obtain ⟨-, hst⟩ | ⟨z', -, hst⟩ | ⟨z', hz, hst⟩ :=
        eq_or_longer_of_doubleQuotes (List.cons.inj e).2
      · rw [hhead s] at hst
        exact ha (List.cons.inj hst).1
      · exact ha (List.cons.inj hst).1
      · exact hshorter hz rfl hst
    intro x y r s e
    obtain ⟨rfl, hrs⟩ | ⟨z, -, hz⟩ | ⟨z, -, hz⟩ := eq_or_longer_of_doubleQuotes e
    · exact ⟨rfl, List.append_cancel_left hrs⟩
    · exact absurd hz hlonger
    · exact absurd hz hlonger

theorem Forward.cancels {d : List Char} (h : Forward d) : Cancels d d := by
  cases h with
  | plain a w ha hq =>
    by_cases hquoting : ∃ c ∈ a :: w, IsQuoting c
    · exact (cancelsPlain_of_isQuoting hquoting).cancels ha
    · exact (cancelsPlain_of_not_overlaps (fun ho => hquoting (hq ho))).cancels ha
  | quote x a w ha => exact cancels_of_quote x w ha

theorem cancels_lineFeed (d : List Char) : Cancels d ['\n'] :=
  (cancelsPlain_of_isQuoting ⟨'\n', List.mem_cons_self, .inr (.inl rfl)⟩).cancels (by decide)

/-! ### All fields of all rows -/

/-- The text of rows of fields. -/
def textOf (d : List Char) (rows : List (List (List Char))) : List Char :=
  join ['\n'] (rows.map fun row => join d (row.map (field d)))

/-- The text of rows of known lengths says what their fields are. -/
def Unambiguous (d : List Char) : Prop :=
  ∀ rows rows', rows.map List.length = rows'.map List.length → textOf d rows = textOf d rows' →
    rows = rows'

theorem join_cons_cons (sep x y : List Char) (rest : List (List Char)) :
    join sep (x :: y :: rest) = x ++ (sep ++ join sep (y :: rest)) := by
  rw [join, List.append_assoc]

theorem eq_of_line {d : List Char} (h : Cancels d d) {row row' : List (List Char)} {r s : List Char}
    (hlen : row.length = row'.length)
    (e : join d (row.map (field d)) ++ ('\n' :: r) = join d (row'.map (field d)) ++ ('\n' :: s)) :
    row = row' ∧ r = s := by
  induction row generalizing row' with
  | nil =>
    obtain rfl := List.length_eq_zero_iff.mp hlen.symm
    exact ⟨rfl, (List.cons.inj e).2⟩
  | cons x row ih =>
    obtain ⟨y, row', rfl⟩ := List.exists_cons_of_length_eq_add_one hlen.symm
    cases row with
    | nil =>
      obtain rfl := List.length_eq_zero_iff.mp (Nat.succ.inj hlen).symm
      obtain ⟨rfl, hrs⟩ := cancels_lineFeed d x y r s e
      exact ⟨rfl, hrs⟩
    | cons x' row =>
      obtain ⟨y', row', rfl⟩ := List.exists_cons_of_length_eq_add_one (Nat.succ.inj hlen).symm
      simp only [List.map_cons, join_cons_cons, List.append_assoc] at e
      obtain ⟨rfl, hrest⟩ := h _ _ _ _ e
      obtain ⟨hrow, hrs⟩ := ih (Nat.succ.inj hlen) hrest
      exact ⟨by rw [hrow], hrs⟩

/-- **If the first field can be told from what it starts, the text tells all fields.** -/
theorem unambiguous_of_cancels {d : List Char} (h : Cancels d d) : Unambiguous d := by
  -- behind the last row goes a line feed, as behind the others
  have hrows (rows rows' : List (List (List Char)))
      (hlen : rows.map List.length = rows'.map List.length)
      (e : textOf d rows ++ ['\n'] = textOf d rows' ++ ['\n']) : rows = rows' := by
    induction rows generalizing rows' with
    | nil => exact (List.map_eq_nil_iff.mp hlen.symm).symm
    | cons row rows ih =>
      obtain ⟨row', rows', rfl, hrow, hrest⟩ := List.map_eq_cons_iff.mp hlen.symm
      cases rows with
      | nil =>
        obtain rfl := List.map_eq_nil_iff.mp hrest
        rw [(eq_of_line h hrow.symm e).1]
      | cons row₂ rows =>
        obtain ⟨row₂', rows', rfl, hrow₂, hrest⟩ := List.map_eq_cons_iff.mp hrest
        simp only [textOf, List.map_cons, join_cons_cons, List.append_assoc,
          List.singleton_append] at e
        obtain ⟨rfl, hrows⟩ := eq_of_line h hrow.symm e
        rw [ih (row₂' :: rows') (by rw [List.map_cons, List.map_cons, hrow₂, hrest]) hrows]
  intro rows rows' hlen e
  exact hrows rows rows' hlen (by rw [e])

theorem Forward.unambiguous {d : List Char} (h : Forward d) : Unambiguous d :=
  unambiguous_of_cancels h.cancels

/-! ### Texts written backwards -/

theorem isQuoting_reverse {d text : List Char} :
    (d.reverse <:+: text.reverse ∨ ∃ c ∈ text.reverse, IsQuoting c) ↔
      (d <:+: text ∨ ∃ c ∈ text, IsQuoting c) := by
  simp only [List.reverse_infix, List.mem_reverse]

theorem field_reverse (d text : List Char) :
    field d.reverse text.reverse = (field d text).reverse := by
  by_cases h : d <:+: text ∨ ∃ c ∈ text, IsQuoting c
  · rw [field_of_quoted h, field_of_quoted (isQuoting_reverse.mpr h), inQuotes_reverse]
  · rw [field_of_plain h, field_of_plain (fun hr => h (isQuoting_reverse.mp hr))]

theorem join_append_singleton (sep : List Char) (x y : List Char) (rest : List (List Char)) :
    join sep (x :: rest ++ [y]) = join sep (x :: rest) ++ (sep ++ y) := by
  induction rest generalizing x with
  | nil => exact List.append_assoc x sep y
  | cons z rest ih =>
    rw [List.cons_append, List.cons_append, join_cons_cons, join_cons_cons, ← List.cons_append, ih,
      List.append_assoc, List.append_assoc]

theorem join_reverse (sep : List Char) (pieces : List (List Char)) :
    join sep.reverse (pieces.map List.reverse).reverse = (join sep pieces).reverse := by
  induction pieces with
  | nil => rfl
  | cons x pieces ih =>
    cases pieces with
    | nil => rfl
    | cons y rest =>
      rw [join_cons_cons, List.reverse_append, List.reverse_append, ← ih, List.map_cons,
        List.reverse_cons]
      obtain ⟨z, zs, hz⟩ := List.exists_cons_of_ne_nil
        (show ((y :: rest).map List.reverse).reverse ≠ [] by simp)
      rw [hz, join_append_singleton, List.append_assoc]

/-- The rows and their fields in the other order, all texts backwards. -/
def backwards (rows : List (List (List Char))) : List (List (List Char)) :=
  (rows.map fun row => (row.map List.reverse).reverse).reverse

theorem backwards_injective : Function.Injective backwards := by
  refine List.reverse_injective.comp (List.map_injective_iff.mpr ?_)
  exact List.reverse_injective.comp (List.map_injective_iff.mpr List.reverse_injective)

theorem reverse_textOf (d : List Char) (rows : List (List (List Char))) :
    textOf d.reverse (backwards rows) = (textOf d rows).reverse := by
  rw [textOf, textOf, ← join_reverse, backwards, List.map_reverse, List.map_map, List.map_map]
  congr 2
  refine List.map_congr_left fun row _ => ?_
  rw [Function.comp_apply, Function.comp_apply, ← join_reverse, List.map_reverse, List.map_map,
    List.map_map]
  congr 2
  exact List.map_congr_left fun text _ => field_reverse d text

theorem Unambiguous.of_reverse {d : List Char} (h : Unambiguous d.reverse) : Unambiguous d := by
  intro rows rows' hlen e
  refine backwards_injective (h _ _ ?_ (by rw [reverse_textOf, reverse_textOf, e]))
  simpa [backwards, List.map_reverse, List.map_map, Function.comp_def] using hlen

/-! ### Delimiters that separate -/

/-- Delimiters with which a text says what was written. -/
structure Separates (d : List Char) : Prop where
  /-- It is not made of quotes alone. -/
  notQuotes : ∃ c ∈ d, c ≠ '"'
  /-- It is not itself a text in quotes. -/
  notQuoted : ∀ text, d ≠ inQuotes text
  /-- It does not start the way it ends, unless a field that holds a part of it is quoted. -/
  notOverlapping : Overlaps d → ∃ c ∈ d, IsQuoting c

/-- What follows a quote: a text with its quotes doubled up to the end, up to a single quote at the end,
or up to a single quote with something else behind it. -/
theorem doubleQuotes_cases (m : List Char) :
    (∃ x, m = doubleQuotes x) ∨ (∃ x, m = doubleQuotes x ++ ['"']) ∨
      ∃ x a w, a ≠ '"' ∧ m = doubleQuotes x ++ '"' :: a :: w := by
  -- a character, or two quotes, in front change nothing
  have hcons (c : Char) (start : List Char) {rest : List Char}
      (hstart : ∀ x, start ++ doubleQuotes x = doubleQuotes (c :: x))
      (h : (∃ x, rest = doubleQuotes x) ∨ (∃ x, rest = doubleQuotes x ++ ['"']) ∨
        ∃ x a w, a ≠ '"' ∧ rest = doubleQuotes x ++ '"' :: a :: w) :
      (∃ x, start ++ rest = doubleQuotes x) ∨ (∃ x, start ++ rest = doubleQuotes x ++ ['"']) ∨
        ∃ x a w, a ≠ '"' ∧ start ++ rest = doubleQuotes x ++ '"' :: a :: w := by
    obtain ⟨x, rfl⟩ | ⟨x, rfl⟩ | ⟨x, a, w, ha, rfl⟩ := h
    · exact .inl ⟨c :: x, hstart x⟩
    · exact .inr (.inl ⟨c :: x, by rw [← hstart, List.append_assoc]⟩)
    · exact .inr (.inr ⟨c :: x, a, w, ha, by rw [← hstart, List.append_assoc]⟩)
  match m with
  | [] => exact .inl ⟨[], rfl⟩
  | c :: rest =>
    by_cases hc : c = '"'
    · subst hc
      match rest with
      | [] => exact .inr (.inl ⟨[], rfl⟩)
      | a :: rest =>
        by_cases ha : a = '"'
        · subst ha
          exact hcons '"' ['"', '"'] (fun x => (doubleQuotes_quote x).symm)
            (doubleQuotes_cases rest)
        · exact .inr (.inr ⟨[], a, rest, ha, rfl⟩)
    · exact hcons c [c] (fun x => (doubleQuotes_of_ne hc x).symm)
        (doubleQuotes_cases rest)

/-- A quote that can be moved from the front to the end passes quotes only. -/
theorem eq_quote_of_mem {x y : List Char} (h : '"' :: doubleQuotes x = doubleQuotes y ++ ['"']) :
    ∀ c ∈ doubleQuotes x, c = '"' := by
  induction x generalizing y with
  | nil => exact fun c hc => absurd hc List.not_mem_nil
  | cons a x ih =>
    cases y with
    | nil =>
      have hnil : doubleQuotes (a :: x) = [] := (List.cons.inj h).2
      rw [hnil]
      exact fun c hc => absurd hc List.not_mem_nil
    | cons b y =>
      by_cases hb : b = '"'
      · rw [hb, doubleQuotes_quote] at h
        have h := (List.cons.inj h).2
        by_cases ha : a = '"'
        · subst ha
          rw [doubleQuotes_quote] at h ⊢
          have hrest := ih (List.cons.inj h).2
          simpa using hrest
        · rw [doubleQuotes_of_ne ha] at h
          exact absurd (List.cons.inj h).1 ha
      · rw [doubleQuotes_of_ne hb] at h
        exact absurd (List.cons.inj h).1.symm hb

/-- **A delimiter that separates tells where a field ends**, reading from the left or from the right. -/
theorem Separates.forward {d : List Char} (h : Separates d) : Forward d ∨ Forward d.reverse := by
  obtain ⟨a, w, rfl⟩ : ∃ a w, d = a :: w := by
    obtain ⟨c, hc, -⟩ := h.notQuotes
    exact List.exists_cons_of_ne_nil (List.ne_nil_of_mem hc)
  by_cases ha : a = '"'
  swap
  · exact .inl (.plain a w ha h.notOverlapping)
  subst ha
  obtain ⟨x, rfl⟩ | ⟨x, rfl⟩ | ⟨x, a, w, ha, rfl⟩ := doubleQuotes_cases w
  · -- the same from the right
    obtain ⟨b, v, hv⟩ := List.exists_cons_of_ne_nil
      (show ('"' :: doubleQuotes x).reverse ≠ [] by simp)
    by_cases hb : b = '"'
    swap
    · rw [hv]
      refine .inr (.plain b v hb fun _ => ⟨'"', ?_, .inl rfl⟩)
      rw [← hv, List.mem_reverse]
      exact List.mem_cons_self
    subst hb
    obtain ⟨y, rfl⟩ | ⟨y, rfl⟩ | ⟨y, a, w, ha, rfl⟩ := doubleQuotes_cases v
    · have hmoved : '"' :: doubleQuotes x = doubleQuotes y.reverse ++ ['"'] := by
        rw [← List.reverse_reverse ('"' :: doubleQuotes x), hv, List.reverse_cons,
          doubleQuotes_reverse]
      obtain ⟨c, hc, hne⟩ := h.notQuotes
      obtain rfl | hc := List.mem_cons.mp hc
      · exact absurd rfl hne
      · exact absurd (eq_quote_of_mem hmoved c hc) hne
    · refine absurd ?_ (h.notQuoted y.reverse)
      rw [inQuotes_reverse, inQuotes, ← hv, List.reverse_reverse]
    · rw [hv]
      exact .inr (.quote y a w ha)
  · exact absurd rfl (h.notQuoted x)
  · exact .inl (.quote x a w ha)

theorem Separates.unambiguous {d : List Char} (h : Separates d) : Unambiguous d := by
  obtain h | h := h.forward
  · exact h.unambiguous
  · exact h.unambiguous.of_reverse

/-! ### Delimiters that do not -/

/-- A text shorter than the delimiter does not hold it. -/
theorem field_of_length_lt {d text : List Char} (hlen : text.length < d.length)
    (h : ∀ c ∈ text, ¬ IsQuoting c) : field d text = text := by
  refine field_of_plain ?_
  rintro (hd | ⟨c, hc, hq⟩)
  · exact absurd hd.length_le (Nat.not_le.mpr hlen)
  · exact h c hc hq

theorem field_of_quote {d text : List Char} (h : '"' ∈ text) : field d text = inQuotes text :=
  field_of_quoted (.inr ⟨'"', h, .inl rfl⟩)

/-- Of a field before an empty one and a field behind an empty one, written alike, the first is empty. -/
theorem Unambiguous.eq_nil {d x y : List Char} (h : Unambiguous d) (hd : d ≠ [])
    (e : field d x ++ d = d ++ field d y) : x = [] := by
  have hnil : field d [] = [] :=
    field_of_length_lt (List.length_pos_iff.mpr hd) fun c hc => absurd hc List.not_mem_nil
  have hrows : textOf d [[x, []]] = textOf d [[[], y]] := by
    simpa only [textOf, List.map_cons, List.map_nil, join, hnil, List.append_nil,
      List.nil_append] using e
  have hfields := h [[x, []]] [[[], y]] rfl hrows
  exact (List.cons.inj (List.cons.inj hfields).1).1

/-- Quotes alone go before a quoted field like behind it. -/
theorem Unambiguous.notQuotes {d : List Char} (h : Unambiguous d) (hd : d ≠ []) :
    ∃ c ∈ d, c ≠ '"' := by
  by_contra hall
  have hall : ∀ c ∈ d, c = '"' := fun c hc => not_not.mp fun hne => hall ⟨c, hc, hne⟩
  obtain ⟨n, rfl⟩ : ∃ n, d = List.replicate n '"' := ⟨_, List.eq_replicate_iff.mpr ⟨rfl, hall⟩⟩
  have hquote : field (List.replicate n '"') ['"'] = List.replicate 4 '"' :=
    field_of_quote List.mem_cons_self
  have hnil : ['"'] = [] := h.eq_nil hd (y := ['"']) (by
    rw [hquote, List.replicate_append_replicate, List.replicate_append_replicate, Nat.add_comm])
  cases hnil

/-- A text in quotes goes before a quoted field that starts like it, or behind one that ends like it. -/
theorem Unambiguous.notQuoted {d : List Char} (h : Unambiguous d) (text : List Char) :
    d ≠ inQuotes text := by
  rintro rfl
  have hnil : text ++ ['"'] = [] :=
    h.eq_nil (List.cons_ne_nil _ _) (y := '"' :: text) (by
      rw [field_of_quote List.mem_cons_self,
        field_of_quote (List.mem_append_right _ List.mem_cons_self)]
      simp [inQuotes, doubleQuotes_append, doubleQuotes])
  exact absurd hnil (by simp)

/-- Of two delimiters that overlap, one stands first and one stands last. -/
theorem Unambiguous.notOverlapping {d : List Char} (h : Unambiguous d) (ho : Overlaps d) :
    ∃ c ∈ d, IsQuoting c := by
  by_contra hnone
  obtain ⟨p, hp, hne, ⟨v, hv⟩, ⟨u, hu⟩⟩ := ho
  have hplain {t : List Char} (hsub : t ⊆ d) : ∀ c ∈ t, ¬ IsQuoting c :=
    fun c hc hq => hnone ⟨c, hsub hc, hq⟩
  have hpos : 0 < p.length := List.length_pos_iff.mpr hp
  have hfirst : field d u = u := field_of_length_lt (by rw [← hu, List.length_append]; omega)
    (hplain (hu ▸ List.subset_append_left u p))
  have hlast : field d v = v := field_of_length_lt (by rw [← hv, List.length_append]; omega)
    (hplain (hv ▸ List.subset_append_right p v))
  have hd : d ≠ [] := fun hnil => hp (List.append_eq_nil_iff.mp (hu.trans hnil)).2
  have e : field d u ++ d = d ++ field d v := by
    rw [hfirst, hlast]
    calc u ++ d = u ++ (p ++ v) := by rw [hv]
      _ = d ++ v := by rw [← List.append_assoc, hu]
  rw [h.eq_nil hd e, List.nil_append] at hu
  exact hne hu

/-- **The text tells the fields exactly if the delimiter separates.** -/
theorem unambiguous_iff {d : List Char} (hd : d ≠ []) : Unambiguous d ↔ Separates d :=
  ⟨fun h => ⟨h.notQuotes hd, h.notQuoted, h.notOverlapping⟩, Separates.unambiguous⟩

/-! ### Matrices -/

/-- The texts of the cells. -/
def texts (m : Matrix) : List (List (List Char)) := m.map fun row => row.map fun c => c.toText.toList

theorem write_eq_textOf (delimiter : String) (m : Matrix) :
    write delimiter true m = String.ofList (textOf delimiter.toList (texts m)) := by
  rw [write, if_pos rfl, textOf, texts, List.map_map]
  congr 3
  funext row
  rw [line, Function.comp_apply, List.map_map]
  rfl

theorem length_texts (m : Matrix) : (texts m).map List.length = m.map List.length := by
  simp [texts, Function.comp_def]

theorem texts_eq_iff {m m' : Matrix} :
    texts m = texts m' ↔ m.map (·.map Cell.toText) = m'.map (·.map Cell.toText) := by
  have h (m : Matrix) : texts m = (m.map (·.map Cell.toText)).map (·.map String.toList) := by
    simp [texts, List.map_map, Function.comp_def]
  rw [h, h]
  exact (List.map_injective_iff.mpr
    (List.map_injective_iff.mpr fun _ _ => String.toList_injective)).eq_iff

/-- Any fields are the texts of a matrix. -/
theorem exists_texts (rows : List (List (List Char))) : ∃ m, texts m = rows :=
  ⟨rows.map fun row => row.map fun t => .text (String.ofList t), by
    simp [texts, List.map_map, Function.comp_def]⟩

/-- **When matrices of one shape are written alike only if their cells have the same texts.** -/
theorem write_injective_iff {delimiter : String} (hd : delimiter ≠ "") :
    (∀ m m' : Matrix, m.map List.length = m'.map List.length →
        write delimiter true m = write delimiter true m' →
        m.map (·.map Cell.toText) = m'.map (·.map Cell.toText)) ↔
      Separates delimiter.toList := by
  rw [← unambiguous_iff (fun h => hd (String.toList_eq_nil_iff.mp h))]
  constructor
  · intro h rows rows' hlen e
    obtain ⟨m, rfl⟩ := exists_texts rows
    obtain ⟨m', rfl⟩ := exists_texts rows'
    rw [length_texts, length_texts] at hlen
    exact texts_eq_iff.mpr (h m m' hlen (by rw [write_eq_textOf, write_eq_textOf, e]))
  · intro h m m' hlen e
    rw [write_eq_textOf, write_eq_textOf] at e
    rw [← length_texts, ← length_texts] at hlen
    exact texts_eq_iff.mp (h _ _ hlen (String.ofList_injective e))

/-- Characters that all differ, the first no quote, separate. -/
theorem separates_of_nodup {a : Char} {w : List Char} (ha : a ≠ '"') (h : (a :: w).Nodup) :
    Separates (a :: w) where
  notQuotes := ⟨a, List.mem_cons_self, ha⟩
  notQuoted text e := ha (List.cons.inj e).1
  notOverlapping := by
    rintro ⟨p, hp, hne, ⟨v, hv⟩, ⟨u, hu⟩⟩
    -- how it starts comes again further behind
    obtain ⟨b, q, rfl⟩ := List.exists_cons_of_ne_nil hp
    obtain rfl : b = a := (List.cons.inj hv).1
    cases u with
    | nil => exact absurd hu hne
    | cons c u =>
      have hmem : b ∈ w := (List.cons.inj hu).2 ▸ List.mem_append_right u List.mem_cons_self
      exact absurd hmem (List.nodup_cons.mp h).1

end Sheetflow.Csv

/-! ### Formats of documents -/

namespace Sheetflow.Document
open Sheetflow.Field Checked
variable {target : Target} {doc : Value} {c : Configuration}

/-- **When output with headers is unambiguous.**  With the format of an accepted document, matrices of
one shape that are written alike hold the same texts, exactly if the delimiter separates. -/
theorem output_unambiguous_iff (hparse : parse target doc = .ok c)
    (hheaders : c.output.includeHeaders = true) :
    (∀ m m' : Matrix, m.map List.length = m'.map List.length →
        c.output.write m = c.output.write m' →
        m.map (·.map Cell.toText) = m'.map (·.map Cell.toText)) ↔
      Csv.Separates c.output.delimiter.toList := by
  rw [← Csv.write_injective_iff
    (OutputFormat.delimiter_ne_empty (parse_eq_ok_iff.mp hparse).2.2.1)]
  simp only [OutputFormat.write, hheaders]

/-- A document without rules whose output has this delimiter. -/
def delimited (delimiter : String) : Value :=
  .record [("name", .str "n"), ("rules", .list []),
    ("outputFormat", .record [("type", .str "CSV"), ("delimiter", .str delimiter)])]

/-- With a semicolon and a blank between them, no two rows of fields are written alike. -/
theorem output_unambiguous_of_semicolon :
    ∃ c, parse ⟨"org", "cfg_1", 1⟩ (delimited "; ") = .ok c ∧ c.output.includeHeaders = true ∧
      ∀ m m' : Matrix, m.map List.length = m'.map List.length → c.output.write m = c.output.write m' →
        m.map (·.map Cell.toText) = m'.map (·.map Cell.toText) := by
  have hparse : parse ⟨"org", "cfg_1", 1⟩ (delimited "; ") = .ok
      { id := "cfg_1", organization := "org", name := "n", description := none, rules := []
        output := ⟨"; ", .utf8, true⟩, version := 1, active := true, createdAt := none
        updatedAt := none } := by decide +kernel
  exact ⟨_, hparse, rfl, (output_unambiguous_iff hparse rfl).mpr
    (Csv.separates_of_nodup (by decide) (by decide))⟩

/-- Two colons are a delimiter, but with them the fields of two different rows are written alike. -/
theorem output_ambiguous_of_colons :
    let m : Matrix := [[.text "a:", .text "b"]]
    let m' : Matrix := [[.text "a", .text ":b"]]
    ∃ c, parse ⟨"org", "cfg_1", 1⟩ (delimited "::") = .ok c ∧ c.output.includeHeaders = true ∧
      m.map List.length = m'.map List.length ∧ c.output.write m = c.output.write m' ∧
      m.map (·.map Cell.toText) ≠ m'.map (·.map Cell.toText) := by
  refine ⟨{ id := "cfg_1", organization := "org", name := "n", description := none, rules := []
            output := ⟨"::", .utf8, true⟩, version := 1, active := true, createdAt := none
            updatedAt := none }, by decide +kernel, rfl, rfl, by decide +kernel, by decide⟩

end Sheetflow.Document
